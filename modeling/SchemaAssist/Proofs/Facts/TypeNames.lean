import SchemaAssist.Facts
import SchemaAssist.Proofs.Block.HeaderSpelling
import SchemaAssist.Proofs.Cursor.Word

/-!
# Names that can be typed, and headers

A name is offered as a type where it is one word on a header line and whitespace stands between it
and the brace (`declaredName?_eq_some_iff`). A header line without that whitespace opens a block all
the same.
-/

namespace SchemaAssist

theorem takeRun?_eq_some_iff {p : Char → Bool} {text run rest : Text} :
    takeRun? p text = some (run, rest) ↔
      run ≠ [] ∧ (∀ c ∈ run, p c = true) ∧ (∀ c ∈ rest.head?, p c = false) ∧
        text = run ++ rest := by
  rw [takeRun?]
  constructor
  · intro h
    split at h
    · contradiction
    · next hne =>
      cases h
      exact ⟨hne, fun c hc => List.mem_takeWhile_imp hc, Text.head?_dropWhile_eq_false p text,
        List.takeWhile_append_dropWhile.symm⟩
  · rintro ⟨hne, hrun, hrest, rfl⟩
    have htake : (run ++ rest).takeWhile p = run := Text.takeWhile_append_eq hrun hrest
    have hdrop : (run ++ rest).dropWhile p = rest := by
      have hsplit := List.takeWhile_append_dropWhile (p := p) (l := run ++ rest)
      rw [htake] at hsplit
      exact List.append_cancel_left hsplit
    obtain ⟨c, run, rfl⟩ := List.exists_cons_of_ne_nil hne
    rw [htake, hdrop]

/-- A name of word characters on a header line, and whitespace between it and the brace. -/
structure HeaderSpelling.Typable (spelling : HeaderSpelling) : Prop where
  isWord_of_mem_name : ∀ c ∈ spelling.name, Text.isWord c = true
  filler_ne_nil : spelling.filler ≠ []

namespace Text

theorem isWord_brace : isWord '{' = false := by decide +kernel

theorem Blank.not_word_head {text rest : Text} (h : Blank text) (hne : text ≠ []) :
    ∀ c ∈ (text ++ rest).head?, isWord c = false :=
  fun c hc => isWord_eq_false_of_isSpace (h.isSpace_head? hne rest c hc)

end Text

theorem declaredName?_line {spelling : HeaderSpelling} (h : spelling.Typable) :
    declaredName? spelling.kind spelling.line = some spelling.name := by
  obtain ⟨hword, hfiller⟩ := h
  obtain ⟨kind, gap, name, filler, rest, hgap, hblank, hname, _, _, hblank'⟩ := spelling
  simp only at hword hfiller
  have hkeyword : Text.after? kind.keyword
      (kind.keyword ++ (gap ++ name ++ filler ++ '{' :: rest)) =
      some (gap ++ (name ++ (filler ++ '{' :: rest))) := by
    rw [Text.after?_eq_some_iff]
    simp
  have hgap' : takeRun? Text.isSpace (gap ++ (name ++ (filler ++ '{' :: rest))) =
      some (gap, name ++ (filler ++ '{' :: rest)) := by
    refine takeRun?_eq_some_iff.2 ⟨hgap, hblank, ?_, rfl⟩
    obtain ⟨d, tail, rfl⟩ := List.exists_cons_of_ne_nil hname
    rintro c ⟨⟩
    exact Text.isSpace_eq_false_of_isWord (hword d (List.mem_cons_self ..))
  have hname' : takeRun? Text.isWord (name ++ (filler ++ '{' :: rest)) =
      some (name, filler ++ '{' :: rest) :=
    takeRun?_eq_some_iff.2 ⟨hname, hword, Text.Blank.not_word_head hblank' hfiller, rfl⟩
  have hfiller' : takeRun? Text.isSpace (filler ++ '{' :: rest) = some (filler, '{' :: rest) := by
    refine takeRun?_eq_some_iff.2 ⟨hfiller, hblank', ?_, rfl⟩
    rintro c ⟨⟩
    exact Header.isSpace_brace
  simp only [declaredName?, HeaderSpelling.line, hkeyword, hgap', hname', hfiller',
    Option.bind_eq_bind, Option.bind_some]

theorem exists_spelling_of_declaredName? {kind : Kind} {line name : Text}
    (h : declaredName? kind line = some name) :
    ∃ spelling : HeaderSpelling, spelling.Typable ∧ spelling.line = line ∧ spelling.kind = kind ∧
      spelling.name = name := by
  simp only [declaredName?, Option.bind_eq_bind, Option.bind_eq_some_iff] at h
  obtain ⟨_, hkeyword, ⟨gap, _⟩, hgap, ⟨word, _⟩, hword, ⟨filler, behind⟩, hfiller, hbrace⟩ := h
  obtain rfl := Text.after?_eq_some_iff.1 hkeyword
  obtain ⟨hgap_ne, hblank, -, rfl⟩ := takeRun?_eq_some_iff.1 hgap
  obtain ⟨hword_ne, hrun, -, rfl⟩ := takeRun?_eq_some_iff.1 hword
  obtain ⟨hfiller_ne, hblank', -, rfl⟩ := takeRun?_eq_some_iff.1 hfiller
  simp only at hbrace
  split at hbrace
  · next rest =>
    cases hbrace
    have htrim : Text.trim name = name :=
      Text.trim_eq_self fun c hc => Text.isSpace_eq_false_of_isWord (hrun c hc)
    have hnotin : '{' ∉ name := by
      intro hmem
      have hword := hrun _ hmem
      rw [Text.isWord_brace] at hword
      contradiction
    exact ⟨⟨kind, gap, name, filler, rest, hgap_ne, hblank, hword_ne, htrim, hnotin, hblank'⟩,
      ⟨hrun, hfiller_ne⟩, by simp [HeaderSpelling.line], rfl, rfl⟩
  · contradiction

theorem declaredName?_eq_some_iff {kind : Kind} {line name : Text} :
    declaredName? kind line = some name ↔
      ∃ spelling : HeaderSpelling, spelling.Typable ∧ spelling.line = line ∧
        spelling.kind = kind ∧ spelling.name = name := by
  constructor
  · exact exists_spelling_of_declaredName?
  · rintro ⟨spelling, htypable, rfl, rfl, rfl⟩
    exact declaredName?_line htypable

theorem declaredName?_unique {kind kind' : Kind} {line name name' : Text}
    (h : declaredName? kind line = some name) (h' : declaredName? kind' line = some name') :
    name = name' := by
  obtain ⟨spelling, -, hline, -, rfl⟩ := declaredName?_eq_some_iff.1 h
  obtain ⟨spelling', -, hline', -, rfl⟩ := declaredName?_eq_some_iff.1 h'
  have hheader := Header.ofLine?_line spelling
  rw [hline, ← hline', Header.ofLine?_line] at hheader
  exact (congrArg Header.name (Option.some.inj hheader)).symm

theorem findSome?_declaredName?_eq_some_iff {kinds : List Kind} {line name : Text} :
    kinds.findSome? (declaredName? · line) = some name ↔
      ∃ kind ∈ kinds, declaredName? kind line = some name := by
  constructor
  · exact List.exists_of_findSome?_eq_some
  · rintro ⟨kind, hkind, hname⟩
    cases hfound : kinds.findSome? (declaredName? · line) with
    | none =>
      rw [List.findSome?_eq_none_iff.1 hfound kind hkind] at hname
      contradiction
    | some found =>
      obtain ⟨kind', -, hname'⟩ := List.exists_of_findSome?_eq_some hfound
      rw [declaredName?_unique hname' hname]

theorem mem_relationNames_append_iff {lines : List Text} {name : Text} :
    name ∈ relationNames lines ++ compositeTypeNames lines ↔
      ∃ spelling : HeaderSpelling, spelling.Typable ∧ spelling.line ∈ lines ∧
        spelling.kind ∈ Kind.named ∧ spelling.name = name := by
  simp only [List.mem_append, relationNames, compositeTypeNames, List.mem_filterMap,
    findSome?_declaredName?_eq_some_iff, declaredName?_eq_some_iff]
  constructor
  · rintro (⟨_, hline, _, hkind, spelling, htypable, rfl, rfl, rfl⟩ |
      ⟨_, hline, spelling, htypable, rfl, hkind, rfl⟩)
    · refine ⟨spelling, htypable, hline, ?_, rfl⟩
      revert hkind
      cases spelling.kind <;> decide
    · exact ⟨spelling, htypable, hline, by rw [hkind]; decide, rfl⟩
  · rintro ⟨spelling, htypable, hline, hkind, rfl⟩
    by_cases htype : spelling.kind = .type
    · exact .inr ⟨_, hline, spelling, htypable, rfl, htype, rfl⟩
    · refine .inl ⟨_, hline, spelling.kind, ?_, spelling, htypable, rfl, rfl, rfl⟩
      revert hkind htype
      cases spelling.kind <;> decide

end SchemaAssist
