import SchemaAssist.Block.Scan
import SchemaAssist.Proofs.Text.Trimming

/-!
# How a header line is spelled

A header line without whitespace in front is a keyword, a gap, a name, perhaps another gap, and an
opening brace; anything may follow. `ofLine?_line` reads every such line, and `exists_spelling` says
that no other line is read. `ofLine?_eq_some_iff` holds of every line, also where whitespace stands
in front.
-/

namespace SchemaAssist

namespace Kind

theorem isSpace_of_mem_keyword {kind : Kind} {c : Char} (h : c ∈ kind.keyword) :
    Text.isSpace c = false :=
  Text.isSpace_eq_false_of_all (by cases kind <;> decide) c h

theorem brace_not_mem_keyword (kind : Kind) : '{' ∉ kind.keyword := by cases kind <;> decide

theorem keyword_ne_nil (kind : Kind) : kind.keyword ≠ [] := by cases kind <;> decide

end Kind

/-- The parts of a header line. The name holds no opening brace and has no whitespace around it, but
there may be whitespace in it. -/
structure HeaderSpelling where
  kind : Kind
  gap : Text
  name : Text
  filler : Text
  rest : Text
  gap_ne_nil : gap ≠ []
  blank_gap : Text.Blank gap
  name_ne_nil : name ≠ []
  trim_name : Text.trim name = name
  brace_not_mem_name : '{' ∉ name
  blank_filler : Text.Blank filler

namespace HeaderSpelling

def line (spelling : HeaderSpelling) : Text :=
  spelling.kind.keyword ++
    (spelling.gap ++ spelling.name ++ spelling.filler ++ '{' :: spelling.rest)

def header (spelling : HeaderSpelling) : Header where
  kind := spelling.kind
  name := spelling.name
  column := spelling.kind.keyword.length + spelling.gap.length

end HeaderSpelling

namespace Header

theorem ofLine?_eq_some_iff {line : Text} {header : Header} :
    ofLine? line = some header ↔
      '{' ∈ line ∧ firstToken line = header.kind.keyword ∧
        header.name = Text.trim (middle header.kind line) ∧ header.name ≠ [] ∧
        header.column =
          header.kind.keyword.length + (Text.indent (middle header.kind line)).length := by
  constructor
  · intro h
    unfold ofLine? at h
    split at h
    · next hbrace =>
      obtain ⟨kind, hkind, h⟩ := Option.bind_eq_some_iff.1 h
      dsimp only at h
      split at h
      · contradiction
      · next hname =>
        cases h
        exact ⟨hbrace, Kind.ofKeyword?_eq_some_iff.1 hkind, rfl, hname, rfl⟩
    · contradiction
  · rintro ⟨hbrace, hfirst, hname, hne, hcolumn⟩
    obtain ⟨kind, name, column⟩ := header
    simp only at hfirst hname hne hcolumn
    subst hname hcolumn
    rw [ofLine?, if_pos hbrace, Kind.ofKeyword?_eq_some_iff.2 hfirst]
    exact if_neg hne

theorem isInfix_keyword {line : Text} {header : Header} (h : ofLine? line = some header) :
    header.kind.keyword <:+: line := by
  obtain ⟨-, hfirst, -⟩ := ofLine?_eq_some_iff.1 h
  rw [← hfirst, firstToken]
  exact (List.takeWhile_prefix _).isInfix.trans (Text.trimStart_suffix line).isInfix

theorem isSpace_brace : Text.isSpace '{' = false := by decide

theorem brace_not_mem_of_blank {text : Text} (h : Text.Blank text) : '{' ∉ text :=
  h.not_mem isSpace_brace

-- ---------------------------------------------------------------------------
-- Reading what is spelled
-- ---------------------------------------------------------------------------

theorem firstToken_keyword_append (kind : Kind) {c : Char} (hc : Text.isSpace c = true)
    (rest : Text) : firstToken (kind.keyword ++ c :: rest) = kind.keyword := by
  have hstart : Text.trimStart (kind.keyword ++ c :: rest) = kind.keyword ++ c :: rest := by
    cases hk : kind.keyword with
    | nil => exact absurd hk kind.keyword_ne_nil
    | cons d word =>
      exact Text.trimStart_cons (Kind.isSpace_of_mem_keyword (hk ▸ List.mem_cons_self ..)) _
  have hword : ∀ d ∈ kind.keyword, (!Text.isSpace d) = true := by
    intro d hd
    rw [Kind.isSpace_of_mem_keyword hd]
    rfl
  rw [firstToken, hstart, List.takeWhile_append_of_pos hword,
    List.takeWhile_cons_of_neg (by simp [hc]), List.append_nil]

theorem middle_keyword_append (kind : Kind) {text : Text} (h : '{' ∉ text) (rest : Text) :
    middle kind (kind.keyword ++ (text ++ '{' :: rest)) = text := by
  have htext : ∀ c ∈ text, (c != '{') = true := by
    intro c hc
    simpa using fun he : c = '{' => h (he ▸ hc)
  rw [middle, List.drop_left, List.takeWhile_append_of_pos htext,
    List.takeWhile_cons_of_neg (by simp), List.append_nil]

theorem ofLine?_line (spelling : HeaderSpelling) :
    ofLine? spelling.line = some spelling.header := by
  obtain ⟨kind, gap, name, filler, rest, hgap, hblank, hname, htrim, hbrace, hfiller⟩ := spelling
  have hfirst : firstToken (kind.keyword ++ (gap ++ name ++ filler ++ '{' :: rest)) =
      kind.keyword := by
    cases gap with
    | nil => exact absurd rfl hgap
    | cons c gap => exact firstToken_keyword_append kind (hblank c (List.mem_cons_self ..)) _
  have hmiddle : middle kind (kind.keyword ++ (gap ++ name ++ filler ++ '{' :: rest)) =
      gap ++ name ++ filler := by
    refine middle_keyword_append kind ?_ rest
    simp only [List.mem_append, not_or]
    exact ⟨⟨brace_not_mem_of_blank hblank, hbrace⟩, brace_not_mem_of_blank hfiller⟩
  have hindent : Text.indent (gap ++ name ++ filler) = gap := by
    cases name with
    | nil => exact absurd rfl hname
    | cons c word =>
      rw [List.append_assoc, List.cons_append]
      exact Text.indent_append hblank (Text.isSpace_head htrim) _
  rw [ofLine?_eq_some_iff]
  simp only [HeaderSpelling.line, HeaderSpelling.header]
  rw [hfirst, hmiddle, hindent, Text.trim_append_append hblank htrim hfiller]
  exact ⟨by simp, rfl, rfl, hname, rfl⟩

-- ---------------------------------------------------------------------------
-- Nothing else is read
-- ---------------------------------------------------------------------------

theorem exists_eq_takeWhile_append {text : Text} (h : '{' ∈ text) :
    ∃ rest, text = text.takeWhile (· != '{') ++ '{' :: rest := by
  induction text with
  | nil => simp at h
  | cons c text ih =>
    by_cases hc : c = '{'
    · exact ⟨text, by simp [hc]⟩
    · obtain ⟨rest, hrest⟩ := ih (by simpa [Ne.symm hc] using h)
      refine ⟨rest, ?_⟩
      rw [List.takeWhile_cons_of_pos (by simpa using hc), List.cons_append, ← hrest]

theorem indent_takeWhile_ne_nil {line : Text}
    (h : (line.dropWhile (!Text.isSpace ·)).takeWhile (· != '{') ≠ []) :
    Text.indent ((line.dropWhile (!Text.isSpace ·)).takeWhile (· != '{')) ≠ [] := by
  have hhead := List.head?_dropWhile_not (!Text.isSpace ·) line
  cases htail : line.dropWhile (!Text.isSpace ·) with
  | nil => simp [htail] at h
  | cons c tail =>
    have hc : Text.isSpace c = true := by simpa [htail] using hhead
    have hne : c ≠ '{' := by
      rintro rfl
      exact absurd hc (by simp [isSpace_brace])
    rw [List.takeWhile_cons_of_pos (by simpa using hne), Text.indent,
      List.takeWhile_cons_of_pos hc]
    exact List.cons_ne_nil _ _

theorem exists_spelling {line : Text} {header : Header} (hline : Text.trimStart line = line)
    (h : ofLine? line = some header) :
    ∃ spelling : HeaderSpelling, spelling.line = line ∧ spelling.header = header := by
  obtain ⟨hbrace, hfirst, hname, hne, hcolumn⟩ := ofLine?_eq_some_iff.1 h
  obtain ⟨kind, name, column⟩ := header
  simp only at hfirst hname hne hcolumn
  -- The keyword is cut off; what is left up to the brace is the middle.
  have hcut : kind.keyword ++ line.dropWhile (!Text.isSpace ·) = line := by
    rw [← hfirst, firstToken, hline]
    exact List.takeWhile_append_dropWhile
  have hmiddle : middle kind line =
      (line.dropWhile (!Text.isSpace ·)).takeWhile (· != '{') := by
    rw [middle]
    nth_rewrite 1 [← hcut]
    rw [List.drop_left]
  have hmem : '{' ∈ line.dropWhile (!Text.isSpace ·) := by
    rw [← hcut] at hbrace
    exact (List.mem_append.1 hbrace).resolve_left kind.brace_not_mem_keyword
  obtain ⟨rest, hrest⟩ := exists_eq_takeWhile_append hmem
  rw [← hmiddle] at hrest
  obtain ⟨filler, hfiller, hparts⟩ := Text.exists_blank_append_trim (middle kind line)
  have hmiddle_ne : middle kind line ≠ [] := by
    intro hnil
    rw [hname, hnil] at hne
    exact hne rfl
  have hnotin : '{' ∉ middle kind line := by
    rw [hmiddle]
    intro hin
    simpa using List.mem_takeWhile_imp hin
  refine ⟨⟨kind, Text.indent (middle kind line), name, filler, rest, ?_, Text.blank_indent _, hne,
    ?_, ?_, hfiller⟩, ?_, ?_⟩
  · rw [hmiddle] at hmiddle_ne ⊢
    exact indent_takeWhile_ne_nil hmiddle_ne
  · rw [hname, Text.trim_idem]
  · rw [hname]
    exact fun hin => hnotin ((Text.trim_infix _).mem hin)
  · calc kind.keyword ++ (Text.indent (middle kind line) ++ name ++ filler ++ '{' :: rest)
      _ = kind.keyword ++ (middle kind line ++ '{' :: rest) := by rw [hname, ← hparts]
      _ = line := by rw [← hrest, hcut]
  · rw [HeaderSpelling.header, hcolumn]

theorem ofLine?_eq_none_of_not_spelled {line : Text} (hline : Text.trimStart line = line)
    (h : ¬ ∃ spelling : HeaderSpelling, spelling.line = line) : ofLine? line = none := by
  cases hheader : ofLine? line with
  | none => rfl
  | some header =>
    obtain ⟨spelling, hspelling, -⟩ := exists_spelling hline hheader
    exact absurd ⟨spelling, hspelling⟩ h

theorem not_spelled_of_ofLine?_eq_none {line : Text} (h : ofLine? line = none) :
    ¬ ∃ spelling : HeaderSpelling, spelling.line = line := by
  rintro ⟨spelling, rfl⟩
  rw [ofLine?_line] at h
  contradiction

end Header
end SchemaAssist
