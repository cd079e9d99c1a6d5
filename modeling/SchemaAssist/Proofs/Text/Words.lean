import SchemaAssist.Proofs.Text.Trimming

/-!
# The first and the last word of a text

Whitespace in front of a text is no part of its words, and the first of them stands right behind it
(`exists_of_words_eq_cons`). Nothing in the whitespace can be taken for the word, so a search for
the word finds it there (`indexOf?_append`). What is appended without whitespace goes on with the
last word (`words_append_run_concat`).
-/

namespace SchemaAssist.Text

theorem words_append_of_blank {gap : Text} (h : Blank gap) (text : Text) :
    words (gap ++ text) = words text := by
  induction gap with
  | nil => rfl
  | cons c gap ih =>
    rw [List.cons_append, words_space (h c (List.mem_cons_self ..))]
    exact ih fun d hd => h d (List.mem_cons_of_mem c hd)

theorem words_eq_singleton {word : Text} (hne : word ≠ []) (h : ∀ c ∈ word, isSpace c = false) :
    words word = [word] := by
  rw [words, List.splitOnP_eq_singleton h]
  simp [hne]

theorem words_append_of_not_space {word rest : Text} (hne : word ≠ [])
    (h : ∀ c ∈ word, isSpace c = false) (hrest : ∀ c ∈ rest.head?, isSpace c = true) :
    words (word ++ rest) = word :: words rest := by
  cases rest with
  | nil => rw [List.append_nil, words_eq_singleton hne h]; rfl
  | cons c rest =>
    have hc : isSpace c = true := hrest c rfl
    rw [words_append_space hc, words_eq_singleton hne h, words_space hc]
    rfl

theorem words_append_gap {word gap : Text} (hne : word ≠ [])
    (h : ∀ c ∈ word, isSpace c = false) (hgap : gap ≠ []) (hblank : Blank gap) (rest : Text) :
    words (word ++ (gap ++ rest)) = word :: words rest := by
  rw [words_append_of_not_space hne h (hblank.isSpace_head? hgap rest),
    words_append_of_blank hblank]

theorem isSpace_head?_dropWhile (text : Text) :
    ∀ c ∈ (text.dropWhile (!isSpace ·)).head?, isSpace c = true := by
  intro c hc
  simpa using head?_dropWhile_eq_false (!isSpace ·) text c hc

theorem words_eq_cons {text : Text} (h : trimStart text ≠ []) :
    words text = (trimStart text).takeWhile (!isSpace ·) ::
      words ((trimStart text).dropWhile (!isSpace ·)) := by
  have hfree : ∀ c ∈ (trimStart text).takeWhile (!isSpace ·), isSpace c = false := by
    intro c hc
    simpa using List.mem_takeWhile_imp hc
  have hne : (trimStart text).takeWhile (!isSpace ·) ≠ [] := by
    obtain ⟨c, start, htrim⟩ := List.exists_cons_of_ne_nil h
    -- A trimmed text does not start with whitespace.
    have hc := List.head?_dropWhile_not isSpace text
    rw [show text.dropWhile isSpace = c :: start from htrim] at hc
    rw [htrim, List.takeWhile_cons_of_pos (by simpa using hc)]
    exact List.cons_ne_nil _ _
  calc words text = words (indent text ++ trimStart text) := by rw [indent_append_trimStart]
    _ = words (trimStart text) := words_append_of_blank (blank_indent text) _
    _ = words ((trimStart text).takeWhile (!isSpace ·) ++
          (trimStart text).dropWhile (!isSpace ·)) := by rw [List.takeWhile_append_dropWhile]
    _ = _ := words_append_of_not_space hne hfree (isSpace_head?_dropWhile _)

theorem words_eq_nil_iff {text : Text} : words text = [] ↔ Blank text := by
  constructor
  · intro h
    by_contra hblank
    have hstart : trimStart text ≠ [] := fun hnil => hblank (List.dropWhile_eq_nil_iff.1 hnil)
    rw [words_eq_cons hstart] at h
    cases h
  · intro h
    simpa [words] using words_append_of_blank h []

theorem exists_of_words_eq_cons {text word : Text} {rest : List Text}
    (h : words text = word :: rest) :
    ∃ tail, text = indent text ++ word ++ tail ∧ (∀ c ∈ word, isSpace c = false) ∧
      ∀ c ∈ tail.head?, isSpace c = true := by
  have hstart : trimStart text ≠ [] := by
    intro hnil
    have hblank := words_append_of_blank (blank_indent text) (trimStart text)
    rw [indent_append_trimStart, h, hnil] at hblank
    cases hblank
  rw [words_eq_cons hstart] at h
  obtain ⟨rfl, -⟩ := List.cons.inj h
  refine ⟨(trimStart text).dropWhile (!isSpace ·), ?_, ?_, isSpace_head?_dropWhile _⟩
  · rw [List.append_assoc, List.takeWhile_append_dropWhile, indent_append_trimStart]
  · intro c hc
    simpa using List.mem_takeWhile_imp hc

/-- The first word of a trimmed text stands right behind the indentation of the untrimmed one. -/
theorem exists_eq_indent_append {text word : Text} {rest : List Text}
    (h : words (trim text) = word :: rest) :
    ∃ tail, text = indent text ++ word ++ tail ∧ ∀ c ∈ word, isSpace c = false := by
  obtain ⟨inner, htrim, hword, -⟩ := exists_of_words_eq_cons h
  obtain ⟨tail, -, htext⟩ := exists_blank_append_trim text
  rw [indent_eq_nil (trimStart_eq_self (trim_idem text)), List.nil_append] at htrim
  refine ⟨inner ++ tail, ?_, hword⟩
  conv_lhs => rw [htext, htrim]
  simp

theorem isPrefix_append_iff_of_head? {lead word tail : Text} (h : ∀ c ∈ tail.head?, c ∉ lead) :
    lead <+: word ++ tail ↔ lead <+: word := by
  induction lead generalizing word with
  | nil => simp
  | cons c lead ih =>
    cases word with
    | cons d word =>
      rw [List.cons_append, List.cons_prefix_cons, List.cons_prefix_cons,
        ih fun e he hmem => h e he (List.mem_cons_of_mem c hmem)]
    | nil =>
      refine ⟨fun hlead => ?_, fun hlead => absurd hlead (by simp)⟩
      obtain ⟨rest, rfl⟩ := hlead
      exact absurd (List.mem_cons_self ..) (h c rfl)

theorem isPrefix_append_iff {lead word tail : Text} (hlead : ∀ c ∈ lead, isSpace c = false)
    (htail : ∀ c ∈ tail.head?, isSpace c = true) : lead <+: word ++ tail ↔ lead <+: word := by
  refine isPrefix_append_iff_of_head? fun c hc hmem => ?_
  have hspace := htail c hc
  rw [hlead c hmem] at hspace
  contradiction

theorem exists_stem_append_run (text : Text) :
    ∃ stem run, text = stem ++ run ∧ (∀ c ∈ stem.getLast?, isSpace c = true) ∧
      ∀ c ∈ run, isSpace c = false := by
  refine ⟨dropEndWhile (!isSpace ·) text, takeEndWhile (!isSpace ·) text,
    (dropEndWhile_append_takeEndWhile _ text).symm, ?_, ?_⟩
  · intro c hc
    simpa using getLast?_dropEndWhile_eq_false (!isSpace ·) text c hc
  · intro c hc
    simpa using of_mem_takeEndWhile hc

section
variable {stem run : Text} (hstem : ∀ c ∈ stem.getLast?, isSpace c = true)
include hstem

theorem words_append_run (hne : run ≠ []) (hrun : ∀ c ∈ run, isSpace c = false) :
    words (stem ++ run) = words stem ++ [run] := by
  rcases List.eq_nil_or_concat' stem with rfl | ⟨stem, d, rfl⟩
  · simpa [words] using words_eq_singleton hne hrun
  · have hd : isSpace d = true := hstem d (by simp)
    rw [List.append_assoc, List.singleton_append, words_append_space hd, words_append_space hd,
      words_eq_singleton hne hrun]
    simp [words]

theorem words_append_run_concat (hrun : ∀ c ∈ run, isSpace c = false) {c : Char}
    (hc : isSpace c = false) : words (stem ++ run ++ [c]) = words stem ++ [run ++ [c]] := by
  rw [List.append_assoc]
  refine words_append_run hstem (by simp) fun d hd => ?_
  rcases List.mem_append.1 hd with hd | hd
  · exact hrun d hd
  · rwa [List.mem_singleton.1 hd]

theorem isSuffix_append_iff {needle : Text} (hneedle : ∀ c ∈ needle, isSpace c = false) :
    needle <:+ stem ++ run ↔ needle <:+ run := by
  rw [← List.reverse_prefix, ← List.reverse_prefix, List.reverse_append]
  refine isPrefix_append_iff (fun c hc => hneedle c (List.mem_reverse.1 hc)) ?_
  rwa [List.head?_reverse]

end

theorem indexOf?_append {gap word : Text} (hgap : Blank gap) (hne : word ≠ [])
    (h : ∀ c ∈ word, isSpace c = false) (rest : Text) :
    indexOf? word (gap ++ word ++ rest) = some gap.length := by
  obtain ⟨c, tail, rfl⟩ := List.exists_cons_of_ne_nil hne
  induction gap with
  | nil => simp [indexOf?]
  | cons d gap ih =>
    have hd : isSpace d = true := hgap d (List.mem_cons_self ..)
    have hcd : c ≠ d := by
      rintro rfl
      rw [h c (List.mem_cons_self ..)] at hd
      contradiction
    have hlead : ((c :: tail).isPrefixOf (d :: (gap ++ (c :: tail) ++ rest))) = false := by
      simp [List.isPrefixOf, hcd]
    rw [List.cons_append, List.cons_append, indexOf?, hlead, if_neg (by decide),
      ih fun e he => hgap e (List.mem_cons_of_mem d he)]
    rfl

end SchemaAssist.Text
