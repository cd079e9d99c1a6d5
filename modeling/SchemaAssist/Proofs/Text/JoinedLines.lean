import SchemaAssist.Proofs.Text.Words
import SchemaAssist.Text.Lines

/-!
# Joined lines, searched from left to right

A search that tries one place of a text after the other takes what the leftmost place gives. In
joined lines it passes over every line that has nothing to give (`leftmost?_joinLines_append`).
Trimmed lines start with whitespace, once joined, only where the first of them are empty
(`trimStart_joinLines`).
-/

namespace SchemaAssist.Text

theorem joinLines_singleton (line : Text) : joinLines [line] = line := by simp [joinLines]

theorem joinLines_cons {lines : List Text} (h : lines ≠ []) (line : Text) :
    joinLines (line :: lines) = line ++ '\n' :: joinLines lines := by
  obtain ⟨next, rest, rfl⟩ := List.exists_cons_of_ne_nil h
  rw [joinLines, List.intercalate_cons_cons]
  simp [joinLines]

theorem joinLines_append {lines rest : List Text} (hlines : lines ≠ []) (hrest : rest ≠ []) :
    joinLines (lines ++ rest) = joinLines lines ++ '\n' :: joinLines rest := by
  induction lines with
  | nil => contradiction
  | cons line lines ih =>
    by_cases hlast : lines = []
    · rw [hlast, joinLines_singleton]
      exact joinLines_cons hrest line
    · rw [List.cons_append, joinLines_cons (by simp [hlast]), joinLines_cons hlast, ih hlast,
        List.append_assoc, List.cons_append]

theorem exists_ends_joinLines (rest : List Text) :
    ∃ ends, (∀ line, joinLines (line :: rest) = line ++ ends) ∧ ∀ c ∈ ends.head?, c = '\n' := by
  cases rest with
  | nil => exact ⟨[], by simp [joinLines_singleton]⟩
  | cons next rest => exact ⟨_, joinLines_cons (List.cons_ne_nil next rest), by simp⟩

theorem exists_joinLines_cons (line : Text) (rest : List Text) :
    ∃ ends, joinLines (line :: rest) = line ++ ends ∧ ∀ c ∈ ends.head?, c = '\n' := by
  obtain ⟨ends, hjoined, hends⟩ := exists_ends_joinLines rest
  exact ⟨ends, hjoined line, hends⟩

theorem mem_joinLines {lines : List Text} {line : Text} (h : line ∈ lines) {c : Char}
    (hc : c ∈ line) : c ∈ joinLines lines := by
  induction lines with
  | nil => cases h
  | cons first rest ih =>
    rcases List.eq_nil_or_concat' rest with rfl | ⟨_, _, hrest⟩
    · rwa [joinLines_singleton, ← List.mem_singleton.1 h]
    · rw [joinLines_cons (by simp [hrest])]
      rcases List.mem_cons.1 h with rfl | hbelow
      · exact List.mem_append_left _ hc
      · exact List.mem_append_right _ (List.mem_cons_of_mem _ (ih hbelow))

theorem exists_of_append_break_eq {line front rest more : Text} (hfront : '\n' ∉ front)
    (h : line ++ '\n' :: more = front ++ rest) :
    ∃ tail, line = front ++ tail ∧ rest = tail ++ '\n' :: more := by
  rcases List.append_eq_append_iff.1 h with ⟨excess, hexcess, hrest⟩ | ⟨tail, rfl, rfl⟩
  · cases excess with
    | nil => exact ⟨[], by simpa using hexcess.symm, by simpa using hrest.symm⟩
    | cons c excess =>
      obtain ⟨rfl, -⟩ := List.cons.inj hrest
      exact absurd (by simp [hexcess]) hfront
  · exact ⟨tail, rfl, rfl⟩

theorem after?_append_break {lead : Text} (h : '\n' ∉ lead) (text more : Text) :
    after? lead (text ++ '\n' :: more) =
      (after? lead text).map (· ++ '\n' :: more) := by
  refine Option.ext fun rest => ?_
  simp only [Option.map_eq_some_iff, after?_eq_some_iff]
  constructor
  · intro htext
    obtain ⟨tail, rfl, rfl⟩ := exists_of_append_break_eq h htext
    exact ⟨tail, rfl, rfl⟩
  · rintro ⟨tail, rfl, rfl⟩
    exact List.append_assoc ..

def fromNonblank (lines : List Text) : List Text := lines.dropWhile (·.isEmpty)

theorem fromNonblank_append {blanks : List Text} (h : ∀ line ∈ blanks, line = [])
    (lines : List Text) : fromNonblank (blanks ++ lines) = fromNonblank lines :=
  List.dropWhile_append_of_pos fun line hline => by simp [h line hline]

theorem fromNonblank_cons {line : Text} (h : line ≠ []) (lines : List Text) :
    fromNonblank (line :: lines) = line :: lines :=
  List.dropWhile_cons_of_neg (by simpa using h)

theorem fromNonblank_append_cons {line : Text} (h : line ≠ []) (lines rest : List Text) :
    fromNonblank (lines ++ line :: rest) = fromNonblank lines ++ line :: rest := by
  induction lines with
  | nil => exact fromNonblank_cons h rest
  | cons first lines ih =>
    cases first with
    | nil => exact ih
    | cons c first => rfl

theorem ne_nil_of_fromNonblank {lines rest : List Text} {line : Text}
    (h : fromNonblank lines = line :: rest) : line ≠ [] := by
  have hhead := List.head?_dropWhile_not (·.isEmpty) lines
  rw [show lines.dropWhile (·.isEmpty) = line :: rest from h] at hhead
  simpa using hhead

theorem filter_eq_filter_fromNonblank (lines : List Text) :
    lines.filter (!·.isEmpty) = (fromNonblank lines).filter (!·.isEmpty) := by
  induction lines with
  | nil => rfl
  | cons first lines ih =>
    cases first with
    | nil => exact ih
    | cons c first => rfl

theorem trimStart_joinLines {lines : List Text} (h : ∀ line ∈ lines, trim line = line) :
    trimStart (joinLines lines) = joinLines (fromNonblank lines) := by
  induction lines with
  | nil => rfl
  | cons line rest ih =>
    have hrest := ih fun x hx => h x (List.mem_cons_of_mem line hx)
    cases line with
    | nil =>
      rw [show fromNonblank ([] :: rest) = fromNonblank rest from rfl, ← hrest]
      cases rest with
      | nil => rfl
      | cons next rest =>
        rw [joinLines_cons (List.cons_ne_nil next rest), List.nil_append]
        exact trimStart_append (show Blank ['\n'] by decide) _
    | cons c line =>
      have hc := isSpace_head (h (c :: line) (List.mem_cons_self ..))
      rw [fromNonblank_cons (List.cons_ne_nil c line)]
      cases rest with
      | nil => rw [joinLines_singleton, trimStart_cons hc]
      | cons next rest =>
        rw [joinLines_cons (List.cons_ne_nil next rest), List.cons_append, trimStart_cons hc]

section
variable {α : Type} {attempt : Text → Option α}

def leftmost? (attempt : Text → Option α) : Text → Option α
  | [] => none
  | c :: text => (attempt (c :: text)).or (leftmost? attempt text)

theorem leftmost?_of_some {text : Text} {value : α} (hne : text ≠ [])
    (h : attempt text = some value) : leftmost? attempt text = some value := by
  obtain ⟨c, text, rfl⟩ := List.exists_cons_of_ne_nil hne
  rw [leftmost?, h, Option.some_or]

/-- A search that never looks beyond a line feed finds in two parts what it finds in the upper one,
or else what it finds in the lower one. -/
theorem leftmost?_append_break {more : Text}
    (h : ∀ text, attempt (text ++ '\n' :: more) = attempt text) (hnil : attempt [] = none)
    (text : Text) :
    leftmost? attempt (text ++ '\n' :: more) =
      (leftmost? attempt text).or (leftmost? attempt more) := by
  induction text with
  | nil =>
    have hbreak : attempt ('\n' :: more) = none := (h []).trans hnil
    rw [List.nil_append, leftmost?, leftmost?, hbreak]
  | cons c text ih =>
    rw [List.cons_append, leftmost?, leftmost?, ← List.cons_append, h, ih, Option.or_assoc]

theorem leftmost?_line {line more : Text}
    (h : ∀ tail, tail <:+ line → attempt (tail ++ '\n' :: more) = none) :
    leftmost? attempt (line ++ '\n' :: more) = leftmost? attempt more := by
  induction line with
  | nil => rw [List.nil_append, leftmost?, ← List.nil_append ('\n' :: more), h [] List.nil_suffix,
      Option.none_or]
  | cons c line ih =>
    rw [List.cons_append, leftmost?, ← List.cons_append, h _ List.suffix_rfl, Option.none_or]
    exact ih fun tail htail => h tail (htail.trans (List.suffix_cons c line))

theorem leftmost?_joinLines_append {before rest : List Text}
    (h : ∀ line ∈ before, ∀ tail more, tail <:+ line → attempt (tail ++ '\n' :: more) = none)
    (hrest : rest ≠ []) :
    leftmost? attempt (joinLines (before ++ rest)) = leftmost? attempt (joinLines rest) := by
  induction before with
  | nil => rfl
  | cons line before ih =>
    have hline := h line (List.mem_cons_self ..)
    rw [List.cons_append, joinLines_cons (by simp [hrest]), leftmost?_line (hline · _)]
    exact ih fun x hx => h x (List.mem_cons_of_mem line hx)

end

theorem not_isPrefix_of_not_infix {word line : Text} (hword : ∀ c ∈ word, isSpace c = false)
    (h : ¬ word <:+: line) {tail : Text} (htail : tail <:+ line) (more : Text) :
    ¬ word <+: tail ++ '\n' :: more := by
  rw [isPrefix_append_iff hword (by simp; decide)]
  exact fun hstarts => h (hstarts.isInfix.trans htail.isInfix)

end SchemaAssist.Text
