import SchemaAssist.Cursor.Line
import SchemaAssist.Proofs.Text.Selection

/-!
# The word around an index

A word between two characters that belong to no word is what is found around every index from its
start to its end, both included (`wordAround_eq`). Whitespace belongs to no word. Around every index
of a line there is exactly one run of word characters that cannot be made longer, and the word at a
cursor is that run (`wordAt_eq_longest_run`).
-/

namespace SchemaAssist

namespace Text

theorem takeWhile_append_eq {p : Char → Bool} {run rest : Text} (hrun : ∀ c ∈ run, p c = true)
    (hrest : ∀ c ∈ rest.head?, p c = false) : (run ++ rest).takeWhile p = run := by
  rw [List.takeWhile_append_of_pos hrun]
  cases rest with
  | nil => exact List.append_nil run
  | cons c rest =>
    rw [List.takeWhile_cons_of_neg (by simp [hrest c rfl]), List.append_nil]

theorem takeEndWhile_append_eq {p : Char → Bool} {rest run : Text}
    (hrest : ∀ c ∈ rest.getLast?, p c = false) (hrun : ∀ c ∈ run, p c = true) :
    takeEndWhile p (rest ++ run) = run := by
  have hrun' : ∀ c ∈ run.reverse, p c = true := fun c hc => hrun c (List.mem_reverse.1 hc)
  rw [← List.head?_reverse] at hrest
  rw [takeEndWhile, List.reverse_append, takeWhile_append_eq hrun' hrest, List.reverse_reverse]

theorem isWord_eq_false_of_isSpace {c : Char} (h : isSpace c = true) : isWord c = false := by
  have hapart : ∀ range ∈ spaceRanges, ∀ code ∈ List.range' range.1 (range.2 + 1 - range.1),
      wordRanges.has code = false := by decide +kernel
  obtain ⟨range, hrange, hfirst, hlast⟩ := (CodeRanges.has_iff spaceRanges_increasing).1 h
  exact hapart range hrange c.toNat (List.mem_range'_1.2 ⟨hfirst, by omega⟩)

theorem isSpace_eq_false_of_isWord {c : Char} (h : isWord c = true) : isSpace c = false := by
  cases hspace : isSpace c with
  | false => rfl
  | true =>
    rw [isWord_eq_false_of_isSpace hspace] at h
    contradiction

theorem ne_of_isWord {c d : Char} (hc : isWord c = true) (hd : isWord d = false) : c ≠ d := by
  rintro rfl
  rw [hd] at hc
  contradiction

end Text

theorem isWord_of_mem_wordAround {line : Text} {index : Nat} {c : Char}
    (h : c ∈ wordAround line index) : Text.isWord c = true := by
  rcases List.mem_append.1 h with hback | hahead
  · exact Text.of_mem_takeEndWhile hback
  · exact List.mem_takeWhile_imp hahead

-- ---------------------------------------------------------------------------
-- The longest run
-- ---------------------------------------------------------------------------

/-- The characters of a text from `first` to `last` are word characters, an index lies among them or
at one of their ends, and no word character stands next to them. -/
structure LongestRun (text : Text) (index first last : Nat) : Prop where
  first_le : first ≤ index
  le_last : index ≤ last
  isWord : ∀ c ∈ Text.slice text first last, Text.isWord c = true
  before : first = 0 ∨ ∃ c, text[first - 1]? = some c ∧ Text.isWord c = false
  after : last = text.length ∨ ∃ c, text[last]? = some c ∧ Text.isWord c = false

namespace LongestRun

variable {text : Text} {index first last : Nat}

theorem isWord_getElem? (h : LongestRun text index first last) {number : Nat} {c : Char}
    (hfirst : first ≤ number) (hlast : number < last) (hc : text[number]? = some c) :
    Text.isWord c = true := by
  refine h.isWord c (List.mem_iff_getElem?.2 ⟨number - first, ?_⟩)
  rw [Text.slice, List.getElem?_drop, Nat.add_sub_cancel' hfirst, List.getElem?_take_of_lt hlast, hc]

theorem last_le_length (h : LongestRun text index first last) : last ≤ text.length := by
  rcases h.after with hend | ⟨c, hc, -⟩
  · exact Nat.le_of_eq hend
  · exact Nat.le_of_lt (List.getElem?_eq_some_iff.1 hc).1

theorem first_le_first (h : LongestRun text index first last) {first' last' : Nat}
    (h' : LongestRun text index first' last') : first ≤ first' := by
  by_contra hlt
  have hbefore : first' < first := Nat.lt_of_not_le hlt
  rcases h.before with hzero | ⟨c, hc, hword⟩
  · omega
  · have hindex := Nat.le_trans h.first_le h'.le_last
    have hc' := h'.isWord_getElem? (Nat.le_sub_one_of_lt hbefore) (by omega) hc
    rw [hword] at hc'
    contradiction

theorem last_le_last (h : LongestRun text index first last) {first' last' : Nat}
    (h' : LongestRun text index first' last') : last' ≤ last := by
  by_contra hlt
  have hafter : last < last' := Nat.lt_of_not_le hlt
  rcases h.after with hend | ⟨c, hc, hword⟩
  · have hlength := h'.last_le_length
    omega
  · have hc' := h'.isWord_getElem? (Nat.le_trans h'.first_le h.le_last) hafter hc
    rw [hword] at hc'
    contradiction

theorem unique (h : LongestRun text index first last) {first' last' : Nat}
    (h' : LongestRun text index first' last') : first' = first ∧ last' = last :=
  ⟨Nat.le_antisymm (h'.first_le_first h) (h.first_le_first h'),
    Nat.le_antisymm (h.last_le_last h') (h'.last_le_last h)⟩

theorem around (h : LongestRun text index first last) {other : Nat} (hfirst : first ≤ other)
    (hlast : other ≤ last) : LongestRun text other first last :=
  ⟨hfirst, hlast, h.isWord, h.before, h.after⟩

end LongestRun

theorem longestRun_append {before word after : Text}
    (hbefore : ∀ c ∈ before.getLast?, Text.isWord c = false)
    (hword : ∀ c ∈ word, Text.isWord c = true)
    (hafter : ∀ c ∈ after.head?, Text.isWord c = false) {index : Nat}
    (hlow : before.length ≤ index) (hhigh : index ≤ before.length + word.length) :
    LongestRun (before ++ word ++ after) index before.length (before.length + word.length) where
  first_le := hlow
  le_last := hhigh
  isWord := by rwa [List.append_assoc, Text.slice_append, List.take_left]
  before := by
    rcases List.eq_nil_or_concat' before with rfl | ⟨front, d, rfl⟩
    · exact .inl rfl
    · exact .inr ⟨d, by simp, hbefore d (by simp)⟩
  after := by
    cases after with
    | nil => exact .inl (by simp)
    | cons d rest => exact .inr ⟨d, by simp, hafter d rfl⟩

theorem exists_append_wordAround {line : Text} {index : Nat} (hindex : index ≤ line.length) :
    ∃ before after, line = before ++ wordAround line index ++ after ∧
      (∀ c ∈ before.getLast?, Text.isWord c = false) ∧
      (∀ c ∈ after.head?, Text.isWord c = false) ∧
      before.length ≤ index ∧ index ≤ before.length + (wordAround line index).length := by
  have hback := Text.dropEndWhile_append_takeEndWhile Text.isWord (line.take index)
  have hlength := congrArg List.length hback
  rw [List.length_append, List.length_take_of_le hindex] at hlength
  refine ⟨Text.dropEndWhile Text.isWord (line.take index),
    (line.drop index).dropWhile Text.isWord, ?_, Text.getLast?_dropEndWhile_eq_false _ _,
    Text.head?_dropWhile_eq_false _ _, by omega, ?_⟩
  · calc line
      _ = line.take index ++ line.drop index := (List.take_append_drop index line).symm
      _ = _ := by
        rw [wordAround, Text.lastRun, ← List.append_assoc, hback, List.append_assoc,
          List.takeWhile_append_dropWhile]
  · rw [wordAround, List.length_append, Text.lastRun]
    omega

theorem exists_longestRun {line : Text} {index : Nat} (hindex : index ≤ line.length) :
    ∃ first last, LongestRun line index first last ∧
      wordAround line index = Text.slice line first last := by
  have hword : ∀ c ∈ wordAround line index, Text.isWord c = true :=
    fun _ => isWord_of_mem_wordAround
  obtain ⟨before, after, hline, hbefore, hafter, hlow, hhigh⟩ := exists_append_wordAround hindex
  generalize wordAround line index = word at *
  subst hline
  refine ⟨_, _, longestRun_append hbefore hword hafter hlow hhigh, ?_⟩
  rw [List.append_assoc, Text.slice_append, List.take_left]

theorem wordAround_eq {before word after : Text}
    (hbefore : ∀ c ∈ before.getLast?, Text.isWord c = false)
    (hword : ∀ c ∈ word, Text.isWord c = true)
    (hafter : ∀ c ∈ after.head?, Text.isWord c = false) {index : Nat}
    (hlow : before.length ≤ index) (hhigh : index ≤ before.length + word.length) :
    wordAround (before ++ word ++ after) index = word := by
  have hindex : index ≤ (before ++ word ++ after).length := by
    simp only [List.length_append]
    omega
  obtain ⟨first, last, hrun, hslice⟩ := exists_longestRun hindex
  obtain ⟨rfl, rfl⟩ := (longestRun_append hbefore hword hafter hlow hhigh).unique hrun
  rw [hslice, List.append_assoc, Text.slice_append, List.take_left]

/-- The word at a cursor is the only longest run of word characters around it, and every column of
the line that is decoded to an index from the start of the run to its end has the same word. -/
theorem wordAt_eq_longest_run (text : Text) (position : Position) :
    let line := Text.lineAt text position.line
    let index := Text.indexOfColumn line position.character
    ∃ first last, LongestRun line index first last ∧
      (∀ first' last', LongestRun line index first' last' → first' = first ∧ last' = last) ∧
      wordAt text position = Text.slice line first last ∧
      ∀ column : Nat, first ≤ Text.indexOfColumn line column →
        Text.indexOfColumn line column ≤ last →
        wordAt text ⟨position.line, column⟩ = wordAt text position := by
  intro line index
  obtain ⟨first, last, hrun, hword⟩ :=
    exists_longestRun (Text.indexOfColumn_le line position.character)
  refine ⟨first, last, hrun, fun first' last' => hrun.unique, hword, ?_⟩
  intro column hfirst hlast
  obtain ⟨first', last', hrun', hword'⟩ := exists_longestRun (Text.indexOfColumn_le line column)
  obtain ⟨rfl, rfl⟩ := (hrun.around hfirst hlast).unique hrun'
  exact hword'.trans hword.symm

end SchemaAssist
