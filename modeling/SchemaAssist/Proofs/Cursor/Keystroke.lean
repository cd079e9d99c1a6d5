import SchemaAssist.Proofs.Cursor.BeforeCursor
import SchemaAssist.Proofs.Cursor.Context
import SchemaAssist.Proofs.Text.ColumnDecoding

/-!
# Typing a character

A character is put in where the cursor is, and the cursor moves behind it. Only the line of the
cursor changes (`lines_typed`), and the cursor then stands behind what it stood behind before and
that character (`lineBefore_typed`).
-/

namespace SchemaAssist

namespace Text

def insertAt (c : Char) (index : Nat) : Nat → Text → Text
  | 0, text => text.take index ++ c :: text.drop index
  | _ + 1, [] => []
  | number + 1, '\r' :: '\n' :: text => '\r' :: '\n' :: insertAt c index number text
  | number + 1, d :: text =>
    if d = '\r' ∨ d = '\n' then d :: insertAt c index number text
    else d :: insertAt c index (number + 1) text

theorem exists_of_lines_eq_cons_cons {d : Char} {text line : Text} {rest : List Text}
    (h : lines text = (d :: line) :: rest) :
    ∃ tail, text = d :: tail ∧ ¬ (d = '\r' ∨ d = '\n') ∧ lines tail = line :: rest := by
  fun_cases lines text with
  | case1 => simp [lines] at h
  | case2 tail => simp [lines] at h
  | case3 e tail hcrlf hbreak =>
    rw [lines.eq_3 _ _ (by simpa using hcrlf), if_pos hbreak] at h
    simp at h
  | case4 e tail hcrlf hbreak hnil => exact absurd hnil (lines_ne_nil tail)
  | case5 e tail hcrlf hbreak first others hlines =>
    rw [lines_cons_of_not_break hbreak hlines] at h
    cases h
    exact ⟨tail, rfl, hbreak, hlines⟩

section
variable {c : Char} (hc : ¬ (c = '\r' ∨ c = '\n')) {index : Nat} {text line : Text}
include hc

theorem lines_insertAt_zero {rest : List Text} (h : lines text = line :: rest)
    (hindex : index ≤ line.length) :
    lines (insertAt c index 0 text) = (line.take index ++ c :: line.drop index) :: rest := by
  induction index generalizing text line with
  | zero =>
    rw [insertAt]
    exact lines_cons_of_not_break hc h
  | succ index ih =>
    cases line with
    | nil => contradiction
    | cons d line =>
      obtain ⟨tail, rfl, hbreak, hlines⟩ := exists_of_lines_eq_cons_cons h
      have hrest := ih hlines (Nat.le_of_succ_le_succ hindex)
      rw [insertAt] at hrest ⊢
      exact lines_cons_of_not_break hbreak hrest

theorem head?_insertAt {number : Nat} {e : Char} (he : e = '\r' ∨ e = '\n')
    (h : (insertAt c index number text).head? = some e) : text.head? = some e := by
  fun_cases insertAt c index number text with
  | case1 =>
    rw [insertAt] at h
    cases index with
    | zero =>
      cases h
      contradiction
    | succ index =>
      cases text with
      | nil =>
        cases h
        contradiction
      | cons d text => exact h
  | case2 => cases h
  | case3 number text =>
    rw [insertAt] at h
    exact h
  | case4 number d text hcrlf hbreak =>
    rw [insertAt.eq_4 _ _ _ _ _ (by simpa using hcrlf), if_pos hbreak] at h
    exact h
  | case5 number d text hcrlf hbreak =>
    rw [insertAt.eq_4 _ _ _ _ _ (by simpa using hcrlf), if_neg hbreak] at h
    exact h

theorem lines_insertAt {number : Nat} (h : (lines text)[number]? = some line)
    (hindex : index ≤ line.length) :
    lines (insertAt c index number text) =
      (lines text).set number (line.take index ++ c :: line.drop index) := by
  fun_induction insertAt c index number text with
  | case1 text =>
    obtain ⟨first, rest, hlines⟩ := List.exists_cons_of_ne_nil (lines_ne_nil text)
    rw [hlines] at h ⊢
    cases h
    rw [← insertAt]
    exact lines_insertAt_zero hc hlines hindex
  | case2 number => cases h
  | case3 number text ih =>
    rw [lines, List.getElem?_cons_succ] at h
    rw [lines, lines, List.set_cons_succ, ih h]
  | case4 number d text hcrlf hbreak ih =>
    have hhead : d = '\r' → text.head? ≠ some '\n' := by
      intro hr htext
      obtain ⟨rest, rfl⟩ := List.head?_eq_some_iff.1 htext
      exact hcrlf rest hr rfl
    -- A carriage return that is a break of its own stays one.
    rw [lines_cons_of_break hbreak hhead] at h ⊢
    rw [lines_cons_of_break hbreak fun hr htext => hhead hr (head?_insertAt hc (.inr rfl) htext),
      List.set_cons_succ, ih h]
  | case5 number d text hcrlf hbreak ih =>
    obtain ⟨first, rest, hlines⟩ := List.exists_cons_of_ne_nil (lines_ne_nil text)
    rw [lines_cons_of_not_break hbreak hlines] at h ⊢
    rw [hlines] at ih
    exact lines_cons_of_not_break hbreak (ih h)

end

end Text

def lineBehind (text : Text) (position : Position) : Text :=
  (Text.lineAt text position.line).drop
    (Text.indexOfColumn (Text.lineAt text position.line) position.character)

/-- The text with a character put in where the cursor is. -/
def typed (text : Text) (position : Position) (c : Char) : Text :=
  Text.insertAt c (Text.indexOfColumn (Text.lineAt text position.line) position.character)
    position.line text

def behindTyped (text : Text) (position : Position) (c : Char) : Position :=
  ⟨position.line, Text.width (lineBefore text position ++ [c])⟩

variable {text : Text} {position : Position} {c : Char}

theorem lineBefore_append_lineBehind (text : Text) (position : Position) :
    lineBefore text position ++ lineBehind text position = Text.lineAt text position.line :=
  List.take_append_drop _ _

section
variable (hc : ¬ (c = '\r' ∨ c = '\n')) (hline : position.line < (Text.lines text).length)
include hc hline

theorem lines_typed :
    Text.lines (typed text position c) = (Text.lines text).set position.line
      (lineBefore text position ++ c :: lineBehind text position) :=
  Text.lines_insertAt hc (Text.getElem?_eq_some_lineOf hline) (Text.indexOfColumn_le _ _)

theorem lineBefore_typed :
    lineBefore (typed text position c) (behindTyped text position c) =
      lineBefore text position ++ [c] := by
  have hlineAt : Text.lineAt (typed text position c) position.line =
      lineBefore text position ++ [c] ++ lineBehind text position := by
    rw [Text.lineAt, Text.lineOf, lines_typed hc hline, List.getElem?_set_self hline]
    simp
  simp only [lineBefore, behindTyped]
  rw [hlineAt]
  exact Text.beforeColumn_width_append _ _

end
end SchemaAssist
