import Mathlib.Order.Bounds.Basic
import SchemaAssist.Proofs.Text.Selection

/-!
# Columns and the boundaries between characters

A column is decoded to the first boundary between characters that it does not lie beyond. Below the
end of the line, `indexOfColumn_le_iff` says so for every boundary at once, and the rest follows
from it: the end of the line stands for all columns beyond it, a later column is decoded no earlier,
the width of a beginning of the line leads back behind that beginning, and a column between the two
units of a character leads behind the character (`column_decoded_to_first_boundary`).
-/

namespace SchemaAssist.Text

/-- The characters of a line before an index take at least as many code units as a column counts. -/
structure Reaches (line : Text) (column : Int) (index : Nat) : Prop where
  index_le : index ≤ line.length
  column_le : column ≤ width (line.take index)

@[simp] theorem width_append (text other : Text) : width (text ++ other) = width text + width other := by
  induction text with
  | nil => simp [width]
  | cons c text ih => simp [width, ih, Nat.add_assoc]

theorem width_take_mono {index other : Nat} (h : index ≤ other) (line : Text) :
    width (line.take index) ≤ width (line.take other) := by
  rw [← List.take_append_drop index (line.take other), List.take_take, Nat.min_eq_left h,
    width_append]
  exact Nat.le_add_right _ _

variable {line : Text} {column : Int} {index : Nat}

/-- The boundaries from the decoded one on are those that the column does not lie beyond. -/
theorem indexOfColumn_le_iff (h : index < line.length) :
    indexOfColumn line column ≤ index ↔ column ≤ width (line.take index) := by
  induction line generalizing column index with
  | nil => contradiction
  | cons c line ih =>
    by_cases hpos : 0 < column
    · rw [indexOfColumn_cons hpos]
      cases index with
      | zero => simpa [width] using hpos
      | succ index =>
        have hrest : indexOfColumn line (column - units c) ≤ index ↔
            column - units c ≤ width (line.take index) := ih (Nat.lt_of_succ_lt_succ h)
        simp only [List.take_succ_cons, width]
        omega
    · rw [indexOfColumn_of_nonpos (Int.not_lt.1 hpos)]
      have hcolumn : column ≤ width ((c :: line).take index) := by omega
      simpa using hcolumn

theorem indexOfColumn_le_of_reaches (h : Reaches line column index) :
    indexOfColumn line column ≤ index := by
  cases Nat.lt_or_eq_of_le h.index_le with
  | inl hlt => exact (indexOfColumn_le_iff hlt).2 h.column_le
  | inr heq => exact heq ▸ indexOfColumn_le line column

theorem reaches_of_indexOfColumn_lt (h : indexOfColumn line column < line.length) :
    Reaches line column (indexOfColumn line column) :=
  ⟨Nat.le_of_lt h, (indexOfColumn_le_iff h).1 (Nat.le_refl _)⟩

theorem isLeast_indexOfColumn (h : ∃ index, Reaches line column index) :
    IsLeast {index | Reaches line column index} (indexOfColumn line column) := by
  refine ⟨?_, fun index hindex => indexOfColumn_le_of_reaches hindex⟩
  cases Nat.lt_or_eq_of_le (indexOfColumn_le line column) with
  | inl hlt => exact reaches_of_indexOfColumn_lt hlt
  | inr heq =>
    -- What some beginning of the line reaches, all of it reaches.
    obtain ⟨index, hle, hcolumn⟩ := h
    have hmono := width_take_mono hle line
    exact ⟨Nat.le_of_eq heq, heq ▸ Int.le_trans hcolumn (Int.ofNat_le.2 hmono)⟩

theorem indexOfColumn_eq_length (h : ¬ ∃ index, Reaches line column index) :
    indexOfColumn line column = line.length := by
  refine Nat.le_antisymm (indexOfColumn_le line column) (Nat.le_of_not_lt fun hlt => ?_)
  exact h ⟨_, reaches_of_indexOfColumn_lt hlt⟩

theorem indexOfColumn_mono {later : Int} (h : column ≤ later) :
    indexOfColumn line column ≤ indexOfColumn line later := by
  cases Nat.lt_or_eq_of_le (indexOfColumn_le line later) with
  | inl hlt =>
    have hreaches := reaches_of_indexOfColumn_lt hlt
    exact indexOfColumn_le_of_reaches ⟨hreaches.index_le, Int.le_trans h hreaches.column_le⟩
  | inr heq => exact heq ▸ indexOfColumn_le line column

theorem indexOfColumn_behind {before : Text} {c : Char} (hbeyond : width before < column)
    (hwithin : column ≤ width (before ++ [c])) (after : Text) :
    indexOfColumn (before ++ c :: after) column = before.length + 1 := by
  have hlt : before.length < (before ++ c :: after).length := by simp
  have htake : (before ++ c :: after).take (before.length + 1) = before ++ [c] :=
    List.take_length_add_append 1
  refine Nat.le_antisymm (indexOfColumn_le_of_reaches ⟨hlt, htake ▸ hwithin⟩) ?_
  by_contra hle
  have hcolumn := (indexOfColumn_le_iff hlt).1 (Nat.le_of_not_lt hle)
  rw [List.take_left] at hcolumn
  exact Int.not_le.2 hbeyond hcolumn

theorem indexOfColumn_width_append (front rest : Text) :
    indexOfColumn (front ++ rest) (width front) = front.length := by
  cases front using List.reverseRecOn with
  | nil => exact indexOfColumn_of_nonpos (Int.le_refl _)
  | append_singleton front c =>
    have hunits := units_pos c
    have hbeyond : (width front : Int) < width (front ++ [c]) := by
      simp only [width_append, width]
      omega
    simpa using indexOfColumn_behind hbeyond (Int.le_refl _) rest

theorem beforeColumn_width_append (text rest : Text) :
    beforeColumn (text ++ rest) (width text) = text := by
  rw [beforeColumn, indexOfColumn_width_append, List.take_left]

/-- A column is decoded to the least index that reaches it, or to the end of the line if none does.
So decoding is monotone, undoes the width of every beginning of the line, takes what is not positive
to zero, and takes the column inside a pair of units to the index behind the character. -/
theorem column_decoded_to_first_boundary (line : Text) :
    (∀ column, (∃ index, Reaches line column index) →
      IsLeast {index | Reaches line column index} (indexOfColumn line column)) ∧
    (∀ column, (¬ ∃ index, Reaches line column index) →
      indexOfColumn line column = line.length) ∧
    (∀ column later, column ≤ later →
      indexOfColumn line column ≤ indexOfColumn line later) ∧
    (∀ front rest, line = front ++ rest → indexOfColumn line (width front) = front.length) ∧
    (∀ column, column ≤ 0 → indexOfColumn line column = 0) ∧
    ∀ before c after, line = before ++ c :: after → 0xFFFF < c.toNat →
      indexOfColumn line (width before + 1) = before.length + 1 := by
  refine ⟨fun column => isLeast_indexOfColumn, fun column => indexOfColumn_eq_length,
    fun column later => indexOfColumn_mono, ?_, fun column => indexOfColumn_of_nonpos, ?_⟩
  · rintro front rest rfl
    exact indexOfColumn_width_append front rest
  · rintro before c after rfl hpair
    have hunits : units c = 2 := if_pos hpair
    refine indexOfColumn_behind (Int.lt_succ _) ?_ after
    simp [width, hunits]

example : [2, 3, 4, 9].map (indexOfColumn "a𝒜b".toList) = [2, 2, 3, 3] := by decide

end SchemaAssist.Text
