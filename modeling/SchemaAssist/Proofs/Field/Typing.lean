import Mathlib.Data.List.Basic
import SchemaAssist.Proofs.Field.Declarations

/-!
# The line that is being typed on

Reading a block without the line that is being typed on is reading all of its body and leaving out
what stands on that line (`bodyLines_eq_filter`). So the text of that line does not matter, and a
line outside the body is not missed (`fields_read_off_typed_line`).
-/

namespace SchemaAssist

/-- The same number of lines, and the same lines but perhaps for one. -/
structure AgreeOff (typing : Nat) (lines other : List Text) : Prop where
  length_eq : lines.length = other.length
  line_eq : ∀ number, number ≠ typing → lines[number]? = other[number]?

theorem bodyLines_eq_filter (lines : List Text) (block : Block) (typing : Option Nat) :
    bodyLines lines block typing =
      (bodyLines lines block none).filter fun entry => typing ≠ some entry.1 := by
  rw [bodyLines, bodyLines, List.filter_filterMap]
  refine List.filterMap_congr fun entry _ => ?_
  by_cases h : typing = some entry.2
  · simp [h, Option.filter]
  · simp [h, Option.filter]

theorem declarations_eq_filter (lines : List Text) (block : Block) (typing : Option Nat) :
    declarations lines block typing =
      (declarations lines block none).filter fun declared => typing ≠ some declared.line := by
  rw [declarations, declarations, bodyLines_eq_filter, List.filterMap_filter, List.filter_filterMap]
  refine List.filterMap_congr fun entry _ => ?_
  cases hline : Declaration.ofLine? entry.1 entry.2 with
  | none => simp [hline]
  | some declared =>
    -- A declaration has the number of the line that it is read from.
    have hnumber := (declaration_ofLine?_eq_some_iff.1 hline).1
    by_cases h : typing = some entry.1
    · simp [hline, h, hnumber, Option.filter]
    · simp [hline, h, hnumber, Option.filter]

theorem AgreeOff.bodyLines_eq {typing : Nat} {lines other : List Text}
    (h : AgreeOff typing lines other) (block : Block) :
    bodyLines lines block (some typing) = bodyLines other block (some typing) := by
  have hnumbers : bodyNumbers lines block = bodyNumbers other block := by
    rw [bodyNumbers, bodyNumbers, h.length_eq]
  rw [bodyLines_eq_filter, bodyLines_eq_filter other, bodyLines_none, bodyLines_none, hnumbers,
    List.filter_map, List.filter_map]
  refine List.map_congr_left fun number hnumber => ?_
  have hother : number ≠ typing := by
    rintro rfl
    simp at hnumber
  rw [Text.lineOf, Text.lineOf, h.line_eq number hother]

theorem bodyLines_eq_of_outside {block : Block} {typing : Nat}
    (h : ¬ (block.range.start.line < typing ∧ typing < block.range.stop.line))
    (lines : List Text) : bodyLines lines block (some typing) = bodyLines lines block none := by
  rw [bodyLines_eq_filter, List.filter_eq_self]
  intro entry hentry
  rw [bodyLines_none] at hentry
  obtain ⟨number, hnumber, rfl⟩ := List.mem_map.1 hentry
  obtain ⟨hstart, hstop, -⟩ := mem_bodyNumbers.1 hnumber
  refine decide_eq_true fun heq => h ?_
  cases heq
  exact ⟨hstart, hstop⟩

theorem fieldNames_eq_of_bodyLines {lines other : List Text} {block : Block}
    {typing typing' : Option Nat}
    (h : bodyLines lines block typing = bodyLines other block typing') :
    fieldNames lines block typing = fieldNames other block typing' := by
  rw [fieldNames, fieldNames, h]

theorem FieldIndex.ofBlock_eq_of_bodyLines {lines other : List Text} {block : Block}
    {typing typing' : Option Nat}
    (h : bodyLines lines block typing = bodyLines other block typing') :
    ofBlock lines block typing = ofBlock other block typing' := by
  rw [ofBlock, ofBlock, declarations, declarations, h]

/-- The fields of a block and their types are the same whatever stands on the line that is being
typed on. If that line is not inside the block, they are what they are without it. -/
theorem fields_read_off_typed_line (block : Block) (typing : Nat) :
    (∀ lines other, AgreeOff typing lines other →
      fieldNames lines block (some typing) = fieldNames other block (some typing) ∧
      FieldIndex.ofBlock lines block (some typing) =
        FieldIndex.ofBlock other block (some typing)) ∧
    (¬ (block.range.start.line < typing ∧ typing < block.range.stop.line) → ∀ lines,
      fieldNames lines block (some typing) = fieldNames lines block none ∧
      FieldIndex.ofBlock lines block (some typing) = FieldIndex.ofBlock lines block none) := by
  constructor
  · intro lines other hagree
    have hbody := hagree.bodyLines_eq block
    exact ⟨fieldNames_eq_of_bodyLines hbody, FieldIndex.ofBlock_eq_of_bodyLines hbody⟩
  · intro houtside lines
    have hbody := bodyLines_eq_of_outside houtside lines
    exact ⟨fieldNames_eq_of_bodyLines hbody, FieldIndex.ofBlock_eq_of_bodyLines hbody⟩

/-- The line that is being typed on is the first of a type and of a name, or it closes the block. -/
theorem fields_read_off_first_line :
    let block : Block := ⟨.model, ⟨⟨0, 0⟩, ⟨4, 1⟩⟩, Range.onLine 0 6 7, ['A']⟩
    let lines := ["model A \x7b".toList, "id Int".toList, "id String".toList, "n Int".toList, ['}']]
    let other := ["model A \x7b".toList, ['}'], "id String".toList, "n Int".toList, ['}']]
    AgreeOff 1 lines other ∧ ¬ (0 < 4 ∧ 4 < 4) ∧
      FieldIndex.ofBlock lines block (some 1) = FieldIndex.ofBlock other block (some 1) ∧
      fieldNames lines block (some 4) = ["id".toList, "id".toList, ['n']] := by
  intro block lines other
  have hagree : AgreeOff 1 lines other := by
    refine ⟨rfl, fun number hnumber => ?_⟩
    rcases number with _ | _ | number
    · rfl
    · contradiction
    · rfl
  obtain ⟨hread, -⟩ := fields_read_off_typed_line block 1
  refine ⟨hagree, by decide, (hread lines other hagree).2, ?_⟩
  exact (((fields_read_off_typed_line block 4).2 (by decide) lines).1).trans (by decide)

end SchemaAssist
