import Mathlib.Data.List.Induction
import SchemaAssist.Proofs.Block.Endings
import SchemaAssist.Proofs.Block.Insertion

/-!
# Scanning line arrays in a row

What a scan has given is final: lines that are appended only add blocks behind it. All that it takes
along is the last header, if nothing closes that one (`openAfter_eq_some_iff`). So two line arrays
can be scanned apart exactly if the first of them is settled (`scan_append_apart_iff`).
-/

namespace SchemaAssist

/-- The last header is closed by a line below it, if there is one. -/
def Settled (lines : List Text) : Prop :=
  ∀ opening ∈ (openings lines).getLast?, ∃ number, opening.line < number ∧ ClosesAt lines number

theorem openAfter_append (opened : Option Opening) (number above : Nat) (lines rest : List Text) :
    openAfter opened number above (lines ++ rest) =
      openAfter (openAfter opened number above lines) (number + lines.length)
        (aboveAfter above lines) rest := by
  induction lines generalizing opened number above with
  | nil => rfl
  | cons line lines ih =>
    rw [List.cons_append, openAfter, ih, List.length_cons, Nat.add_right_comm]
    rfl

theorem openingsFrom_append (number : Nat) (lines rest : List Text) :
    openingsFrom number (lines ++ rest) =
      openingsFrom number lines ++ openingsFrom (number + lines.length) rest := by
  induction lines generalizing number with
  | nil => rfl
  | cons line lines ih =>
    rw [List.cons_append, openingsFrom, ih, openingsFrom, List.append_assoc, List.length_cons,
      Nat.add_right_comm]
    rfl

theorem openings_concat (lines : List Text) (line : Text) :
    openings (lines ++ [line]) =
      openings lines ++ ((Header.ofLine? line).map (Opening.mk lines.length)).toList := by
  rw [openings, openingsFrom_append, Nat.zero_add, openings, openingsFrom, openingsFrom,
    List.append_nil]

theorem not_closesAt_concat {lines : List Text} {number : Nat} (h : lines.length < number)
    (line : Text) : ¬ ClosesAt (lines ++ [line]) number := by
  intro hcloses
  have hlt := hcloses.lt_length
  rw [List.length_append, List.length_singleton] at hlt
  exact Nat.not_lt_of_le (Nat.le_of_lt_succ hlt) h

theorem closesAt_concat_iff {lines : List Text} {line : Text} {number : Nat} :
    ClosesAt (lines ++ [line]) number ↔
      ClosesAt lines number ∨ number = lines.length ∧ closesBlock line = true := by
  rcases Nat.lt_trichotomy number lines.length with hlt | rfl | hgt
  · simp [ClosesAt, Text.lineOf, List.getElem?_append_left hlt, Nat.ne_of_lt hlt]
  · have hend : ¬ ClosesAt lines lines.length := fun h => Nat.lt_irrefl _ h.lt_length
    simp only [hend, false_or, true_and]
    simp [ClosesAt, Text.lineOf]
  · constructor
    · exact fun hcloses => absurd hcloses (not_closesAt_concat hgt line)
    · rintro (hcloses | ⟨heq, -⟩)
      · exact absurd hgt (Nat.lt_asymm hcloses.lt_length)
      · exact absurd heq (Nat.ne_of_gt hgt)

theorem line_lt_of_mem_openings {lines : List Text} {opening : Opening}
    (h : opening ∈ openings lines) : opening.line < lines.length := by
  have hheader := (mem_openingsFrom.1 h).2
  refine Nat.lt_of_not_le fun hle => ?_
  rw [Nat.sub_zero, Text.lineOf_eq_nil hle] at hheader
  cases hheader

theorem openAfter_eq_some_iff {lines : List Text} {opening : Opening} :
    openAfter none 0 0 lines = some opening ↔
      (openings lines).getLast? = some opening ∧
        ∀ number, opening.line < number → ¬ ClosesAt lines number := by
  induction lines using List.reverseRecOn with
  | nil => simp [openAfter, openings, openingsFrom]
  | append_singleton lines line ih =>
    rw [openAfter_append, openings_concat, openAfter, openAfter, Nat.zero_add]
    rcases line_cases line with ⟨header, hline⟩ | hline | ⟨hheader, hclosing⟩
    · rw [scanLine_header hline, hline, Option.map_some, Option.toList_some,
        List.getLast?_concat]
      refine ⟨?_, And.left⟩
      rintro ⟨⟩
      exact ⟨rfl, fun number hlow => not_closesAt_concat hlow line⟩
    · rw [scanLine_closing hline, Header.ofLine?_eq_none_of_closesBlock hline, Option.map_none,
        Option.toList_none, List.append_nil]
      constructor
      · intro h
        contradiction
      · rintro ⟨hlast, hunclosed⟩
        have hlow := line_lt_of_mem_openings (List.mem_of_getLast? hlast)
        exact absurd (closesAt_concat_iff.2 (.inr ⟨rfl, hline⟩)) (hunclosed lines.length hlow)
    · rw [scanLine_other hheader hclosing, hheader, Option.map_none, Option.toList_none,
        List.append_nil, ih]
      simp only [closesAt_concat_iff, hclosing, Bool.false_eq_true, and_false, or_false]

theorem openAfter_eq_none_iff {lines : List Text} :
    openAfter none 0 0 lines = none ↔ Settled lines := by
  rw [Option.eq_none_iff_forall_ne_some]
  simp only [ne_eq, openAfter_eq_some_iff, Settled, Option.mem_def, not_and, not_forall,
    Classical.not_not, exists_prop]

theorem scan_append (lines rest : List Text) :
    Block.scan (lines ++ rest) = Block.scan lines ++
      scanFrom (openAfter none 0 0 lines) lines.length (aboveAfter 0 lines) rest := by
  rw [Block.scan, scanFrom_append, Nat.zero_add]
  rfl

theorem scanFrom_none (number above : Nat) (lines : List Text) :
    scanFrom none number above lines = (Block.scan lines).map (Block.movedDown 0 number) := by
  have hmoved := scanFrom_movedDown number lines none 0 0 (Nat.le_refl 0) (.inr (.inl rfl))
  rw [Option.map_none, Nat.zero_add] at hmoved
  rw [scanFrom_above (.inl rfl) number above 0, hmoved, Block.scan]

/-- The blocks of some lines stay the first ones when lines are appended. The others are those of
the appended lines, moved down below the lines before them, for all that can be appended exactly if
the last header above is closed. -/
theorem scan_append_apart_iff (lines : List Text) :
    (∀ rest, Block.scan lines <+: Block.scan (lines ++ rest)) ∧
    (Settled lines ↔ ∀ rest, Block.scan (lines ++ rest) =
      Block.scan lines ++ (Block.scan rest).map (Block.movedDown 0 lines.length)) := by
  refine ⟨fun rest => ?_, ?_, ?_⟩
  · rw [scan_append]
    exact List.prefix_append _ _
  · intro hsettled rest
    rw [scan_append, openAfter_eq_none_iff.2 hsettled, scanFrom_none]
  · intro happart
    rw [← openAfter_eq_none_iff]
    cases hopen : openAfter none 0 0 lines with
    | none => rfl
    | some opening =>
      -- A closing line would end the block that is open, and on its own it ends nothing.
      have hclosed := happart [['}']]
      rw [scan_append, hopen, scanFrom_closing rfl] at hclosed
      have hnil := List.append_cancel_left hclosed
      cases hnil

/-- A closing line comes first below a block that is cut off and one that is closed. -/
theorem scan_apart_below_closed_block :
    let lines := ["model A \x7b".toList, "type B \x7b".toList, ['}']]
    let rest := [['}'], "view C \x7b".toList, ['}']]
    Settled lines ∧
      Block.scan (lines ++ rest) =
        Block.scan lines ++ (Block.scan rest).map (Block.movedDown 0 lines.length) ∧
      (Block.scan (lines ++ rest)).map (·.range) =
        [⟨⟨0, 0⟩, ⟨0, 9⟩⟩, ⟨⟨1, 0⟩, ⟨2, 1⟩⟩, ⟨⟨4, 0⟩, ⟨5, 1⟩⟩] := by
  intro lines rest
  have hsettled : Settled lines := openAfter_eq_none_iff.1 rfl
  exact ⟨hsettled, (scan_append_apart_iff lines).2.1 hsettled rest, by decide⟩

end SchemaAssist
