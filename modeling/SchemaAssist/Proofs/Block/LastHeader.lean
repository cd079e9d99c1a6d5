import SchemaAssist.Proofs.Block.Appending
import SchemaAssist.Proofs.Block.Locating
import SchemaAssist.Proofs.Block.Validity

/-!
# The block at a line, told from the last header above

A line that is no header itself lies in the block of the last header above it, if no line in between
closes that block and a line below ends it; otherwise no block covers it.
-/

namespace SchemaAssist

def EndsAbove (line : Text) : Prop :=
  closesBlock line = true ∨ ∃ header, Header.ofLine? line = some header

theorem not_endsAbove_iff {line : Text} :
    ¬ EndsAbove line ↔ Header.ofLine? line = none ∧ closesBlock line = false := by
  rw [EndsAbove, not_or, not_exists, Bool.not_eq_true, Option.eq_none_iff_forall_ne_some, and_comm]

theorem exists_endingAt_mem_scanFrom {opening : Opening} {number above : Nat} {lines : List Text}
    (h : ∃ line ∈ lines, EndsAbove line) :
    ∃ stop, number ≤ stop.line + 1 ∧
      opening.endingAt stop ∈ scanFrom (some opening) number above lines := by
  induction lines generalizing number above with
  | nil => simp at h
  | cons line rest ih =>
    rcases line_cases line with ⟨header, hline⟩ | hline | ⟨hheader, hclosing⟩
    · rw [scanFrom_header hline]
      exact ⟨⟨number - 1, above⟩, Nat.le_add_of_sub_le (Nat.le_refl _), List.mem_cons_self ..⟩
    · rw [scanFrom_closing hline]
      exact ⟨⟨number, 1⟩, Nat.le_succ number, List.mem_cons_self ..⟩
    · have hrest : ∃ line ∈ rest, EndsAbove line := by
        obtain ⟨other, hother, hends⟩ := h
        rcases List.mem_cons.1 hother with rfl | hbelow
        · exact absurd hends (not_endsAbove_iff.2 ⟨hheader, hclosing⟩)
        · exact ⟨other, hbelow, hends⟩
      have hbelow : ∃ stop, number + 1 ≤ stop.line + 1 ∧
          opening.endingAt stop ∈ scanFrom (some opening) (number + 1) line.length rest := ih hrest
      obtain ⟨stop, hstop, hmem⟩ := hbelow
      rw [scanFrom_other hheader hclosing]
      exact ⟨stop, Nat.le_of_succ_le hstop, hmem⟩

theorem scanFrom_eq_nil {opening : Opening} {number above : Nat} {lines : List Text}
    (h : ∀ line ∈ lines, ¬ EndsAbove line) : scanFrom (some opening) number above lines = [] := by
  induction lines generalizing number above with
  | nil => rfl
  | cons line rest ih =>
    obtain ⟨hheader, hclosing⟩ := not_endsAbove_iff.1 (h line (List.mem_cons_self ..))
    rw [scanFrom_other hheader hclosing]
    exact ih fun other hother => h other (List.mem_cons_of_mem line hother)

section
variable {lines : List Text} {number : Nat}

theorem scan_eq_take_append (hlength : number ≤ lines.length) :
    Block.scan lines = Block.scan (lines.take number) ++
      scanFrom (openAfter none 0 0 (lines.take number)) number
        (aboveAfter 0 (lines.take number)) (lines.drop number) := by
  have happend := scan_append (lines.take number) (lines.drop number)
  rwa [List.take_append_drop, List.length_take_of_le hlength] at happend

theorem line_lt_of_openAfter_take {opening : Opening}
    (h : openAfter none 0 0 (lines.take number) = some opening) : opening.line < number := by
  have hlast := List.mem_of_getLast? (openAfter_eq_some_iff.1 h).1
  exact Nat.lt_of_lt_of_le (line_lt_of_mem_openings hlast) (List.length_take_le ..)

theorem exists_openAfter_of_at? {block : Block}
    (hheader : Header.ofLine? (Text.lineOf lines number) = none)
    (hat : Block.at? number lines = some block) :
    ∃ opening stop, openAfter none 0 0 (lines.take number) = some opening ∧
      block = opening.endingAt stop ∧ ∃ line ∈ lines.drop number, EndsAbove line := by
  obtain ⟨hmem, hlow, hhigh⟩ := covering?_scan_eq_some_iff.1 hat
  have hlength : number < lines.length :=
    Nat.lt_of_le_of_lt (Int.ofNat_le.1 hhigh) (stop_lt_length_of_mem_scan hmem)
  have hscanned := hmem
  rw [scan_eq_take_append hlength.le, List.mem_append] at hscanned
  rcases hscanned with habove | hbelow
  · have hstop := stop_lt_length_of_mem_scan habove
    rw [List.length_take_of_le hlength.le] at hstop
    exact absurd (Int.ofNat_le.1 hhigh) (Nat.not_le_of_lt hstop)
  · obtain ⟨opening, stop, rfl, hfrom, -⟩ :=
      exists_endingAt_of_mem_scanFrom (fun _ => line_lt_of_openAfter_take) hbelow
    have hopened : opening ∈ openAfter none 0 0 (lines.take number) := by
      refine hfrom.resolve_right fun hge => ?_
      -- The block would start on the line, which is no header.
      obtain ⟨other, _, hother, heq, -⟩ := exists_header_of_mem_scan hmem
      have hline : opening.line = number := Nat.le_antisymm (Int.ofNat_le.1 hlow) hge
      have hsame : other.line = opening.line := congrArg (·.range.start.line) heq.symm
      rw [hsame, hline, hheader] at hother
      contradiction
    refine ⟨opening, stop, hopened, rfl, ?_⟩
    by_contra hnone
    rw [Option.mem_def.1 hopened, scanFrom_eq_nil (by simpa using hnone)] at hbelow
    cases hbelow

theorem exists_at?_of_openAfter {opening : Opening} (hlength : number < lines.length)
    (hline : ¬ EndsAbove (Text.lineOf lines number))
    (hopen : openAfter none 0 0 (lines.take number) = some opening)
    (hends : ∃ line ∈ lines.drop (number + 1), EndsAbove line) :
    ∃ stop, Block.at? number lines = some (opening.endingAt stop) := by
  obtain ⟨hheader, hclosing⟩ := not_endsAbove_iff.1 hline
  have hbelow : ∃ stop, number + 1 ≤ stop.line + 1 ∧ opening.endingAt stop ∈
      scanFrom (some opening) (number + 1) (Text.lineOf lines number).length
        (lines.drop (number + 1)) := exists_endingAt_mem_scanFrom hends
  obtain ⟨stop, hstop, hmem⟩ := hbelow
  refine ⟨stop, covering?_scan_eq_some_iff.2 ⟨?_, ?_, ?_⟩⟩
  · rw [scan_eq_take_append hlength.le, hopen, Text.drop_eq_lineOf_cons hlength,
      scanFrom_other hheader hclosing]
    exact List.mem_append_right _ hmem
  · exact Int.ofNat_le.2 (Nat.le_of_lt (line_lt_of_openAfter_take hopen))
  · exact Int.ofNat_le.2 (Nat.le_of_succ_le_succ hstop)

theorem closesAt_take_iff {i : Nat} :
    ClosesAt (lines.take number) i ↔ i < number ∧ ClosesAt lines i := by
  by_cases hi : i < number
  · rw [ClosesAt, ClosesAt, Text.lineOf, Text.lineOf, List.getElem?_take_of_lt hi,
      and_iff_right hi]
  · have hout : (lines.take number).length ≤ i := by
      rw [List.length_take]
      omega
    rw [ClosesAt, Text.lineOf_eq_nil hout]
    simp [hi, closesBlock]

theorem exists_mem_drop_iff :
    (∃ line ∈ lines.drop number, EndsAbove line) ↔
      ∃ i, number ≤ i ∧ EndsAbove (Text.lineOf lines i) := by
  constructor
  · rintro ⟨line, hmem, hends⟩
    obtain ⟨k, hk, rfl⟩ := List.mem_iff_getElem.1 hmem
    rw [List.length_drop] at hk
    refine ⟨number + k, Nat.le_add_right _ _, ?_⟩
    rwa [Text.lineOf, List.getElem?_eq_getElem (by omega), Option.getD_some, ← List.getElem_drop]
  · rintro ⟨i, hi, hends⟩
    have hlength : i < lines.length := by
      refine Nat.lt_of_not_le fun hle => ?_
      rw [Text.lineOf_eq_nil hle] at hends
      exact not_endsAbove_iff.2 ⟨rfl, rfl⟩ hends
    have hmem : Text.lineOf lines i ∈ lines.drop number := by
      rw [List.mem_iff_getElem?]
      refine ⟨i - number, ?_⟩
      rw [List.getElem?_drop, Nat.add_sub_cancel' hi]
      exact Text.getElem?_eq_some_lineOf hlength
    exact ⟨_, hmem, hends⟩

/-- A line lies in a block of that kind, or in none, exactly if the last header above it is of that
kind, or is closed above it, or is not ended below it. -/
theorem forall_at?_kind_iff (hlength : number < lines.length)
    (hline : ¬ EndsAbove (Text.lineOf lines number)) (kind : Kind) :
    (∀ block, Block.at? number lines = some block → block.kind = kind) ↔
      ∀ opening ∈ (openings (lines.take number)).getLast?, opening.header.kind = kind ∨
        (∃ i, opening.line < i ∧ i < number ∧ ClosesAt lines i) ∨
        ∀ i, number < i → ¬ EndsAbove (Text.lineOf lines i) := by
  constructor
  · intro hall opening hlast
    by_cases hclosed : ∃ i, opening.line < i ∧ i < number ∧ ClosesAt lines i
    · exact .inr (.inl hclosed)
    · by_cases hends : ∃ i, number < i ∧ EndsAbove (Text.lineOf lines i)
      · obtain ⟨i, hi, hends⟩ := hends
        have hopen : openAfter none 0 0 (lines.take number) = some opening := by
          refine openAfter_eq_some_iff.2 ⟨hlast, fun i hlow hcloses => hclosed ⟨i, hlow, ?_⟩⟩
          exact closesAt_take_iff.1 hcloses
        obtain ⟨stop, hat⟩ := exists_at?_of_openAfter hlength hline hopen
          (exists_mem_drop_iff.2 ⟨i, hi, hends⟩)
        exact .inl (hall _ hat)
      · simp only [not_exists, not_and] at hends
        exact .inr (.inr hends)
  · intro hlast block hat
    obtain ⟨opening, stop, hopen, rfl, line, hmem, hends⟩ :=
      exists_openAfter_of_at? (not_endsAbove_iff.1 hline).1 hat
    obtain ⟨hmember, hunclosed⟩ := openAfter_eq_some_iff.1 hopen
    rcases hlast opening hmember with hkind | ⟨i, hlow, hhigh, hcloses⟩ | hnone
    · exact hkind
    · exact absurd (closesAt_take_iff.2 ⟨hhigh, hcloses⟩) (hunclosed i hlow)
    · obtain ⟨i, hi, hends⟩ := exists_mem_drop_iff.1 ⟨line, hmem, hends⟩
      rcases Nat.lt_or_eq_of_le hi with hlt | rfl
      · exact absurd hends (hnone i hlt)
      · exact absurd hends hline

end
end SchemaAssist
