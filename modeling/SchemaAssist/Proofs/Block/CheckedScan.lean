import SchemaAssist.Proofs.Block.Validity
import SchemaAssist.Proofs.Text.Selection

/-!
# The scan with every value checked

The scan puts ranges and blocks together without a look at their numbers. `Block.scanChecked` reads
the lines in the same way, but builds the range of every name and every block with the checked
constructors. It does not fail, and its blocks are those of the scan (`scanFromChecked_eq`): what is
known of an opening while it is open makes its block valid wherever it ends.
-/

namespace SchemaAssist

/-- As `scanLine`. The number of the line above may turn out negative. -/
def scanLineChecked (opened : Option Opening) (number above : Nat) (line : Text) :
    Except (List Problem) (Option Block × Option Opening) :=
  match Header.ofLine? line, opened with
  | some header, some opening => do
    let _ ← header.checkedNameRange number
    let block ← opening.checkedEndingAt (number - 1) above
    return (some block, some ⟨number, header⟩)
  | some header, none => do
    let _ ← header.checkedNameRange number
    return (none, some ⟨number, header⟩)
  | none, some opening =>
    if closesBlock line then do
      let block ← opening.checkedEndingAt number 1
      return (some block, none)
    else return (none, some opening)
  | none, none => return (none, none)

def scanFromChecked (opened : Option Opening) (number above : Nat) :
    List Text → Except (List Problem) (List Block)
  | [] => return []
  | line :: rest => do
    let (ended, left) ← scanLineChecked opened number above line
    let below ← scanFromChecked left (number + 1) line.length rest
    return ended.toList ++ below

def Block.scanChecked (lines : List Text) : Except (List Problem) (List Block) :=
  scanFromChecked none 0 0 lines

theorem Header.checkedNameRange_eq (header : Header) (number : Nat) :
    header.checkedNameRange number = .ok (header.nameRange number) :=
  Range.ofCorners_onLine number (Nat.le_add_right _ _)

theorem Opening.checkedEndingAt_eq {opening : Opening} {stop : Position}
    (h : (opening.endingAt stop).Valid) :
    opening.checkedEndingAt stop.line stop.character = .ok (opening.endingAt stop) := by
  have hrange : Range.ofCorners ⟨opening.line, 0, stop.line, stop.character⟩ =
      .ok (opening.endingAt stop).range := Range.ofCorners_corners h.range_ordered
  rw [checkedEndingAt, hrange]
  exact h.check_draft

section
variable {lines : List Text} {number above : Nat} {opening : Opening}

theorem StillOpen.checkedEndingAt_closing (h : StillOpen lines number above opening) :
    opening.checkedEndingAt number 1 = .ok (opening.closedOn number) := by
  have hvalid : (opening.closedOn number).Valid :=
    Opening.valid_endingAt h.isHeader (.inl h.line_lt)
  exact Opening.checkedEndingAt_eq hvalid

theorem StillOpen.checkedEndingAt_above (h : StillOpen lines number above opening) :
    opening.checkedEndingAt (number - 1) above = .ok (opening.cutOffBy number above) := by
  have hline : ((number - 1 : Nat) : Int) = number - 1 :=
    Int.natCast_sub (Nat.one_le_of_lt h.line_lt)
  have hvalid : (opening.cutOffBy number above).Valid := by
    refine Opening.valid_endingAt h.isHeader ?_
    rcases Nat.lt_or_eq_of_le (Nat.le_sub_one_of_lt h.line_lt) with hlt | heq
    · exact .inl hlt
    · -- The header is the line above, and its block ends with it.
      exact .inr (by rw [heq, h.above_eq])
  rw [← hline]
  exact Opening.checkedEndingAt_eq hvalid

theorem scanLineChecked_eq {opened : Option Opening}
    (hopen : ∀ opening ∈ opened, StillOpen lines number above opening) (line : Text) :
    scanLineChecked opened number above line = .ok (scanLine opened number above line) := by
  unfold scanLineChecked scanLine
  cases Header.ofLine? line with
  | some header =>
    cases opened with
    | none => simp only [header.checkedNameRange_eq]; rfl
    | some opening =>
      simp only [header.checkedNameRange_eq, (hopen opening rfl).checkedEndingAt_above]
      rfl
  | none =>
    cases opened with
    | none => rfl
    | some opening =>
      cases closesBlock line with
      | true => simp only [(hopen opening rfl).checkedEndingAt_closing]; rfl
      | false => rfl

end

theorem scanFromChecked_eq {lines : List Text} (rest : List Text) (opened : Option Opening)
    (number above : Nat) (hdrop : lines.drop number = rest)
    (hopen : ∀ opening ∈ opened, StillOpen lines number above opening) :
    scanFromChecked opened number above rest = .ok (scanFrom opened number above rest) := by
  induction rest generalizing opened number above with
  | nil => rfl
  | cons line rest ih =>
    have hbelow := ih _ _ _ (drop_succ_of_drop hdrop) (stillOpen_scanLine hdrop hopen)
    rw [scanFromChecked, scanLineChecked_eq hopen]
    simp only [hbelow, scanFrom, bind, Except.bind]
    rfl

theorem scanChecked_eq (lines : List Text) :
    Block.scanChecked lines = .ok (Block.scan lines) :=
  scanFromChecked_eq lines none 0 0 rfl (by simp)

/-- What is asked of a block besides its being valid: that it ends within the document, that neither
range is empty, and that its header line has the name where the name range is. -/
structure Block.InDocument (lines : List Text) (block : Block) : Prop where
  stop_within : block.range.stop.Within lines
  start_before_stop : ¬ block.range.stop ≤ block.range.start
  name_start_before_stop : ¬ block.nameRange.stop ≤ block.nameRange.start
  name_on_header : block.nameRange.start.line = block.range.start.line
  selects_name : block.nameRange.Selects lines block.name

theorem inDocument_of_mem_scan {lines : List Text} {block : Block}
    (h : block ∈ Block.scan lines) : block.InDocument lines := by
  have hvalid := valid_of_mem_scan h
  have hwithin := (within_of_mem_scan h).1.stop
  obtain ⟨opening, stop, hheader, rfl, -⟩ := exists_header_of_mem_scan h
  obtain ⟨before, after, hline, hcolumn⟩ := Header.exists_line_eq hheader
  have hname : ¬ (opening.header.nameRange opening.line).stop ≤
      (opening.header.nameRange opening.line).start := by
    have hpos := List.length_pos_of_ne_nil hvalid.name_ne_nil
    simp only [Opening.endingAt] at hpos
    simp only [Header.nameRange, Range.onLine, Position.le_def]
    omega
  constructor
  case stop_within => exact hwithin
  case start_before_stop =>
    -- The name is inside the block, so an empty block would have an empty name.
    intro hle
    have hcontains := hvalid.contains_name
    exact hname (Position.le_trans hcontains.2 (Position.le_trans hle hcontains.1))
  case name_start_before_stop => exact hname
  case name_on_header => rfl
  case selects_name =>
    have hselects := Range.selects_onLine hline
    rw [hcolumn] at hselects
    exact hselects

/-- Whatever the lines hold, no check fails on the way to their blocks. Every block is valid, ends
within the document, and has its name where its header line has it. -/
theorem scan_builds_only_valid_blocks (lines : List Text) :
    Block.scanChecked lines = .ok (Block.scan lines) ∧
    ∀ block ∈ Block.scan lines, block.Valid ∧ block.InDocument lines :=
  ⟨scanChecked_eq lines, fun _ hblock => ⟨valid_of_mem_scan hblock, inDocument_of_mem_scan hblock⟩⟩

/-- An indented header, whose name is read from behind as many characters as its keyword has, cut
off by the line below it. -/
theorem indented_header_builds_valid_block :
    let lines := ["  model A \x7b".toList, "view B \x7b".toList, "\x7d\n".toList]
    let block : Block := ⟨.model, ⟨⟨0, 0⟩, ⟨0, 11⟩⟩, Range.onLine 0 5 9, "el A".toList⟩
    block ∈ Block.scan lines ∧ block.Valid ∧ block.InDocument lines ∧
      Block.scanChecked lines = .ok (Block.scan lines) := by
  intro lines block
  obtain ⟨hchecked, hblocks⟩ := scan_builds_only_valid_blocks lines
  have hmem : block ∈ Block.scan lines := by decide
  exact ⟨hmem, (hblocks block hmem).1, (hblocks block hmem).2, hchecked⟩

end SchemaAssist
