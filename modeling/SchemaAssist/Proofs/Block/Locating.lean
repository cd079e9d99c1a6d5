import SchemaAssist.Block.Scan
import SchemaAssist.Proofs.Block.Endings

/-!
# Blocks do not overlap

The blocks of a line array stand one above the other: each ends above the line on which the next one
starts (`pairwise_above_scan`). So a line is covered by at most one of them, and the search that
stops at the first block below a line finds it (`covering?_eq_some_iff`).
-/

namespace SchemaAssist

def Block.Above (block other : Block) : Prop :=
  block.range.stop.line < other.range.start.line

-- ---------------------------------------------------------------------------
-- Order
-- ---------------------------------------------------------------------------

theorem EndsAt.line_le {lines : List Text} {line : Nat} {next : Option Nat} {stop : Position}
    (h : EndsAt lines line next stop) (hnext : ∀ n ∈ next, line < n) : line ≤ stop.line := by
  cases h with
  | closed number below inside closes first => exact Nat.le_of_lt below
  | cutOff number cut unclosed => exact Nat.le_sub_one_of_lt (hnext number cut)

theorem EndsAt.stop_lt {lines : List Text} {line next : Nat} {stop : Position}
    (h : EndsAt lines line (some next) stop) (hnext : line < next) : stop.line < next := by
  cases h with
  | closed number below inside closes first => exact inside next rfl
  | cutOff number cut unclosed =>
    cases cut
    exact Nat.sub_lt (Nat.zero_lt_of_lt hnext) Nat.one_pos

namespace Ended
variable {lines : List Text} {headers : List Opening} {blocks : List Block}

theorem exists_endsAt_of_mem (h : Ended lines headers blocks)
    (hsorted : headers.Pairwise (·.line < ·.line)) {block : Block} (hblock : block ∈ blocks) :
    ∃ opening ∈ headers, ∃ next stop,
      (∀ n ∈ next, opening.line < n ∧ ∃ below ∈ headers, below.line = n) ∧
      EndsAt lines opening.line next stop ∧ block = opening.endingAt stop := by
  induction h with
  | nil => cases hblock
  | dangling unclosed => cases hblock
  | @cons first rest blocks stop ends tail ih =>
    obtain ⟨hfirst, hrest⟩ := List.pairwise_cons.1 hsorted
    rcases List.mem_cons.1 hblock with rfl | hlater
    · refine ⟨first, List.mem_cons_self .., _, stop, ?_, ends, rfl⟩
      intro n hn
      obtain ⟨next, hhead, rfl⟩ := Option.map_eq_some_iff.1 hn
      have hnext := List.mem_of_head? hhead
      exact ⟨hfirst next hnext, next, List.mem_cons_of_mem _ hnext, rfl⟩
    · obtain ⟨opening, hopening, next, stop, hnext, hblock⟩ := ih hrest hlater
      refine ⟨opening, List.mem_cons_of_mem _ hopening, next, stop, ?_, hblock⟩
      intro n hn
      obtain ⟨hlt, below, hbelow, hline⟩ := hnext n hn
      exact ⟨hlt, below, List.mem_cons_of_mem _ hbelow, hline⟩

theorem exists_of_mem (h : Ended lines headers blocks)
    (hsorted : headers.Pairwise (·.line < ·.line)) {block : Block} (hblock : block ∈ blocks) :
    ∃ opening ∈ headers, ∃ stop, block = opening.endingAt stop ∧ opening.line ≤ stop.line := by
  obtain ⟨opening, hopening, next, stop, hnext, hends, rfl⟩ :=
    h.exists_endsAt_of_mem hsorted hblock
  exact ⟨opening, hopening, stop, rfl, hends.line_le fun n hn => (hnext n hn).1⟩

theorem pairwise_above (h : Ended lines headers blocks)
    (hsorted : headers.Pairwise (·.line < ·.line)) : blocks.Pairwise Block.Above := by
  induction h with
  | nil => exact .nil
  | dangling unclosed => exact .nil
  | @cons first rest blocks stop ends tail ih =>
    obtain ⟨hfirst, hrest⟩ := List.pairwise_cons.1 hsorted
    refine .cons ?_ (ih hrest)
    intro block hblock
    obtain ⟨opening, hopening, _, rfl, -⟩ := tail.exists_of_mem hrest hblock
    cases rest with
    | nil => cases hopening
    | cons next rest =>
      have hstop : stop.line < next.line :=
        ends.stop_lt (hfirst next (List.mem_cons_self ..))
      rcases List.mem_cons.1 hopening with rfl | hlater
      · exact hstop
      · exact Nat.lt_trans hstop ((List.pairwise_cons.1 hrest).1 opening hlater)

end Ended

theorem pairwise_above_scan (lines : List Text) : (Block.scan lines).Pairwise Block.Above :=
  (ended_scan lines).pairwise_above (pairwise_openingsFrom 0 lines)

theorem exists_endsAt_of_mem_scan {lines : List Text} {block : Block}
    (h : block ∈ Block.scan lines) :
    ∃ (opening : Opening) (next : Option Nat) (stop : Position),
      Header.ofLine? (Text.lineOf lines opening.line) = some opening.header ∧
        (∀ n ∈ next, opening.line < n ∧ ∃ header, Header.ofLine? (Text.lineOf lines n) = some header) ∧
        EndsAt lines opening.line next stop ∧ block = opening.endingAt stop := by
  obtain ⟨opening, hopening, next, stop, hnext, hblock⟩ :=
    (ended_scan lines).exists_endsAt_of_mem (pairwise_openingsFrom 0 lines) h
  refine ⟨opening, next, stop, (mem_openingsFrom.1 hopening).2, ?_, hblock⟩
  intro n hn
  obtain ⟨hlt, below, hbelow, rfl⟩ := hnext n hn
  exact ⟨hlt, below.header, (mem_openingsFrom.1 hbelow).2⟩

theorem exists_header_of_mem_scan {lines : List Text} {block : Block}
    (h : block ∈ Block.scan lines) :
    ∃ (opening : Opening) (stop : Position),
      Header.ofLine? (Text.lineOf lines opening.line) = some opening.header ∧
        block = opening.endingAt stop ∧ opening.line ≤ stop.line := by
  obtain ⟨opening, next, stop, hheader, hnext, hends, rfl⟩ := exists_endsAt_of_mem_scan h
  exact ⟨opening, stop, hheader, rfl, hends.line_le fun n hn => (hnext n hn).1⟩

theorem start_le_stop_of_mem_scan {lines : List Text} {block : Block}
    (h : block ∈ Block.scan lines) : block.range.start.line ≤ block.range.stop.line := by
  obtain ⟨opening, stop, -, rfl, hle⟩ := exists_header_of_mem_scan h
  exact hle

-- ---------------------------------------------------------------------------
-- The block at a line
-- ---------------------------------------------------------------------------

theorem above_or_above {blocks : List Block} (h : blocks.Pairwise Block.Above) {block other : Block}
    (hblock : block ∈ blocks) (hother : other ∈ blocks) :
    block = other ∨ block.Above other ∨ other.Above block := by
  induction h with
  | nil => cases hblock
  | cons hfirst _ ih =>
    rw [List.mem_cons] at hblock hother
    rcases hblock with rfl | hblock
    · rcases hother with rfl | hother
      · exact .inl rfl
      · exact .inr (.inl (hfirst other hother))
    · rcases hother with rfl | hother
      · exact .inr (.inr (hfirst block hblock))
      · exact ih hblock hother

theorem Block.Above.not_coversLine {block other : Block} (h : block.Above other) {line : Int}
    (hcovers : other.range.CoversLine line) : ¬ block.range.CoversLine line := by
  intro hblock
  have habove : (block.range.stop.line : Int) < other.range.start.line := Int.ofNat_lt.2 h
  exact absurd (Int.le_trans hcovers.1 hblock.2) (Int.not_le_of_gt habove)

/-- Stopping at the first block below the line hides none that covers it. -/
theorem filter_coversLine_eq_toList {blocks : List Block} (hsorted : blocks.Pairwise Block.Above)
    (hordered : ∀ block ∈ blocks, block.range.start.line ≤ block.range.stop.line) (line : Int) :
    blocks.filter (fun block => block.range.CoversLine line) =
      (Block.covering? line blocks).toList := by
  induction blocks with
  | nil => rfl
  | cons first rest ih =>
    obtain ⟨hfirst, hrest⟩ := List.pairwise_cons.1 hsorted
    have ih := ih hrest fun block hblock => hordered block (List.mem_cons_of_mem _ hblock)
    rw [Block.covering?]
    split
    · next hbelow =>
      -- All blocks of the list start below the line.
      rw [Option.toList_none, List.filter_eq_nil_iff]
      intro block hblock hcovers
      have hlow := (of_decide_eq_true hcovers).1
      rcases List.mem_cons.1 hblock with rfl | hlater
      · exact absurd hlow (Int.not_le_of_gt hbelow)
      · have hstart : first.range.start.line ≤ block.range.start.line :=
          Nat.le_trans (hordered first (List.mem_cons_self ..)) (Nat.le_of_lt (hfirst block hlater))
        exact absurd (Int.le_trans (Int.ofNat_le.2 hstart) hlow) (Int.not_le_of_gt hbelow)
    · split
      · next hcovered =>
        have hothers : rest.filter (fun block => block.range.CoversLine line) = [] := by
          rw [List.filter_eq_nil_iff]
          intro block hblock hcovers
          exact (hfirst block hblock).not_coversLine (of_decide_eq_true hcovers) hcovered
        rw [List.filter_cons_of_pos (by simpa using hcovered), hothers, Option.toList_some]
      · next huncovered =>
        rw [List.filter_cons_of_neg (by simpa using huncovered), ih]

theorem covering?_eq_some_iff {blocks : List Block} (hsorted : blocks.Pairwise Block.Above)
    (hordered : ∀ block ∈ blocks, block.range.start.line ≤ block.range.stop.line) {line : Int}
    {block : Block} :
    Block.covering? line blocks = some block ↔ block ∈ blocks ∧ block.range.CoversLine line := by
  rw [← Option.mem_toList, ← filter_coversLine_eq_toList hsorted hordered, List.mem_filter,
    decide_eq_true_iff]

theorem covering?_scan_eq_some_iff {lines : List Text} {line : Int} {block : Block} :
    Block.covering? line (Block.scan lines) = some block ↔
      block ∈ Block.scan lines ∧ block.range.CoversLine line :=
  covering?_eq_some_iff (pairwise_above_scan lines) fun _ => start_le_stop_of_mem_scan

/-- Whatever the line, inside the document or not, at most one block covers it. That block is found,
and nothing is found only if there is none. -/
theorem at?_finds_covering_block (line : Int) (lines : List Text) :
    ((Block.scan lines).filter fun block => block.range.CoversLine line).length ≤ 1 ∧
    (∀ block, Block.at? line lines = some block ↔
      block ∈ Block.scan lines ∧ block.range.CoversLine line) ∧
    (Block.at? line lines = none ↔ ∀ block ∈ Block.scan lines, ¬ block.range.CoversLine line) := by
  have hfilter := filter_coversLine_eq_toList (pairwise_above_scan lines)
    (fun _ => start_le_stop_of_mem_scan) line
  refine ⟨?_, fun block => covering?_scan_eq_some_iff, ?_⟩
  · rw [hfilter]
    exact Option.length_toList_le
  · rw [Block.at?, ← Option.toList_eq_nil_iff, ← hfilter, List.filter_eq_nil_iff]
    simp only [decide_eq_true_iff]

end SchemaAssist
