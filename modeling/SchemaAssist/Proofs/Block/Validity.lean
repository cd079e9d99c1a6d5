import SchemaAssist.Block.Basic
import SchemaAssist.Proofs.Block.Locating
import SchemaAssist.Proofs.Position.Checked

/-!
# Blocks are valid

Whatever the lines hold, every block of the scan is one that the checked constructor would have
built (`Block.Valid.check_draft`): its ranges are in order, its name is not empty and lies within
it. A block that is cut off on its header line keeps all of that line, and the header's name with
it. No end of a range is beyond the end of its line (`within_of_mem_scan`).
-/

namespace SchemaAssist

theorem Header.exists_line_eq {line : Text} {header : Header}
    (h : Header.ofLine? line = some header) :
    ∃ before after, line = before ++ header.name ++ after ∧ before.length = header.column := by
  obtain ⟨-, -, hname, -, hcolumn⟩ := ofLine?_eq_some_iff.1 h
  obtain ⟨tail, -, hparts⟩ := Text.exists_blank_append_trim (middle header.kind line)
  rw [← hname] at hparts
  refine ⟨line.take header.kind.keyword.length ++ Text.indent (middle header.kind line),
    tail ++ (line.drop header.kind.keyword.length).dropWhile (· != '{'), ?_, ?_⟩
  · calc line
      _ = line.take header.kind.keyword.length ++ line.drop header.kind.keyword.length :=
        (List.take_append_drop _ _).symm
      _ = line.take header.kind.keyword.length ++ (middle header.kind line ++
            (line.drop header.kind.keyword.length).dropWhile (· != '{')) := by
        rw [middle, List.takeWhile_append_dropWhile]
      _ = _ := by
        nth_rewrite 1 [hparts]
        simp only [List.append_assoc]
  · rw [List.length_append, List.length_take_of_le (isInfix_keyword h).length_le, hcolumn]

theorem Header.column_add_length_le {line : Text} {header : Header}
    (h : Header.ofLine? line = some header) :
    header.column + header.name.length ≤ line.length := by
  obtain ⟨before, after, hline, hcolumn⟩ := exists_line_eq h
  have hlength := congrArg List.length hline
  rw [List.length_append, List.length_append, hcolumn] at hlength
  rw [hlength]
  exact Nat.le_add_right _ _

theorem stop_lt_length_of_mem_scan {lines : List Text} {block : Block}
    (h : block ∈ Block.scan lines) : block.range.stop.line < lines.length := by
  obtain ⟨opening, stop, rfl, -, -, hstop⟩ := exists_endingAt_of_mem_scanFrom (by simp) h
  rwa [Nat.zero_add] at hstop

theorem EndsAt.below_or_with {lines : List Text} {line : Nat} {next : Option Nat} {stop : Position}
    (h : EndsAt lines line next stop) (hnext : ∀ n ∈ next, line < n) :
    line < stop.line ∨ stop = ⟨line, (Text.lineOf lines line).length⟩ := by
  cases h with
  | closed number below inside closes first => exact .inl below
  | cutOff number cut unclosed =>
    rcases Nat.lt_or_eq_of_le (Nat.le_sub_one_of_lt (hnext number cut)) with hlt | heq
    · exact .inl hlt
    · exact .inr (by rw [← heq])

theorem Opening.valid_endingAt {lines : List Text} {opening : Opening} {stop : Position}
    (hheader : Header.ofLine? (Text.lineOf lines opening.line) = some opening.header)
    (hstop : opening.line < stop.line ∨
      stop = ⟨opening.line, (Text.lineOf lines opening.line).length⟩) :
    (opening.endingAt stop).Valid where
  range_ordered := by
    rcases hstop with hbelow | rfl
    · exact Position.le_def.2 (.inl hbelow)
    · exact Position.le_def.2 (.inr ⟨rfl, Nat.zero_le _⟩)
  nameRange_ordered := Range.ordered_onLine (Nat.le_add_right _ _)
  contains_name := by
    refine ⟨Position.le_def.2 (.inr ⟨rfl, Nat.zero_le _⟩), ?_⟩
    rcases hstop with hbelow | rfl
    · exact Position.le_def.2 (.inl hbelow)
    · exact Position.le_def.2 (.inr ⟨rfl, Header.column_add_length_le hheader⟩)
  name_ne_nil := (Header.ofLine?_eq_some_iff.1 hheader).2.2.2.1

theorem valid_of_mem_scan {lines : List Text} {block : Block} (h : block ∈ Block.scan lines) :
    block.Valid := by
  obtain ⟨opening, next, stop, hheader, hbelow, hends, rfl⟩ := exists_endsAt_of_mem_scan h
  exact Opening.valid_endingAt hheader (hends.below_or_with fun n hn => (hbelow n hn).1)

def Block.draft (block : Block) : BlockDraft where
  kind := some block.kind.keyword
  range := some block.range.corners
  nameRange := some block.nameRange.corners
  name := some block.name

theorem Block.Valid.check_draft {block : Block} (h : block.Valid) :
    block.draft.check = .ok block := by
  have hkind : BlockDraft.checkKind (some block.kind.keyword) = .ok block.kind := by
    rw [BlockDraft.checkKind, Kind.ofKeyword?_eq_some_iff.2 rfl]
  have hrange : BlockDraft.checkRange .range (some block.range.corners) = .ok block.range :=
    Range.check_corners h.range_ordered _
  have hnameRange : BlockDraft.checkRange .nameRange (some block.nameRange.corners) =
      .ok block.nameRange := Range.check_corners h.nameRange_ordered _
  have hinside : BlockDraft.checkInside (.ok block.range) (.ok block.nameRange) =
      .ok block.nameRange := if_pos h.contains_name
  have hname : BlockDraft.checkName (some block.name) = .ok block.name := by
    obtain ⟨c, rest, hcons⟩ := List.exists_cons_of_ne_nil h.name_ne_nil
    rw [hcons]
    rfl
  simp only [BlockDraft.check, draft, hkind, hrange, hnameRange, hinside, hname]

/-- The line exists, and the column is not beyond its end. -/
structure Position.Within (lines : List Text) (position : Position) : Prop where
  line_lt : position.line < lines.length
  character_le : position.character ≤ (Text.lineOf lines position.line).length

structure Range.Within (lines : List Text) (range : Range) : Prop where
  start : range.start.Within lines
  stop : range.stop.Within lines

theorem EndsAt.character_le {lines : List Text} {line : Nat} {next : Option Nat} {stop : Position}
    (h : EndsAt lines line next stop) :
    stop.character ≤ (Text.lineOf lines stop.line).length := by
  cases h with
  | closed number below inside closes first =>
    obtain ⟨rest, hline⟩ := closesBlock_iff.1 closes
    rw [hline]
    exact Nat.le_add_left 1 rest.length
  | cutOff number cut unclosed => exact Nat.le_refl _

theorem within_of_mem_scan {lines : List Text} {block : Block} (h : block ∈ Block.scan lines) :
    block.range.Within lines ∧ block.nameRange.Within lines := by
  have hstop := stop_lt_length_of_mem_scan h
  have hstart := Nat.lt_of_le_of_lt (start_le_stop_of_mem_scan h) hstop
  obtain ⟨opening, next, stop, hheader, -, hends, rfl⟩ := exists_endsAt_of_mem_scan h
  have hname := Header.column_add_length_le hheader
  exact ⟨⟨⟨hstart, Nat.zero_le _⟩, ⟨hstop, hends.character_le⟩⟩,
    ⟨⟨hstart, Nat.le_trans (Nat.le_add_right _ _) hname⟩, ⟨hstart, hname⟩⟩⟩

end SchemaAssist
