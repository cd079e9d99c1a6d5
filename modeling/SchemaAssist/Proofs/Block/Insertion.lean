import SchemaAssist.Proofs.Block.ScanSteps

/-!
# Lines inside a block

A line inside a block that is neither a header nor a closing line makes no difference but for the
numbers of the lines below it (`scan_insert_body_line`). A field line counts as a header if a
keyword is its first word and it holds an opening brace; `field_line_splits_block` shows one that
does.
-/

namespace SchemaAssist

-- ---------------------------------------------------------------------------
-- Moving down
-- ---------------------------------------------------------------------------

/-- `count` lines further down, if the line is `start` or below it. -/
def Position.movedDown (start count : Nat) (position : Position) : Position :=
  if start ≤ position.line then ⟨position.line + count, position.character⟩ else position

def Range.movedDown (start count : Nat) (range : Range) : Range where
  start := range.start.movedDown start count
  stop := range.stop.movedDown start count

def Block.movedDown (start count : Nat) (block : Block) : Block :=
  { block with
    range := block.range.movedDown start count
    nameRange := block.nameRange.movedDown start count }

def Opening.movedDown (start count : Nat) (opening : Opening) : Opening :=
  if start ≤ opening.line then ⟨opening.line + count, opening.header⟩ else opening

section
variable {start count : Nat}

theorem Position.movedDown_of_le {position : Position} (h : start ≤ position.line) :
    position.movedDown start count = ⟨position.line + count, position.character⟩ := if_pos h

theorem Position.movedDown_of_lt {position : Position} (h : position.line < start) :
    position.movedDown start count = position := if_neg (Nat.not_le_of_lt h)

theorem Opening.movedDown_of_le {opening : Opening} (h : start ≤ opening.line) :
    opening.movedDown start count = ⟨opening.line + count, opening.header⟩ := if_pos h

theorem Opening.movedDown_of_lt {opening : Opening} (h : opening.line < start) :
    opening.movedDown start count = opening := if_neg (Nat.not_le_of_lt h)

theorem Opening.endingAt_movedDown (opening : Opening) (stop : Position) :
    (opening.endingAt stop).movedDown start count =
      (opening.movedDown start count).endingAt (stop.movedDown start count) := by
  by_cases h : start ≤ opening.line
  · have hmoved : ∀ c,
        Position.movedDown start count ⟨opening.line, c⟩ = ⟨opening.line + count, c⟩ :=
      fun _ => if_pos h
    rw [Opening.movedDown_of_le h]
    simp only [Block.movedDown, Range.movedDown, Opening.endingAt, Header.nameRange, Range.onLine,
      hmoved]
  · have hkept : ∀ c, Position.movedDown start count ⟨opening.line, c⟩ = ⟨opening.line, c⟩ :=
      fun _ => if_neg h
    rw [Opening.movedDown_of_lt (Nat.lt_of_not_le h)]
    simp only [Block.movedDown, Range.movedDown, Opening.endingAt, Header.nameRange, Range.onLine,
      hkept]

theorem Opening.endingAt_movedDown_of_lt {opening : Opening} {stop : Position}
    (hline : opening.line < start) (hstop : stop.line < start) :
    (opening.endingAt stop).movedDown start count = opening.endingAt stop := by
  rw [Opening.endingAt_movedDown, Opening.movedDown_of_lt hline, Position.movedDown_of_lt hstop]

theorem Opening.closedOn_movedDown (opening : Opening) {number : Nat} (h : start ≤ number) :
    (opening.closedOn number).movedDown start count =
      (opening.movedDown start count).closedOn (number + count) := by
  rw [Opening.closedOn, Opening.endingAt_movedDown, Position.movedDown_of_le h]
  rfl

theorem Opening.cutOffBy_movedDown (opening : Opening) {number : Nat} (h : start < number)
    (above : Nat) :
    (opening.cutOffBy number above).movedDown start count =
      (opening.movedDown start count).cutOffBy (number + count) above := by
  rw [Opening.cutOffBy, Opening.endingAt_movedDown,
    Position.movedDown_of_le (Nat.le_sub_one_of_lt h), ← Nat.sub_add_comm (Nat.one_le_of_lt h)]
  rfl

end

/-- A scan that starts `count` lines further down yields its blocks further down. The line above the
first one does not count as moved, so no header on the first one may cut off a block. -/
theorem scanFrom_movedDown {start : Nat} (count : Nat) (lines : List Text)
    (opened : Option Opening) (number above : Nat) (hstart : start ≤ number)
    (hcut : start < number ∨ opened = none ∨
      ∀ line ∈ lines.head?, Header.ofLine? line = none) :
    scanFrom (opened.map (Opening.movedDown start count)) (number + count) above lines =
      (scanFrom opened number above lines).map (Block.movedDown start count) := by
  induction lines generalizing opened number above with
  | nil => rfl
  | cons line rest ih =>
    have hbelow : start < number + 1 := Nat.lt_succ_of_le hstart
    have hrest := fun left => ih left (number + 1) line.length (Nat.le_of_lt hbelow) (.inl hbelow)
    rw [Nat.add_right_comm] at hrest
    rcases line_cases line with ⟨header, hline⟩ | hline | ⟨hheader, hclosing⟩
    · rw [scanFrom_header hline, scanFrom_header hline, List.map_append, ← hrest,
        Option.map_some, Opening.movedDown_of_le hstart]
      cases opened with
      | none => rfl
      | some opening =>
        rcases hcut with hlt | hnone | hhead
        · simp [Opening.cutOffBy_movedDown opening hlt]
        · contradiction
        · rw [hhead line rfl] at hline
          contradiction
    · rw [scanFrom_closing hline, scanFrom_closing hline, List.map_append, ← hrest]
      cases opened with
      | none => rfl
      | some opening => simp [Opening.closedOn_movedDown opening hstart]
    · rw [scanFrom_other hheader hclosing, scanFrom_other hheader hclosing, ← hrest]

theorem map_movedDown_scan (lines : List Text) (count : Nat) :
    (Block.scan lines).map (Block.movedDown lines.length count) = Block.scan lines := by
  have hkept : ∀ block ∈ Block.scan lines, block.movedDown lines.length count = id block := by
    intro block hblock
    obtain ⟨opening, stop, rfl, -, hstart, hstop⟩ :=
      exists_endingAt_of_mem_scanFrom (by simp) hblock
    rw [Nat.zero_add] at hstop
    exact Opening.endingAt_movedDown_of_lt (Nat.lt_of_le_of_lt hstart hstop) hstop
  rw [List.map_congr_left hkept, List.map_id]

-- ---------------------------------------------------------------------------
-- Insertion
-- ---------------------------------------------------------------------------

theorem exists_opening_of_covers {opened : Option Opening} {number above : Nat}
    {lines : List Text} {block : Block} (hopen : ∀ opening ∈ opened, opening.line < number)
    (h : block ∈ scanFrom opened number above lines) (hstart : block.range.start.line < number)
    (hstop : number ≤ block.range.stop.line) :
    ∃ opening line rest, opened = some opening ∧ lines = line :: rest ∧
      Header.ofLine? line = none := by
  obtain ⟨opening, stop, rfl, hfrom, -⟩ := exists_endingAt_of_mem_scanFrom hopen h
  have hopened : opened = some opening := hfrom.resolve_right (Nat.not_le_of_lt hstart)
  subst hopened
  cases lines with
  | nil => cases h
  | cons line rest =>
    refine ⟨opening, line, rest, rfl, rfl, ?_⟩
    cases hline : Header.ofLine? line with
    | none => rfl
    | some header =>
      rw [scanFrom_header hline] at h
      rcases List.mem_append.1 h with hcut | hbelow
      · -- The header would have cut the block off above it.
        have hcut : opening.endingAt stop = opening.cutOffBy number above := by simpa using hcut
        rw [hcut] at hstop
        have hlt : opening.line < number := hopen opening rfl
        exact absurd hstop (Nat.not_le_of_lt (Nat.sub_lt (Nat.zero_lt_of_lt hlt) Nat.one_pos))
      · -- A block of the lines below would start on the header or below it.
        obtain ⟨later, _, heq, hlater, -⟩ := exists_endingAt_of_mem_scanFrom (by simp) hbelow
        rw [heq] at hstart
        rcases hlater with ⟨⟨⟩⟩ | hlow
        · exact absurd hstart (Nat.lt_irrefl number)
        · exact absurd hstart (Nat.not_lt_of_le (Nat.le_of_succ_le hlow))

theorem scanFrom_insert (opening : Opening) {number above : Nat} {line next : Text}
    {rest : List Text} (hheader : Header.ofLine? line = none) (hclosing : closesBlock line = false)
    (hopening : opening.line < number) (hnext : Header.ofLine? next = none) :
    scanFrom (some opening) number above (line :: next :: rest) =
      (scanFrom (some opening) number above (next :: rest)).map (Block.movedDown number 1) := by
  have hnext : ∀ l ∈ (next :: rest).head?, Header.ofLine? l = none := by simpa using hnext
  have hmoved := scanFrom_movedDown 1 (next :: rest) (some opening) number line.length
    (Nat.le_refl number) (.inr (.inr hnext))
  rw [Option.map_some, Opening.movedDown_of_lt hopening] at hmoved
  rw [scanFrom_other hheader hclosing, hmoved, scanFrom_above (.inr hnext)]

/-- Inside a block, a trimmed line that neither closes blocks nor spells a header makes no
difference but for the numbers of the lines below it. -/
theorem scan_insert_body_line {above below : List Text} {line : Text}
    (hinside : ∃ block ∈ Block.scan (above ++ below),
      block.range.start.line < above.length ∧ above.length ≤ block.range.stop.line)
    (htrim : Text.trim line = line) (hclosing : closesBlock line = false)
    (hheader : ¬ ∃ spelling : HeaderSpelling, spelling.line = line) :
    Block.scan (above ++ line :: below) =
      (Block.scan (above ++ below)).map (Block.movedDown above.length 1) := by
  have hnone := Header.ofLine?_eq_none_of_not_spelled (Text.trimStart_eq_self htrim) hheader
  have hopen : ∀ opening ∈ openAfter none 0 0 above, opening.line < 0 + above.length :=
    line_lt_of_mem_openAfter (by simp)
  have hparts : ∀ lines, Block.scan (above ++ lines) = Block.scan above ++
      scanFrom (openAfter none 0 0 above) above.length (aboveAfter 0 above) lines := by
    intro lines
    rw [Block.scan, scanFrom_append, Nat.zero_add]
    rfl
  rw [Nat.zero_add] at hopen
  obtain ⟨block, hblock, hstart, hstop⟩ := hinside
  rw [hparts] at hblock ⊢
  rcases List.mem_append.1 hblock with habove | hbelow
  · obtain ⟨opening, stop, rfl, -, -, hlt⟩ := exists_endingAt_of_mem_scanFrom (by simp) habove
    rw [Nat.zero_add] at hlt
    exact absurd hstop (Nat.not_le_of_lt hlt)
  · obtain ⟨opening, next, rest, hleft, rfl, hnext⟩ :=
      exists_opening_of_covers hopen hbelow hstart hstop
    rw [hparts, List.map_append, map_movedDown_scan, hleft,
      scanFrom_insert opening hnone hclosing (hopen opening hleft) hnext]

/-- A keyword with a brace but no name between them stays a line of the block. -/
theorem scan_insert_nameless_header :
    (∃ block ∈ Block.scan (["model A ".toList ++ ['{']] ++ [['}']]),
      block.range.start.line < 1 ∧ 1 ≤ block.range.stop.line) ∧
    Block.scan (["model A ".toList ++ ['{']] ++ ("model ".toList ++ ['{']) :: [['}']]) =
      (Block.scan (["model A ".toList ++ ['{']] ++ [['}']])).map (Block.movedDown 1 1) := by
  have hinside : ∃ block ∈ Block.scan (["model A ".toList ++ ['{']] ++ [['}']]),
      block.range.start.line < 1 ∧ 1 ≤ block.range.stop.line := by decide
  refine ⟨hinside, ?_⟩
  exact scan_insert_body_line hinside (by decide) (by decide)
    (Header.not_spelled_of_ofLine?_eq_none (by decide))

/-- A name may hold whitespace, so a field line whose first word is a keyword splits its block where
it holds a brace, although more than one word stands before the brace. -/
theorem field_line_splits_block :
    (∀ line ∈ ["model A ".toList ++ ['{'], "type Json @default(\"{}\")".toList, ['}']],
      Text.trim line = line) ∧
    (∃ block ∈ Block.scan (["model A ".toList ++ ['{']] ++ [['}']]),
      block.range.start.line < 1 ∧ 1 ≤ block.range.stop.line) ∧
    closesBlock "type Json @default(\"{}\")".toList = false ∧
    (¬ ∃ spelling : HeaderSpelling, spelling.line = "type Json @default(\"{}\")".toList ∧
      ∀ c ∈ spelling.name, Text.isSpace c = false) ∧
    Block.scan (["model A ".toList ++ ['{']] ++ "type Json @default(\"{}\")".toList :: [['}']]) ≠
      (Block.scan (["model A ".toList ++ ['{']] ++ [['}']])).map (Block.movedDown 1 1) := by
  refine ⟨by decide, by decide, by decide, ?_, by decide⟩
  rintro ⟨spelling, hline, htoken⟩
  have hread : Header.ofLine? "type Json @default(\"{}\")".toList =
      some ⟨.type, "Json @default(\"".toList, 5⟩ := by decide
  rw [← hline, Header.ofLine?_line] at hread
  have hname : spelling.name = "Json @default(\"".toList :=
    congrArg Header.name (Option.some.inj hread)
  rw [hname] at htoken
  exact absurd (htoken ' ' (by decide)) (by decide)

end SchemaAssist
