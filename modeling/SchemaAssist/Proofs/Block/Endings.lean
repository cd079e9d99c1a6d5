import SchemaAssist.Proofs.Block.ScanSteps
import SchemaAssist.Text.Lines

/-!
# Which blocks there are and where they end

`openings` lists the headers of a line array. `EndsAt` says where the block of a header ends,
looking only at the lines between it and the next header; `Ended` pairs headers with blocks by that
rule. The scan holds one opening at a time: `StillOpen` is what is known of it, and a scan that
starts there pairs it and all headers below with their blocks (`ended_scanFrom`).
-/

namespace SchemaAssist

def openingsFrom (number : Nat) : List Text → List Opening
  | [] => []
  | line :: rest =>
    ((Header.ofLine? line).map (Opening.mk number)).toList ++ openingsFrom (number + 1) rest

def openings (lines : List Text) : List Opening := openingsFrom 0 lines

def ClosesAt (lines : List Text) (number : Nat) : Prop :=
  closesBlock (Text.lineOf lines number) = true

/-- No line below a header closes its block, down to the line of that number. -/
def Unclosed (lines : List Text) (line number : Nat) : Prop :=
  ∀ i, line < i → i < number → ¬ ClosesAt lines i

/-- The end of the block whose header is on a line, where `next` is the line of the next header. The
first closing line between the two ends it; without one it goes up to the line above the next. -/
inductive EndsAt (lines : List Text) (line : Nat) (next : Option Nat) : Position → Prop
  | closed (number : Nat) (below : line < number) (inside : ∀ n ∈ next, number < n)
      (closes : ClosesAt lines number) (first : Unclosed lines line number) :
      EndsAt lines line next ⟨number, 1⟩
  | cutOff (number : Nat) (cut : next = some number) (unclosed : Unclosed lines line number) :
      EndsAt lines line next ⟨number - 1, (Text.lineOf lines (number - 1)).length⟩

/-- The blocks of some headers, one for each. Only the last may have none, if nothing closes it. -/
inductive Ended (lines : List Text) : List Opening → List Block → Prop
  | nil : Ended lines [] []
  | dangling {opening : Opening} (unclosed : ∀ i, opening.line < i → ¬ ClosesAt lines i) :
      Ended lines [opening] []
  | cons {opening : Opening} {rest : List Opening} {blocks : List Block} {stop : Position}
      (ends : EndsAt lines opening.line (rest.head?.map Opening.line) stop)
      (tail : Ended lines rest blocks) :
      Ended lines (opening :: rest) (opening.endingAt stop :: blocks)

theorem ClosesAt.lt_length {lines : List Text} {number : Nat} (h : ClosesAt lines number) :
    number < lines.length := by
  by_contra hge
  rw [ClosesAt, Text.lineOf_eq_nil (Nat.le_of_not_lt hge)] at h
  contradiction

-- ---------------------------------------------------------------------------
-- The headers
-- ---------------------------------------------------------------------------

theorem openingsFrom_header {line : Text} {header : Header}
    (h : Header.ofLine? line = some header) (number : Nat) (rest : List Text) :
    openingsFrom number (line :: rest) = ⟨number, header⟩ :: openingsFrom (number + 1) rest := by
  simp [openingsFrom, h]

theorem openingsFrom_none {line : Text} (h : Header.ofLine? line = none) (number : Nat)
    (rest : List Text) :
    openingsFrom number (line :: rest) = openingsFrom (number + 1) rest := by
  simp [openingsFrom, h]

theorem mem_openingsFrom {number : Nat} {lines : List Text} {opening : Opening} :
    opening ∈ openingsFrom number lines ↔
      number ≤ opening.line ∧
        Header.ofLine? (Text.lineOf lines (opening.line - number)) = some opening.header := by
  induction lines generalizing number with
  | nil => simp [openingsFrom, Text.lineOf, Header.ofLine?]
  | cons line rest ih =>
    obtain ⟨at_, header⟩ := opening
    simp only [openingsFrom, List.mem_append, Option.mem_toList, ih, Option.map_eq_some_iff]
    constructor
    · rintro (⟨_, hline, heq⟩ | ⟨hle, hline⟩)
      · cases heq
        exact ⟨Nat.le_refl _, by simpa [Text.lineOf] using hline⟩
      · obtain ⟨k, rfl⟩ := Nat.exists_eq_add_of_le hle
        refine ⟨by omega, ?_⟩
        rw [show number + 1 + k - number = (number + 1 + k - (number + 1)) + 1 by omega]
        exact hline
    · rintro ⟨hle, hline⟩
      obtain ⟨k, rfl⟩ := Nat.exists_eq_add_of_le hle
      rw [Nat.add_sub_cancel_left] at hline
      cases k with
      | zero => exact .inl ⟨header, hline, rfl⟩
      | succ k =>
        refine .inr ⟨by omega, ?_⟩
        rw [show number + (k + 1) - (number + 1) = k by omega]
        exact hline

theorem le_of_mem_openingsFrom {number : Nat} {lines : List Text} {opening : Opening}
    (h : opening ∈ openingsFrom number lines) : number ≤ opening.line := (mem_openingsFrom.1 h).1

theorem pairwise_openingsFrom (number : Nat) (lines : List Text) :
    (openingsFrom number lines).Pairwise (·.line < ·.line) := by
  induction lines generalizing number with
  | nil => exact .nil
  | cons line rest ih =>
    cases h : Header.ofLine? line with
    | none => rw [openingsFrom_none h]; exact ih _
    | some header =>
      rw [openingsFrom_header h]
      exact .cons (fun _ hmem => le_of_mem_openingsFrom hmem) (ih _)

-- ---------------------------------------------------------------------------
-- The invariant of the scan
-- ---------------------------------------------------------------------------

/-- An opening that is still open where the line of that number is to be read, below a line of
`above` characters. -/
structure StillOpen (lines : List Text) (number above : Nat) (opening : Opening) : Prop where
  isHeader : Header.ofLine? (Text.lineOf lines opening.line) = some opening.header
  line_lt : opening.line < number
  unclosed : Unclosed lines opening.line number
  above_eq : (Text.lineOf lines (number - 1)).length = above

section
variable {lines : List Text} {number above : Nat} {line : Text} {rest : List Text}

theorem lineOf_of_drop (h : lines.drop number = line :: rest) :
    Text.lineOf lines number = line := by
  have hhead : lines[number]? = some line := by rw [← List.head?_drop, h]; rfl
  rw [Text.lineOf, hhead]
  rfl

theorem drop_succ_of_drop (h : lines.drop number = line :: rest) :
    lines.drop (number + 1) = rest := by
  rw [← List.drop_drop, h]
  rfl

theorem stillOpen_header (h : lines.drop number = line :: rest) {header : Header}
    (hheader : Header.ofLine? line = some header) :
    StillOpen lines (number + 1) line.length ⟨number, header⟩ where
  isHeader := by rw [lineOf_of_drop h, hheader]
  line_lt := Nat.lt_succ_self number
  unclosed := by intro i hlow hhigh; simp only at hlow; omega
  above_eq := by rw [Nat.add_sub_cancel, lineOf_of_drop h]

theorem StillOpen.step {opening : Opening} (hopen : StillOpen lines number above opening)
    (h : lines.drop number = line :: rest) (hclosing : closesBlock line = false) :
    StillOpen lines (number + 1) line.length opening where
  isHeader := hopen.isHeader
  line_lt := Nat.lt_succ_of_lt hopen.line_lt
  unclosed := by
    intro i hlow hhigh
    rcases Nat.lt_or_eq_of_le (Nat.le_of_lt_succ hhigh) with hi | rfl
    · exact hopen.unclosed i hlow hi
    · simp [ClosesAt, lineOf_of_drop h, hclosing]
  above_eq := by rw [Nat.add_sub_cancel, lineOf_of_drop h]

/-- What is known of an opening carries over from line to line. -/
theorem stillOpen_scanLine {opened : Option Opening} (h : lines.drop number = line :: rest)
    (hopen : ∀ opening ∈ opened, StillOpen lines number above opening) :
    ∀ opening ∈ (scanLine opened number above line).2,
      StillOpen lines (number + 1) line.length opening := by
  rcases line_cases line with ⟨header, hline⟩ | hline | ⟨hheader, hclosing⟩
  · rw [scanLine_header hline]
    rintro _ ⟨⟩
    exact stillOpen_header h hline
  · rw [scanLine_closing hline]
    simp
  · rw [scanLine_other hheader hclosing]
    exact fun opening hmem => (hopen opening hmem).step h hclosing

end

theorem endsAt_closed {lines rest : List Text} {number above : Nat} {line : Text}
    {opening : Opening} (hopen : StillOpen lines number above opening)
    (h : lines.drop number = line :: rest) (hclosing : closesBlock line = true) :
    EndsAt lines opening.line ((openingsFrom (number + 1) rest).head?.map Opening.line)
      ⟨number, 1⟩ := by
  refine .closed number hopen.line_lt ?_ (by rw [ClosesAt, lineOf_of_drop h, hclosing])
    hopen.unclosed
  intro n hn
  obtain ⟨next, hnext, rfl⟩ := Option.map_eq_some_iff.1 hn
  exact le_of_mem_openingsFrom (List.mem_of_head? hnext)

theorem StillOpen.endsAt_cutOff {lines : List Text} {number above : Nat} {opening : Opening}
    (hopen : StillOpen lines number above opening) :
    EndsAt lines opening.line (some number) ⟨number - 1, above⟩ := by
  rw [← hopen.above_eq]
  exact .cutOff number rfl hopen.unclosed

/-- A scan pairs the opening that it starts with and the headers of its lines with their blocks. -/
theorem ended_scanFrom {lines : List Text} (rest : List Text) (opened : Option Opening)
    (number above : Nat) (hdrop : lines.drop number = rest)
    (hopen : ∀ opening ∈ opened, StillOpen lines number above opening) :
    Ended lines (opened.toList ++ openingsFrom number rest)
      (scanFrom opened number above rest) := by
  induction rest generalizing opened number above with
  | nil =>
    cases opened with
    | none => exact .nil
    | some opening =>
      refine .dangling fun i hi hcloses => (hopen opening rfl).unclosed i hi ?_ hcloses
      exact Nat.lt_of_lt_of_le hcloses.lt_length (List.drop_eq_nil_iff.1 hdrop)
  | cons line rest ih =>
    have htail := ih _ _ _ (drop_succ_of_drop hdrop) (stillOpen_scanLine hdrop hopen)
    rcases line_cases line with ⟨header, hline⟩ | hline | ⟨hheader, hclosing⟩
    · rw [scanLine_header hline] at htail
      rw [openingsFrom_header hline, scanFrom_header hline]
      cases opened with
      | none => exact htail
      | some opening => exact .cons (hopen opening rfl).endsAt_cutOff htail
    · rw [scanLine_closing hline] at htail
      rw [openingsFrom_none (Header.ofLine?_eq_none_of_closesBlock hline), scanFrom_closing hline]
      cases opened with
      | none => exact htail
      | some opening => exact .cons (endsAt_closed (hopen opening rfl) hdrop hline) htail
    · rw [scanLine_other hheader hclosing] at htail
      rw [openingsFrom_none hheader, scanFrom_other hheader hclosing]
      exact htail

theorem ended_scan (lines : List Text) : Ended lines (openings lines) (Block.scan lines) :=
  ended_scanFrom lines none 0 0 rfl (by simp)

-- ---------------------------------------------------------------------------
-- The block of each header
-- ---------------------------------------------------------------------------

theorem EndsAt.unique {lines : List Text} {line : Nat} {next : Option Nat} {stop stop' : Position}
    (h : EndsAt lines line next stop) (h' : EndsAt lines line next stop') : stop = stop' := by
  cases h with
  | closed number below inside closes first =>
    cases h' with
    | closed number' below' inside' closes' first' =>
      rcases Nat.lt_trichotomy number number' with hlt | rfl | hlt
      · exact absurd closes (first' number below hlt)
      · rfl
      · exact absurd closes' (first number' below' hlt)
    | cutOff number' cut unclosed => exact absurd closes (unclosed number below (inside _ cut))
  | cutOff number cut unclosed =>
    cases h' with
    | closed number' below' inside' closes' first' =>
      exact absurd closes' (unclosed number' below' (inside' _ cut))
    | cutOff number' cut' unclosed' =>
      rw [cut] at cut'
      cases cut'
      rfl

theorem EndsAt.not_dangling {lines : List Text} {line : Nat} {stop : Position}
    (h : EndsAt lines line none stop) : ¬ ∀ i, line < i → ¬ ClosesAt lines i := by
  intro hunclosed
  cases h with
  | closed number below inside closes first => exact hunclosed number below closes
  | cutOff number cut unclosed => contradiction

namespace Ended
variable {lines : List Text} {headers : List Opening} {blocks : List Block}

theorem length_le (h : Ended lines headers blocks) : blocks.length ≤ headers.length := by
  induction h with
  | nil => exact Nat.le_refl _
  | dangling unclosed => exact Nat.zero_le _
  | cons ends tail ih => exact Nat.succ_le_succ ih

/-- Each header has the block in its place, or is the last and has none. -/
theorem block_at (h : Ended lines headers blocks) {k : Nat} {opening : Opening}
    (hk : headers[k]? = some opening) :
    (∃ stop, EndsAt lines opening.line (headers[k + 1]?.map Opening.line) stop ∧
      blocks[k]? = some (opening.endingAt stop)) ∨
    (headers[k + 1]? = none ∧ (∀ i, opening.line < i → ¬ ClosesAt lines i) ∧
      blocks[k]? = none) := by
  induction h generalizing k with
  | nil => simp at hk
  | dangling unclosed =>
    cases k with
    | zero => cases hk; exact .inr ⟨rfl, unclosed, rfl⟩
    | succ k => simp at hk
  | @cons first rest blocks stop ends tail ih =>
    cases k with
    | zero =>
      cases hk
      refine .inl ⟨stop, ?_, rfl⟩
      rw [List.getElem?_cons_succ, ← List.head?_eq_getElem?]
      exact ends
    | succ k => exact ih hk

theorem getElem?_eq_some_iff (h : Ended lines headers blocks) {k : Nat} {opening : Opening}
    (hk : headers[k]? = some opening) {block : Block} :
    blocks[k]? = some block ↔
      ∃ stop, EndsAt lines opening.line (headers[k + 1]?.map Opening.line) stop ∧
        block = opening.endingAt stop := by
  rcases h.block_at hk with ⟨stop, hends, hblock⟩ | ⟨hlast, hunclosed, hblock⟩
  · constructor
    · intro heq
      rw [hblock] at heq
      exact ⟨stop, hends, (Option.some.inj heq).symm⟩
    · rintro ⟨stop', hends', rfl⟩
      rw [hblock, hends.unique hends']
  · constructor
    · intro heq
      rw [hblock] at heq
      contradiction
    · rintro ⟨stop, hends, -⟩
      rw [hlast] at hends
      exact absurd hunclosed hends.not_dangling

theorem getElem?_eq_none_iff (h : Ended lines headers blocks) {k : Nat} {opening : Opening}
    (hk : headers[k]? = some opening) :
    blocks[k]? = none ↔
      headers[k + 1]? = none ∧ ∀ i, opening.line < i → ¬ ClosesAt lines i := by
  rcases h.block_at hk with ⟨stop, hends, hblock⟩ | ⟨hlast, hunclosed, hblock⟩
  · constructor
    · intro hnone
      rw [hblock] at hnone
      contradiction
    · rintro ⟨hlast, hunclosed⟩
      rw [hlast] at hends
      exact absurd hunclosed hends.not_dangling
  · exact ⟨fun _ => ⟨hlast, hunclosed⟩, fun _ => hblock⟩

end Ended

-- ---------------------------------------------------------------------------
-- Closing lines that close nothing
-- ---------------------------------------------------------------------------

/-- A closing line below which no header is open: between it and every header above it another line
has closed. -/
structure Stray (lines : List Text) (number : Nat) : Prop where
  closes : ClosesAt lines number
  closed_above : ∀ opening ∈ openings lines, opening.line < number →
    ∃ i, opening.line < i ∧ i < number ∧ ClosesAt lines i

theorem stillOpen_openAfter {lines rest : List Text} (front : List Text)
    (opened : Option Opening) (number above : Nat) (hdrop : lines.drop number = front ++ rest)
    (hopen : ∀ opening ∈ opened, StillOpen lines number above opening) :
    ∀ opening ∈ openAfter opened number above front,
      StillOpen lines (number + front.length) (aboveAfter above front) opening := by
  induction front generalizing opened number above with
  | nil => exact hopen
  | cons line front ih =>
    rw [List.length_cons, Nat.add_comm front.length, ← Nat.add_assoc]
    exact ih _ _ _ (drop_succ_of_drop hdrop) (stillOpen_scanLine hdrop hopen)

theorem Stray.openAfter_eq_none {lines : List Text} {number : Nat} (h : Stray lines number) :
    openAfter none 0 0 (lines.take number) = none := by
  cases hopen : openAfter none 0 0 (lines.take number) with
  | none => rfl
  | some opening =>
    have hstill := stillOpen_openAfter (lines.take number) none 0 0
      (List.take_append_drop number lines).symm (by simp) opening hopen
    have hlength : 0 + (lines.take number).length = number := by
      rw [Nat.zero_add, List.length_take_of_le (Nat.le_of_lt h.closes.lt_length)]
    rw [hlength] at hstill
    have hmem : opening ∈ openings lines := mem_openingsFrom.2 ⟨Nat.zero_le _, hstill.isHeader⟩
    obtain ⟨i, hlow, hhigh, hcloses⟩ := h.closed_above opening hmem hstill.line_lt
    exact absurd hcloses (hstill.unclosed i hlow hhigh)

theorem Stray.scan_set {lines : List Text} {number : Nat} (h : Stray lines number) {line : Text}
    (hline : Header.ofLine? line = none) :
    Block.scan (lines.set number line) = Block.scan lines := by
  have hlength := h.closes.lt_length
  have hskip : ∀ x, Header.ofLine? x = none →
      Block.scan (lines.take number ++ x :: lines.drop (number + 1)) =
        Block.scan (lines.take number) ++
          scanFrom none (0 + (lines.take number).length + 1) 0 (lines.drop (number + 1)) := by
    intro x hx
    rw [Block.scan, scanFrom_append, h.openAfter_eq_none, scanFrom_none_cons hx]
    rfl
  have hstray : lines.take number ++ lines[number] :: lines.drop (number + 1) = lines := by
    rw [List.getElem_cons_drop, List.take_append_drop]
  have hcloses : closesBlock lines[number] = true := by
    simpa [ClosesAt, Text.lineOf, hlength] using h.closes
  calc Block.scan (lines.set number line)
    _ = Block.scan (lines.take number ++ line :: lines.drop (number + 1)) := by
      rw [List.set_eq_take_append_cons_drop, if_pos hlength]
    _ = Block.scan (lines.take number ++ lines[number] :: lines.drop (number + 1)) := by
      rw [hskip line hline, hskip _ (Header.ofLine?_eq_none_of_closesBlock hcloses)]
    _ = Block.scan lines := by rw [hstray]

-- ---------------------------------------------------------------------------
-- The blocks of a line array
-- ---------------------------------------------------------------------------

/-- The headers of a line array are listed by line, each once. The k-th block is that of the k-th
header, which has none only if it is the last and no line below it closes; so none is lost and none
counts twice. Closing lines that close nothing make no difference. -/
theorem scan_blocks_of_openings (lines : List Text) :
    (openings lines).Pairwise (·.line < ·.line) ∧
    (∀ opening, opening ∈ openings lines ↔
      Header.ofLine? (Text.lineOf lines opening.line) = some opening.header) ∧
    (Block.scan lines).length ≤ (openings lines).length ∧
    (∀ k opening, (openings lines)[k]? = some opening →
      (∀ block, (Block.scan lines)[k]? = some block ↔
        ∃ stop, EndsAt lines opening.line ((openings lines)[k + 1]?.map Opening.line) stop ∧
          block = opening.endingAt stop) ∧
      ((Block.scan lines)[k]? = none ↔
        (openings lines)[k + 1]? = none ∧ ∀ i, opening.line < i → ¬ ClosesAt lines i)) ∧
    (∀ number line, Stray lines number → Header.ofLine? line = none →
      Block.scan (lines.set number line) = Block.scan lines) := by
  have hended := ended_scan lines
  refine ⟨pairwise_openingsFrom 0 lines, ?_, hended.length_le, ?_, ?_⟩
  · intro opening
    simp [openings, mem_openingsFrom]
  · intro k opening hk
    exact ⟨fun _ => hended.getElem?_eq_some_iff hk, hended.getElem?_eq_none_iff hk⟩
  · intro number line hstray hline
    exact hstray.scan_set hline

/-- A closed block, a closing line that closes nothing, and a header that is never closed. -/
theorem scan_blocks_of_stray_and_dangling :
    let lines := ["model A ".toList ++ ['{'], ['}'], ['}'], "type B ".toList ++ ['{']]
    (Block.scan lines)[0]? = some (Opening.closedOn ⟨0, ⟨.model, "A".toList, 6⟩⟩ 1) ∧
    (Block.scan lines)[1]? = none ∧ Stray lines 2 ∧
    Block.scan (lines.set 2 []) = Block.scan lines := by
  intro lines
  obtain ⟨-, -, -, hblocks, hset⟩ := scan_blocks_of_openings lines
  have hends : EndsAt lines 0 (some 3) ⟨1, 1⟩ :=
    .closed 1 (by decide) (by decide) rfl (fun i hlow hhigh => by omega)
  have hstray : Stray lines 2 := by
    refine ⟨rfl, ?_⟩
    have hopenings : openings lines =
        [⟨0, ⟨.model, "A".toList, 6⟩⟩, ⟨3, ⟨.type, "B".toList, 5⟩⟩] := by decide
    rw [hopenings]
    intro opening hopening hlt
    rcases List.mem_cons.1 hopening with rfl | hlater
    · exact ⟨1, by decide, by decide, rfl⟩
    · obtain rfl := List.mem_singleton.1 hlater
      exact absurd hlt (by decide)
  refine ⟨?_, ?_, hstray, hset 2 [] hstray (by decide)⟩
  · exact ((hblocks 0 ⟨0, ⟨.model, "A".toList, 6⟩⟩ (by decide)).1 _).2 ⟨_, hends, rfl⟩
  · refine ((hblocks 1 ⟨3, ⟨.type, "B".toList, 5⟩⟩ (by decide)).2).2 ⟨by decide, ?_⟩
    intro i hlow hcloses
    have hlt : i < 4 := hcloses.lt_length
    simp only at hlow
    omega

end SchemaAssist
