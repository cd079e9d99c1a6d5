import SchemaAssist.Block.Scan
import SchemaAssist.Proofs.Block.HeaderSpelling

/-!
# The scan, line by line and part by part

A line is a header, or closes a block, or is neither, and never two of these; one equation each says
what it does to an opening. From them: a scan of two parts is the scan of the first followed by the
scan of the second from the opening that the first leaves behind (`scanFrom_append`).
-/

namespace SchemaAssist

-- ---------------------------------------------------------------------------
-- One line
-- ---------------------------------------------------------------------------

theorem closesBlock_iff {line : Text} : closesBlock line = true ↔ ∃ rest, line = '}' :: rest := by
  cases line with
  | nil => simp [closesBlock]
  | cons c rest => simp [closesBlock]

theorem Header.ofLine?_eq_none_of_closesBlock {line : Text} (h : closesBlock line = true) :
    Header.ofLine? line = none := by
  obtain ⟨rest, rfl⟩ := closesBlock_iff.1 h
  cases hheader : Header.ofLine? ('}' :: rest) with
  | none => rfl
  | some header =>
    obtain ⟨-, hfirst, -⟩ := Header.ofLine?_eq_some_iff.1 hheader
    have hspace : Text.isSpace '}' = false := by decide
    have hkeyword : header.kind.keyword.head? ≠ some '}' := by cases header.kind <;> decide
    rw [← hfirst, Header.firstToken, Text.trimStart_cons hspace,
      List.takeWhile_cons_of_pos (by simp [hspace])] at hkeyword
    exact absurd rfl hkeyword

theorem scanLine_header {line : Text} {header : Header} (h : Header.ofLine? line = some header)
    (opened : Option Opening) (number above : Nat) :
    scanLine opened number above line =
      (opened.map (·.cutOffBy number above), some ⟨number, header⟩) := by
  cases opened <;> simp [scanLine, h]

theorem scanLine_closing {line : Text} (h : closesBlock line = true) (opened : Option Opening)
    (number above : Nat) :
    scanLine opened number above line = (opened.map (·.closedOn number), none) := by
  cases opened <;> simp [scanLine, Header.ofLine?_eq_none_of_closesBlock h, h]

theorem scanLine_other {line : Text} (hheader : Header.ofLine? line = none)
    (hclosing : closesBlock line = false) (opened : Option Opening) (number above : Nat) :
    scanLine opened number above line = (none, opened) := by
  cases opened <;> simp [scanLine, hheader, hclosing]

theorem scanLine_none {line : Text} (h : Header.ofLine? line = none) (number above : Nat) :
    scanLine none number above line = (none, none) := by simp [scanLine, h]

theorem line_cases (line : Text) :
    (∃ header, Header.ofLine? line = some header) ∨ closesBlock line = true ∨
      (Header.ofLine? line = none ∧ closesBlock line = false) := by
  cases hheader : Header.ofLine? line with
  | some header => exact .inl ⟨header, rfl⟩
  | none =>
    cases hclosing : closesBlock line with
    | true => exact .inr (.inl rfl)
    | false => exact .inr (.inr ⟨rfl, rfl⟩)

-- ---------------------------------------------------------------------------
-- Several lines
-- ---------------------------------------------------------------------------

theorem scanFrom_header {line : Text} {header : Header} (h : Header.ofLine? line = some header)
    (opened : Option Opening) (number above : Nat) (rest : List Text) :
    scanFrom opened number above (line :: rest) =
      (opened.map (·.cutOffBy number above)).toList ++
        scanFrom (some ⟨number, header⟩) (number + 1) line.length rest := by
  rw [scanFrom, scanLine_header h]

theorem scanFrom_closing {line : Text} (h : closesBlock line = true) (opened : Option Opening)
    (number above : Nat) (rest : List Text) :
    scanFrom opened number above (line :: rest) =
      (opened.map (·.closedOn number)).toList ++ scanFrom none (number + 1) line.length rest := by
  rw [scanFrom, scanLine_closing h]

theorem scanFrom_other {line : Text} (hheader : Header.ofLine? line = none)
    (hclosing : closesBlock line = false) (opened : Option Opening) (number above : Nat)
    (rest : List Text) :
    scanFrom opened number above (line :: rest) =
      scanFrom opened (number + 1) line.length rest := by
  rw [scanFrom, scanLine_other hheader hclosing]
  rfl

/-- The line above matters only to a header, and only if a block is open. -/
theorem scanFrom_above {opened : Option Opening} {lines : List Text}
    (h : opened = none ∨ ∀ line ∈ lines.head?, Header.ofLine? line = none)
    (number above above' : Nat) :
    scanFrom opened number above lines = scanFrom opened number above' lines := by
  cases lines with
  | nil => rfl
  | cons line rest =>
    rcases line_cases line with ⟨header, hline⟩ | hline | ⟨hheader, hclosing⟩
    · rcases h with rfl | hhead
      · rw [scanFrom_header hline, scanFrom_header hline]
        rfl
      · rw [hhead line rfl] at hline
        contradiction
    · rw [scanFrom_closing hline, scanFrom_closing hline]
    · rw [scanFrom_other hheader hclosing, scanFrom_other hheader hclosing]

theorem scanFrom_none_cons {line : Text} (h : Header.ofLine? line = none) (number above : Nat)
    (rest : List Text) :
    scanFrom none number above (line :: rest) = scanFrom none (number + 1) 0 rest := by
  rw [scanFrom, scanLine_none h, scanFrom_above (.inl rfl) _ line.length 0]
  rfl

def openAfter (opened : Option Opening) (number above : Nat) : List Text → Option Opening
  | [] => opened
  | line :: rest =>
    openAfter (scanLine opened number above line).2 (number + 1) line.length rest

def aboveAfter (above : Nat) : List Text → Nat
  | [] => above
  | line :: rest => aboveAfter line.length rest

theorem scanFrom_append (opened : Option Opening) (number above : Nat) (lines rest : List Text) :
    scanFrom opened number above (lines ++ rest) =
      scanFrom opened number above lines ++
        scanFrom (openAfter opened number above lines) (number + lines.length)
          (aboveAfter above lines) rest := by
  induction lines generalizing opened number above with
  | nil => rfl
  | cons line lines ih =>
    rw [List.cons_append, scanFrom, ih, scanFrom, List.append_assoc, List.length_cons,
      Nat.add_right_comm]
    rfl

-- ---------------------------------------------------------------------------
-- Where blocks start and end
-- ---------------------------------------------------------------------------

theorem exists_endingAt_of_scanLine {opened : Option Opening} {number above : Nat} {line : Text}
    {block : Block} (hopen : ∀ opening ∈ opened, opening.line < number)
    (h : (scanLine opened number above line).1 = some block) :
    ∃ opening ∈ opened, ∃ stop, block = opening.endingAt stop ∧
      opening.line ≤ stop.line ∧ stop.line ≤ number := by
  rcases line_cases line with ⟨header, hline⟩ | hline | ⟨hheader, hclosing⟩
  · rw [scanLine_header hline] at h
    obtain ⟨opening, ho, rfl⟩ := Option.map_eq_some_iff.1 h
    exact ⟨opening, ho, _, rfl, Nat.le_sub_one_of_lt (hopen opening ho), Nat.sub_le number 1⟩
  · rw [scanLine_closing hline] at h
    obtain ⟨opening, ho, rfl⟩ := Option.map_eq_some_iff.1 h
    exact ⟨opening, ho, _, rfl, Nat.le_of_lt (hopen opening ho), Nat.le_refl number⟩
  · rw [scanLine_other hheader hclosing] at h
    contradiction

theorem mem_scanLine {opened : Option Opening} {number above : Nat} {line : Text}
    {opening : Opening} (h : opening ∈ (scanLine opened number above line).2) :
    opening ∈ opened ∨ opening.line = number := by
  rcases line_cases line with ⟨header, hline⟩ | hline | ⟨hheader, hclosing⟩
  · rw [scanLine_header hline] at h
    cases h
    exact .inr rfl
  · rw [scanLine_closing hline] at h
    contradiction
  · rw [scanLine_other hheader hclosing] at h
    exact .inl h

theorem line_lt_of_mem_scanLine {opened : Option Opening} {number above : Nat} {line : Text}
    (hopen : ∀ opening ∈ opened, opening.line < number) :
    ∀ opening ∈ (scanLine opened number above line).2, opening.line < number + 1 := by
  intro opening h
  rcases mem_scanLine h with hold | rfl
  · exact Nat.lt_succ_of_lt (hopen opening hold)
  · exact Nat.lt_succ_self _

theorem line_lt_of_mem_openAfter {opened : Option Opening} {number above : Nat}
    {lines : List Text} (hopen : ∀ opening ∈ opened, opening.line < number) :
    ∀ opening ∈ openAfter opened number above lines, opening.line < number + lines.length := by
  induction lines generalizing opened number above with
  | nil => exact hopen
  | cons line rest ih =>
    intro opening h
    have hlt := ih (line_lt_of_mem_scanLine hopen) opening h
    rw [List.length_cons]
    omega

theorem exists_endingAt_of_mem_scanFrom {opened : Option Opening} {number above : Nat}
    {lines : List Text} {block : Block} (hopen : ∀ opening ∈ opened, opening.line < number)
    (h : block ∈ scanFrom opened number above lines) :
    ∃ opening stop, block = opening.endingAt stop ∧ (opening ∈ opened ∨ number ≤ opening.line) ∧
      opening.line ≤ stop.line ∧ stop.line < number + lines.length := by
  induction lines generalizing opened number above with
  | nil => cases h
  | cons line rest ih =>
    rw [List.length_cons]
    rcases List.mem_append.1 h with hended | hbelow
    · obtain ⟨opening, ho, stop, rfl, hstart, hstop⟩ :=
        exists_endingAt_of_scanLine hopen (Option.mem_toList.1 hended)
      exact ⟨opening, stop, rfl, .inl ho, hstart, by omega⟩
    · obtain ⟨opening, stop, rfl, hfrom, hstart, hstop⟩ :=
        ih (line_lt_of_mem_scanLine hopen) hbelow
      refine ⟨opening, stop, rfl, ?_, hstart, by omega⟩
      rcases hfrom with hleft | hlow
      · exact (mem_scanLine hleft).imp_right fun hline => Nat.le_of_eq hline.symm
      · exact .inr (Nat.le_of_succ_le hlow)

end SchemaAssist
