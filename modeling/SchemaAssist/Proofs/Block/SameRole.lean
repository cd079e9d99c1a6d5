import Mathlib.Data.List.Basic
import SchemaAssist.Proofs.Block.Appending
import SchemaAssist.Proofs.Block.HeaderSpelling
import SchemaAssist.Proofs.Block.Validity

/-!
# Lines of the same role

For a scan a line is a certain header, or closes a block, or is neither. A line in whose place one
of the same role is put changes no block but for the column at which a block above the next header
stops (`scan_set_sameRole`). Inside a block no line is a header, and a character that is put into it
behind a square bracket does not make it one.
-/

namespace SchemaAssist

/-- A scan takes both for the same header, or both for closing lines, or both for neither. -/
structure SameRole (line other : Text) : Prop where
  header_eq : Header.ofLine? line = Header.ofLine? other
  closes_eq : closesBlock line = closesBlock other

def Block.withoutStopColumn (block : Block) : Block :=
  { block with range := ⟨block.range.start, ⟨block.range.stop.line, 0⟩⟩ }

-- ---------------------------------------------------------------------------
-- A line in the place of another
-- ---------------------------------------------------------------------------

/-- How long the line above is tells where a block is cut off, and nothing else. -/
theorem map_withoutStopColumn_scanFrom (opened : Option Opening) (number above above' : Nat)
    (lines : List Text) :
    (scanFrom opened number above lines).map Block.withoutStopColumn =
      (scanFrom opened number above' lines).map Block.withoutStopColumn := by
  cases lines with
  | nil => rfl
  | cons line rest =>
    rcases line_cases line with ⟨header, hline⟩ | hline | ⟨hheader, hclosing⟩
    · rw [scanFrom_header hline, scanFrom_header hline]
      cases opened <;> rfl
    · rw [scanFrom_closing hline, scanFrom_closing hline]
    · rw [scanFrom_other hheader hclosing, scanFrom_other hheader hclosing]

theorem SameRole.scanLine_eq {line other : Text} (h : SameRole line other)
    (opened : Option Opening) (number above : Nat) :
    scanLine opened number above line = scanLine opened number above other := by
  simp only [scanLine, h.header_eq, h.closes_eq]

theorem scan_set_sameRole {lines : List Text} {number : Nat} {line : Text}
    (hnumber : number < lines.length) (h : SameRole line (Text.lineOf lines number)) :
    (Block.scan (lines.set number line)).map Block.withoutStopColumn =
      (Block.scan lines).map Block.withoutStopColumn := by
  have hparts : lines.take number ++ Text.lineOf lines number :: lines.drop (number + 1) = lines := by
    rw [← Text.drop_eq_lineOf_cons hnumber, List.take_append_drop]
  calc (Block.scan (lines.set number line)).map Block.withoutStopColumn
    _ = (Block.scan (lines.take number ++ line :: lines.drop (number + 1))).map
          Block.withoutStopColumn := by
        rw [List.set_eq_take_append_cons_drop, if_pos hnumber]
    _ = (Block.scan (lines.take number ++ Text.lineOf lines number ::
          lines.drop (number + 1))).map
          Block.withoutStopColumn := by
        rw [scan_append, scan_append, scanFrom, scanFrom, h.scanLine_eq]
        simp only [List.map_append]
        rw [map_withoutStopColumn_scanFrom _ _ line.length]
    _ = (Block.scan lines).map Block.withoutStopColumn := by rw [hparts]

-- ---------------------------------------------------------------------------
-- Lines inside a block
-- ---------------------------------------------------------------------------

theorem Header.ofLine?_eq_none_inside {lines : List Text} {block : Block} {number : Nat}
    (hblock : block ∈ Block.scan lines) (hstart : block.range.start.line < number)
    (hstop : number ≤ block.range.stop.line) : ofLine? (Text.lineOf lines number) = none := by
  have hlength : (lines.take number).length = number :=
    List.length_take_of_le (Nat.le_trans hstop (Nat.le_of_lt (stop_lt_length_of_mem_scan hblock)))
  have hopen : ∀ opening ∈ openAfter none 0 0 (lines.take number),
      opening.line < 0 + (lines.take number).length := line_lt_of_mem_openAfter (by simp)
  rw [Nat.zero_add, hlength] at hopen
  rw [← List.take_append_drop number lines, scan_append, hlength] at hblock
  rcases List.mem_append.1 hblock with habove | hbelow
  · have hlt := stop_lt_length_of_mem_scan habove
    rw [hlength] at hlt
    exact absurd hstop (Nat.not_le_of_lt hlt)
  · obtain ⟨opening, line, rest, -, hdrop, hnone⟩ :=
      exists_opening_of_covers hopen hbelow hstart hstop
    rwa [lineOf_of_drop hdrop]

-- ---------------------------------------------------------------------------
-- Headers behind whitespace
-- ---------------------------------------------------------------------------

structure Header.IsMiddle (middle : Text) : Prop where
  brace_not_mem : '{' ∉ middle
  isSpace_head : ∀ c ∈ middle.head?, Text.isSpace c = true
  not_blank : ¬ Text.Blank middle

theorem Header.IsMiddle.indent_ne_nil {middle : Text} (h : IsMiddle middle) :
    Text.indent middle ≠ [] := by
  cases middle with
  | nil => exact absurd (by simp [Text.Blank]) h.not_blank
  | cons c middle =>
    rw [Text.indent, List.takeWhile_cons_of_pos (h.isSpace_head c rfl)]
    exact List.cons_ne_nil _ _

theorem HeaderSpelling.isMiddle (spelling : HeaderSpelling) :
    Header.IsMiddle (spelling.gap ++ spelling.name ++ spelling.filler) where
  brace_not_mem := by
    simp only [List.mem_append, not_or]
    exact ⟨⟨Header.brace_not_mem_of_blank spelling.blank_gap, spelling.brace_not_mem_name⟩,
      Header.brace_not_mem_of_blank spelling.blank_filler⟩
  isSpace_head := by
    rw [List.append_assoc]
    exact spelling.blank_gap.isSpace_head? spelling.gap_ne_nil _
  not_blank := by
    intro hblank
    have hname : Text.Blank spelling.name := fun c hc => hblank c (by simp [hc])
    refine spelling.name_ne_nil ?_
    rw [← spelling.trim_name, Text.trim_eq_nil_iff.2 hname]

theorem Header.isSome_ofLine?_trim_iff {line : Text} :
    (ofLine? (Text.trim line)).isSome = true ↔ ∃ (kind : Kind) (middle rest : Text),
      IsMiddle middle ∧ Text.trimStart line = kind.keyword ++ (middle ++ '{' :: rest) := by
  constructor
  · intro h
    obtain ⟨header, hheader⟩ := Option.isSome_iff_exists.1 h
    obtain ⟨spelling, hline, -⟩ :=
      exists_spelling (Text.trimStart_eq_self (Text.trim_idem line)) hheader
    obtain ⟨tail, htail⟩ := Text.trimEnd_isPrefix (Text.trimStart line)
    refine ⟨spelling.kind, _, spelling.rest ++ tail, spelling.isMiddle, ?_⟩
    rw [← htail, show Text.trimEnd (Text.trimStart line) = Text.trim line from rfl, ← hline]
    simp [HeaderSpelling.line]
  · rintro ⟨kind, middle, rest, hmiddle, hline⟩
    obtain ⟨filler, hfiller, hparts⟩ := Text.exists_blank_append_trim middle
    let spelling : HeaderSpelling := {
      kind, filler
      gap := Text.indent middle
      name := Text.trim middle
      rest := Text.trimEnd rest
      gap_ne_nil := hmiddle.indent_ne_nil
      blank_gap := Text.blank_indent middle
      name_ne_nil := fun hnil => hmiddle.not_blank (Text.trim_eq_nil_iff.1 hnil)
      trim_name := Text.trim_idem middle
      brace_not_mem_name := fun hmem => hmiddle.brace_not_mem ((Text.trim_infix middle).mem hmem)
      blank_filler := hfiller }
    have hspelling : spelling.line = Text.trim line := by
      rw [Text.trim, hline, ← List.append_assoc, Text.trimEnd_append_cons isSpace_brace,
        List.append_assoc, hparts]
      rfl
    rw [← hspelling, ofLine?_line]
    rfl

-- ---------------------------------------------------------------------------
-- A character behind a bracket
-- ---------------------------------------------------------------------------

theorem Kind.bracket_not_mem_keyword (kind : Kind) : '[' ∉ kind.keyword := by cases kind <;> decide

section
variable {before behind : Text} {c : Char} (hopen : '[' ∈ before) (hc : c ≠ '{')
include hopen

theorem Text.not_blank_of_bracket : ¬ Blank before := by
  intro hblank
  exact absurd (hblank _ hopen) (by decide)

theorem Text.bracket_mem_trimStart : '[' ∈ trimStart before := by
  rw [← indent_append_trimStart before] at hopen
  refine (List.mem_append.1 hopen).resolve_left fun hmem => ?_
  exact absurd (blank_indent before _ hmem) (by decide)

include hc

theorem Header.IsMiddle.without {middle rest : Text} (h : IsMiddle middle)
    (hline : before ++ c :: behind = middle ++ '{' :: rest) :
    ∃ middle' rest', IsMiddle middle' ∧ before ++ behind = middle' ++ '{' :: rest' := by
  rcases List.append_eq_append_iff.1 hline with ⟨back, rfl, hbehind⟩ | ⟨back, rfl, hrest⟩
  · -- The character stands in front of the brace.
    cases back with
    | nil => exact absurd (List.cons.inj hbehind).1 hc
    | cons d back =>
      obtain ⟨rfl, rfl⟩ := List.cons.inj hbehind
      refine ⟨before ++ back, rest, ⟨?_, ?_, ?_⟩, by simp⟩
      · exact fun hmem =>
          h.brace_not_mem (((List.sublist_cons_self c back).append_left before).subset hmem)
      · obtain ⟨d, front, rfl⟩ := List.exists_cons_of_ne_nil (List.ne_nil_of_mem hopen)
        exact h.isSpace_head
      · exact Text.not_blank_of_bracket (List.mem_append_left _ hopen)
  · cases back with
    | nil => exact absurd (List.cons.inj hrest).1.symm hc
    | cons d back =>
      obtain ⟨rfl, rfl⟩ := List.cons.inj hrest
      exact ⟨middle, back ++ behind, h, by simp⟩

theorem Header.isSome_ofLine?_without
    (h : (ofLine? (Text.trim (before ++ c :: behind))).isSome = true) :
    (ofLine? (Text.trim (before ++ behind))).isSome = true := by
  have hblank := Text.not_blank_of_bracket hopen
  rw [isSome_ofLine?_trim_iff] at h ⊢
  obtain ⟨kind, middle, rest, hmiddle, hline⟩ := h
  rw [Text.trimStart_append_of_not_blank hblank] at hline ⊢
  have hmem := Text.bracket_mem_trimStart hopen
  -- The keyword holds no bracket, so all of it stands in front of the one that is there.
  rcases List.append_eq_append_iff.1 hline with ⟨back, hkeyword, -⟩ | ⟨front, hstart, hline⟩
  · have hkeyword_mem : '[' ∈ kind.keyword := hkeyword ▸ List.mem_append_left back hmem
    exact absurd hkeyword_mem kind.bracket_not_mem_keyword
  · rw [hstart] at hmem ⊢
    have hfront := (List.mem_append.1 hmem).resolve_left kind.bracket_not_mem_keyword
    obtain ⟨middle', rest', hmiddle', hline'⟩ := hmiddle.without hfront hc hline.symm
    exact ⟨kind, middle', rest', hmiddle', by rw [List.append_assoc, hline']⟩

theorem sameRole_trim_insert (h : Header.ofLine? (Text.trim (before ++ behind)) = none) :
    SameRole (Text.trim (before ++ c :: behind)) (Text.trim (before ++ behind)) where
  header_eq := by
    cases hheader : Header.ofLine? (Text.trim (before ++ c :: behind)) with
    | none => exact h.symm
    | some header =>
      have hsome := Header.isSome_ofLine?_without hopen hc (by rw [hheader]; rfl)
      rw [h] at hsome
      contradiction
  closes_eq := by
    have hblank := Text.not_blank_of_bracket hopen
    simp only [closesBlock, Text.head?_trim_append hblank]

end
end SchemaAssist
