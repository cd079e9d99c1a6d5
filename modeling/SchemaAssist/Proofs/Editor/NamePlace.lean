import SchemaAssist.Editor.DocumentRange
import SchemaAssist.Proofs.Block.Locating
import SchemaAssist.Proofs.Text.Selection

/-!
# Where names stand in the document

Blocks are scanned on trimmed lines, and the range of a name is moved to the document by the
indentation of its line. `NamePlace` is what the untrimmed header line then looks like around the
name. The columns that are sent count characters: a name with a character beyond the basic plane
before its last one is cut short by an editor that takes them for code units
(`name_selected_in_units_iff`).
-/

namespace SchemaAssist

theorem lineOf_map_trim (raw : List Text) (number : Nat) :
    Text.lineOf (raw.map Text.trim) number = Text.trim (Text.lineOf raw number) := by
  rw [Text.lineOf, Text.lineOf, List.getElem?_map]
  cases raw[number]? <;> rfl

theorem lineOf_trimmedLines (text : Text) (number : Nat) :
    Text.lineOf (Text.trimmedLines text) number = Text.trim (Text.lineAt text number) :=
  lineOf_map_trim (Text.lines text) number

theorem Range.inDocument_onLine (raw : List Text) (line first last : Nat) :
    (onLine line first last).inDocument raw =
      onLine line (first + (Text.indent (Text.lineOf raw line)).length)
        (last + (Text.indent (Text.lineOf raw line)).length) := rfl

/-- The untrimmed header line of a block around its name, and the range that is sent for the name.
Columns in front of the name are the same in characters and in code units. -/
structure NamePlace (text : Text) (block : Block) where
  before : Text
  after : Text
  line_eq : Text.lineAt text block.range.start.line = before ++ block.name ++ after
  range_eq : block.nameRange.inDocument (Text.lines text) =
    Range.onLine block.range.start.line before.length (before.length + block.name.length)
  narrow_before : Text.Narrow before
  space_before : ∀ c ∈ before.getLast?, Text.isSpace c = true
  end_after : ∀ c ∈ after.head?, Text.isSpace c = true ∨ c = '{'

theorem Kind.narrow_keyword (kind : Kind) : Text.Narrow kind.keyword := by
  cases kind <;> decide

namespace HeaderSpelling
variable (spelling : HeaderSpelling) (indent tail : Text)

def before : Text := indent ++ spelling.kind.keyword ++ spelling.gap

def after : Text := spelling.filler ++ '{' :: spelling.rest ++ tail

theorem indent_append_line :
    indent ++ spelling.line ++ tail = spelling.before indent ++ spelling.name ++
      spelling.after tail := by
  simp [before, after, line]

theorem length_before :
    (spelling.before indent).length = spelling.header.column + indent.length := by
  simp only [before, header, List.length_append]
  omega

theorem narrow_before (h : Text.Narrow indent) : Text.Narrow (spelling.before indent) :=
  (h.append spelling.kind.narrow_keyword).append spelling.blank_gap.narrow

theorem isSpace_getLast?_before : ∀ c ∈ (spelling.before indent).getLast?, Text.isSpace c = true := by
  intro c hc
  rw [before, List.getLast?_append_of_ne_nil _ spelling.gap_ne_nil] at hc
  exact spelling.blank_gap c (List.mem_of_getLast? hc)

theorem head?_after : ∀ c ∈ (spelling.after tail).head?, Text.isSpace c = true ∨ c = '{' := by
  intro c hc
  have hblank := spelling.blank_filler
  rw [after] at hc
  cases hfiller : spelling.filler with
  | nil =>
    rw [hfiller] at hc
    cases hc
    exact .inr rfl
  | cons d filler =>
    rw [hfiller] at hc hblank
    cases hc
    exact .inl (hblank c (List.mem_cons_self ..))

end HeaderSpelling

theorem exists_namePlace {text : Text} {block : Block}
    (h : block ∈ Block.scan (Text.trimmedLines text)) : Nonempty (NamePlace text block) := by
  obtain ⟨opening, stop, hheader, rfl, -⟩ := exists_header_of_mem_scan h
  rw [lineOf_trimmedLines] at hheader
  obtain ⟨spelling, hline, hspelled⟩ :=
    Header.exists_spelling (Text.trimStart_eq_self (Text.trim_idem _)) hheader
  obtain ⟨tail, -, hraw⟩ := Text.exists_blank_append_trim (Text.lineAt text opening.line)
  have hname : (opening.endingAt stop).name = spelling.name := congrArg Header.name hspelled.symm
  have hcolumn : opening.header.column = spelling.header.column := by rw [hspelled]
  refine ⟨{
    before := spelling.before (Text.indent (Text.lineAt text opening.line))
    after := spelling.after tail
    line_eq := ?_
    range_eq := ?_
    narrow_before := spelling.narrow_before _ (Text.blank_indent _).narrow
    space_before := spelling.isSpace_getLast?_before _
    end_after := spelling.head?_after tail }⟩
  · rw [hname, ← spelling.indent_append_line, hline]
    exact hraw
  · rw [hname, spelling.length_before, ← hcolumn, ← hname]
    refine (Range.inDocument_onLine _ _ _ _).trans ?_
    exact congrArg (Range.onLine _ _) (Nat.add_right_comm ..)

/-- Taken for code units, the range that is sent for a block's name selects the name exactly if none
of its characters but perhaps the last takes two. -/
theorem name_selected_in_units_iff {text : Text} {block : Block}
    (h : block ∈ Block.scan (Text.trimmedLines text)) :
    ((block.nameRange.inDocument (Text.lines text)).decoded (Text.lines text)).Selects
      (Text.lines text) block.name ↔ Text.Narrow block.name.dropLast := by
  obtain ⟨place⟩ := exists_namePlace h
  rw [place.range_eq]
  exact Range.decoded_selects_iff place.line_eq place.narrow_before

/-- A name whose only character of two units is its last, on an indented line. -/
theorem name_ending_in_two_units_selected :
    let text := "  view x𝒜 \x7b\n  \x7d".toList
    let block : Block := ⟨.view, ⟨⟨0, 0⟩, ⟨1, 1⟩⟩, ⟨⟨0, 5⟩, ⟨0, 7⟩⟩, "x𝒜".toList⟩
    block ∈ Block.scan (Text.trimmedLines text) ∧
      ((block.nameRange.inDocument (Text.lines text)).decoded (Text.lines text)).Selects
        (Text.lines text) block.name := by
  intro text block
  have hblock : block ∈ Block.scan (Text.trimmedLines text) := by decide
  exact ⟨hblock, (name_selected_in_units_iff hblock).2 (by decide)⟩

/-- The second character of this name lies outside the range that is sent for it. -/
theorem name_after_two_units_cut_short :
    let text := "model 𝒜b \x7b\n\x7d".toList
    let block : Block := ⟨.model, ⟨⟨0, 0⟩, ⟨1, 1⟩⟩, ⟨⟨0, 6⟩, ⟨0, 8⟩⟩, "𝒜b".toList⟩
    Block.scan (Text.trimmedLines text) = [block] ∧
      ¬ ((block.nameRange.inDocument (Text.lines text)).decoded (Text.lines text)).Selects
        (Text.lines text) block.name := by decide

end SchemaAssist
