import SchemaAssist.CommandLine.SchemaReport
import SchemaAssist.Proofs.Editor.OutlineTree

/-!
# The printed outline and the editor's

The outline that is printed for a file and the one that an editor is sent list the same blocks in
the same order, with the same kinds, names and lines (`rows_agree_with_symbols`). A field has a row
entry if its line names it and a symbol if its line goes on with a type:
`ofLine?_eq_filter_fieldName?` compares the two rules line by line.
-/

namespace SchemaAssist

def fieldsBetween (lines : List Text) (first last : Nat) : List (Nat × Text) :=
  (List.range' (first + 1) (last - (first + 1))).filterMap fun number =>
    (fieldName? (Text.lineOf lines number)).map (number, ·)

def hasSecondWord (lines : List Text) (number : Nat) : Bool :=
  2 ≤ (Text.words (Text.lineOf lines number)).length

/-- A row shows the symbol's kind and name, its first and last line counted from one, and the fields
named between the two; the symbol's children are those fields whose lines have a second word. -/
structure RowAgrees (lines : List Text) (row : List Text) (symbol : BlockSymbol) : Prop where
  kind_eq : ∃ kind : Kind, symbol.detail = kind.keyword ∧ symbol.kind = SymbolKind.ofKind kind
  row_eq : row = [symbol.detail, symbol.name,
    (toString (symbol.range.start.line + 1)).toList ++ ['-'] ++
      (toString (symbol.range.stop.line + 1)).toList,
    List.intercalate ", ".toList
      ((fieldsBetween lines symbol.range.start.line symbol.range.stop.line).map (·.2))]
  children_eq : symbol.children.map (fun child => (child.range.start.line, child.name)) =
    (fieldsBetween lines symbol.range.start.line symbol.range.stop.line).filter
      fun field => hasSecondWord lines field.1

theorem ofLine?_eq_filter_fieldName? (raw : List Text) {line : Text}
    (hline : Text.trimStart line = line) (number : Nat) :
    ((Declaration.ofLine? number line).bind (FieldSymbol.ofDeclaration? raw)).map
        (fun child => (child.range.start.line, child.name)) =
      ((fieldName? line).map (number, ·)).filter fun _ => 2 ≤ (Text.words line).length := by
  rw [Declaration.ofLine?, fieldName?]
  cases hattribute : isBlockAttribute line with
  | true => simp
  | false =>
    cases hwords : Text.words line with
    | nil => simp
    | cons name rest =>
      rw [isComment_eq_of_words hline hwords]
      cases rest with
      | nil => cases isComment name <;> simp
      | cons type rest =>
        cases hcomment : isComment name <;>
          simp [FieldSymbol.ofDeclaration?, FieldSymbol.ofDeclaration, hcomment, Range.onLine,
            Option.filter]

theorem bodyNumbers_of_mem_scan {lines : List Text} {block : Block}
    (h : block ∈ Block.scan lines) :
    bodyNumbers lines block = List.range' (block.range.start.line + 1)
      (block.range.stop.line - (block.range.start.line + 1)) := by
  rw [bodyNumbers, Nat.min_eq_left (Nat.le_of_lt (stop_lt_length_of_mem_scan h))]

theorem fieldNames_eq_map_fieldsBetween {lines : List Text} {block : Block}
    (h : block ∈ Block.scan lines) :
    fieldNames lines block none =
      (fieldsBetween lines block.range.start.line block.range.stop.line).map (·.2) := by
  rw [fieldNames, bodyLines_none, bodyNumbers_of_mem_scan h, fieldsBetween, List.filterMap_map,
    List.map_filterMap]
  refine List.filterMap_congr fun number _ => ?_
  simp [Option.map_map, Function.comp_def]

theorem children_lineByLine {text : Text} {block : Block}
    (h : block ∈ Block.scan (Text.trimmedLines text)) :
    (BlockSymbol.lineByLine (Text.lines text) block).children.map
        (fun child => (child.range.start.line, child.name)) =
      (fieldsBetween (Text.trimmedLines text) block.range.start.line block.range.stop.line).filter
        fun field => hasSecondWord (Text.trimmedLines text) field.1 := by
  have hdeclared : declarations (Text.trimmedLines text) block none =
      (List.range' (block.range.start.line + 1)
        (block.range.stop.line - (block.range.start.line + 1))).filterMap fun number =>
          Declaration.ofLine? number (Text.lineOf (Text.trimmedLines text) number) := by
    rw [declarations, bodyLines_none, bodyNumbers_of_mem_scan h, List.filterMap_map]
    rfl
  rw [BlockSymbol.lineByLine, show (Text.lines text).map Text.trim = Text.trimmedLines text from rfl,
    hdeclared, List.filterMap_filterMap, List.map_filterMap, fieldsBetween, List.filter_filterMap]
  refine List.filterMap_congr fun number _ => ?_
  have htrimmed : Text.trimStart (Text.lineOf (Text.trimmedLines text) number) =
      Text.lineOf (Text.trimmedLines text) number := by
    rw [lineOf_trimmedLines]
    exact Text.trimStart_eq_self (Text.trim_idem _)
  rw [ofLine?_eq_filter_fieldName? _ htrimmed]
  cases fieldName? (Text.lineOf (Text.trimmedLines text) number) <;> rfl

theorem rowAgrees_lineByLine {text : Text} {block : Block}
    (h : block ∈ Block.scan (Text.trimmedLines text)) :
    RowAgrees (Text.trimmedLines text) (SchemaReport.row (Text.trimmedLines text) block)
      (BlockSymbol.lineByLine (Text.lines text) block) where
  kind_eq := ⟨block.kind, rfl, rfl⟩
  row_eq := by
    rw [SchemaReport.row, fieldNames_eq_map_fieldsBetween h]
    rfl
  children_eq := children_lineByLine h

theorem decode?_toUTF8 (text : Text) :
    SchemaReport.decode? (String.ofList text).toUTF8 = some text := by
  have hdecoded : String.fromUTF8? (String.ofList text).toUTF8 = some (String.ofList text) := by
    simp only [String.fromUTF8?, String.toUTF8_eq_toByteArray, dif_pos (String.isValidUTF8 _)]
    rfl
  rw [SchemaReport.decode?, hdecoded, Option.map_some, String.toList_ofList]

theorem fileLines_eq (text : Text) : SchemaReport.fileLines text = Text.trimmedLines text := by
  rw [SchemaReport.fileLines, Text.trimmedLines, Text.lines_unifyBreaks, Text.trimmedLines]

theorem rows_agree_with_symbols (file text : Text) : ∃ table symbols,
    SchemaReport.run .outline file (some (String.ofList text).toUTF8) =
      .ok ⟨0, [.table table, .line (SchemaReport.countLine symbols.length)]⟩ ∧
    outline text = .ok symbols ∧
    List.Forall₂ (RowAgrees (Text.trimmedLines text)) table.rows symbols := by
  refine ⟨SchemaReport.table (FilePath.ofText file).toText (Text.trimmedLines text), _, ?_,
    outline_eq text, ?_⟩
  · rw [SchemaReport.run, decode?_toUTF8, List.length_map]
    simp only [SchemaReport.printed, fileLines_eq]
    rfl
  · rw [SchemaReport.table, List.forall₂_map_left_iff, List.forall₂_map_right_iff,
      List.forall₂_same]
    exact fun block hblock => rowAgrees_lineByLine hblock

end SchemaAssist
