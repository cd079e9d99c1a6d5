import SchemaAssist.Block.Scan
import SchemaAssist.Editor.DocumentRange
import SchemaAssist.Editor.Run
import SchemaAssist.Field.Index
import SchemaAssist.Position.Checked

/-!
# The document outline

One symbol for each block, with one child for each line in it that declares a name and a type and is
not a comment. Children are gathered type by type and put in the order of their lines. Columns count
characters of the untrimmed lines.
-/

namespace SchemaAssist

inductive SymbolKind where
  | module
  | classLike
  | struct
  | enum
  | interface
  | field
deriving DecidableEq

namespace SymbolKind

def label : SymbolKind → Text
  | .module => "Module".toList
  | .classLike => "Class".toList
  | .struct => "Struct".toList
  | .enum => "Enum".toList
  | .interface => "Interface".toList
  | .field => "Field".toList

def ofKind : Kind → SymbolKind
  | .generator | .datasource => .module
  | .model => .classLike
  | .type => .struct
  | .enum => .enum
  | .view => .interface

end SymbolKind

structure FieldSymbol where
  name : Text
  detail : Option Text
  range : Range
  selection : Range
deriving DecidableEq

structure BlockSymbol where
  name : Text
  kind : SymbolKind
  detail : Text
  range : Range
  selection : Range
  children : List FieldSymbol
deriving DecidableEq

/-- An assigned property shows no type. -/
def FieldSymbol.detailOf (type : Text) : Option Text := if type = ['='] then none else some type

/-- The symbol of a line that uses a type; none for a comment. The name is read from the trimmed
line and looked for in the untrimmed one. -/
def FieldSymbol.ofLine? (raw lines : List Text) (type : Text) (number : Nat) :
    Except Failure (Option FieldSymbol) :=
  match (Text.words (Text.lineOf lines number)).head? with
  | none => .error (.wordMissing number)
  | some name =>
    if isComment name then .ok none
    else
      match Text.indexOf? name (Text.lineOf raw number) with
      | none => .error (.nameMissing number name)
      | some column => do
        let range ← Failure.ofProblems
          (Range.ofCorners ⟨number, 0, number, (Text.lineOf raw number).length⟩)
        let selection ← Failure.ofProblems
          (Range.ofCorners ⟨number, column, number, column + name.length⟩)
        return some ⟨name, detailOf type, range, selection⟩

def FieldSymbol.ofUse (raw lines : List Text) (use : TypeUse) :
    Except Failure (List (Option FieldSymbol)) :=
  use.lines.mapM (FieldSymbol.ofLine? raw lines use.type)

def FieldSymbol.ofBlock (raw lines : List Text) (block : Block) :
    Except Failure (List FieldSymbol) := do
  let found ← (FieldIndex.ofBlock lines block none).uses.mapM (FieldSymbol.ofUse raw lines)
  return (found.flatten.filterMap id).mergeSort
    fun first second => decide (first.range.start.line ≤ second.range.start.line)

def BlockSymbol.ofBlock (raw lines : List Text) (block : Block) : Except Failure BlockSymbol := do
  let children ← FieldSymbol.ofBlock raw lines block
  return ⟨block.name, SymbolKind.ofKind block.kind, block.kind.keyword,
    block.range.inDocument raw, block.nameRange.inDocument raw, children⟩

def outline (text : Text) : Except Failure (List BlockSymbol) :=
  let raw := Text.lines text
  let lines := raw.map Text.trim
  (Block.scan lines).mapM (BlockSymbol.ofBlock raw lines)

end SchemaAssist
