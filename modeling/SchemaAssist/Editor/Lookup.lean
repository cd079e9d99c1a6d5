import SchemaAssist.Block.Scan
import SchemaAssist.Cursor.Line
import SchemaAssist.Editor.DocumentRange
import SchemaAssist.Field.Index
import SchemaAssist.Text.Lines

/-!
# What the word at a cursor stands for

The word at a cursor stands for the block of that name. Its definition is the name on the block's
header line. Its hover text sums the block up in Markdown: its kind and name, then the values of an
enum on one line, or a table of the field names of any other block with their types.
-/

namespace SchemaAssist

def blockForWord? (text : Text) (position : Position) : Option Block :=
  match wordAt text position with
  | [] => none
  | word => Block.named? word (Text.trimmedLines text)

def definitionRange? (text : Text) (position : Position) : Option Range :=
  (blockForWord? text position).map fun block => block.nameRange.inDocument (Text.lines text)

namespace Hover

def quoted (name : Text) : Text := "`".toList ++ name ++ "`".toList

def heading (block : Block) : Text :=
  "**".toList ++ block.kind.keyword ++ "** ".toList ++ quoted block.name

def tableHeader : List Text := ["| Field | Type |".toList, "|-------|------|".toList]

def row (name type : Text) : Text :=
  "| ".toList ++ name ++ " | ".toList ++ quoted type ++ " |".toList

def enumLines (values : List Text) : List Text :=
  if values.isEmpty then [] else [[], List.intercalate ", ".toList (values.map quoted)]

/-- The table of a block's field types, below an empty line; comments have no row. -/
def tableLines (types : List (Text × Text)) : List Text :=
  if types.isEmpty then []
  else [] :: tableHeader ++
    (types.filter fun (name, _) => !isComment name).map fun (name, type) => row name type

def summary (lines : List Text) (block : Block) : List Text :=
  heading block ::
    match block.kind with
    | .enum => enumLines (fieldNames lines block none)
    | _ => tableLines (FieldIndex.ofBlock lines block none).types

def format (lines : List Text) (block : Block) : Text := Text.joinLines (summary lines block)

end Hover
end SchemaAssist
