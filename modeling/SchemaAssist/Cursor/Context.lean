import SchemaAssist.Block.Scan
import SchemaAssist.Cursor.Line
import SchemaAssist.Field.Path

/-!
# The context of a cursor

What is being typed at a position decides what can be offered there. The questions are ordered: a
cursor outside every block is on the top level, then strings and nested calls offer nothing, then
lists, then the kind of the block, then the place in a field line.
-/

namespace SchemaAssist

inductive Context where
  | topLevel
  | string
  | fieldArgument
  | relationFields
  | relationReferences
  | compositePath
  | blockAttribute
  | blockProperty
  | fieldName
  | fieldType
  | fieldAttribute
  | enumValue
deriving DecidableEq

namespace Context

def label : Context → Text
  | .topLevel => "top_level".toList
  | .string => "string".toList
  | .fieldArgument => "field_argument".toList
  | .relationFields => "relation_fields".toList
  | .relationReferences => "relation_references".toList
  | .compositePath => "composite_path".toList
  | .blockAttribute => "block_attribute".toList
  | .blockProperty => "block_property".toList
  | .fieldName => "field_name".toList
  | .fieldType => "field_type".toList
  | .fieldAttribute => "field_attribute".toList
  | .enumValue => "enum_value".toList

def pathBefore (line : Text) (column : Nat) : List Text :=
  match (wordsBefore line column).getLast? with
  | some word => dottedPath word
  | none => []

def ofList? (line : Text) (column : Nat) : Option Context :=
  let words := wordsBefore line column
  if !insidePair line column .square then none
  else if !(pathBefore line column).isEmpty then some .compositePath
  else if insideRelationList line words RelationList.fields.name column then some .relationFields
  else if insideRelationList line words RelationList.references.name column then
    some .relationReferences
  else none

def ofFieldLine (text : Text) (position : Position) : Context :=
  let line := Text.lineAt text position.line
  if isBlockAttribute (Text.trim line) then .blockAttribute
  else if onFirstWord line position.character then .fieldName
  else if afterFieldAndType position text (wordsBefore line position.character) then .fieldAttribute
  else .fieldType

def inBody (kind : Kind) (text : Text) (position : Position) : Context :=
  let line := Text.lineAt text position.line
  if insideQuotes line position.character then .string
  else if insideFieldArgument line position.character then .fieldArgument
  else
    match ofList? line position.character with
    | some context => context
    | none =>
      match kind with
      | .datasource | .generator => .blockProperty
      | .enum => .enumValue
      | .model | .type | .view => ofFieldLine text position

def detect (text : Text) (position : Position) : Context :=
  match Block.at? position.line (Text.trimmedLines text) with
  | none => .topLevel
  | some block =>
    if position.line = block.range.start.line then .topLevel
    else inBody block.kind text position

end Context
end SchemaAssist
