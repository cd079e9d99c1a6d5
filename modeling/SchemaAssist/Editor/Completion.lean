import SchemaAssist.Cursor.Context
import SchemaAssist.Facts

/-!
# Completion items

What is offered in each context: keywords, types, attributes and properties from fixed lists, and
the names that the document declares.
-/

namespace SchemaAssist

inductive ItemKind where
  | keyword
  | typeParameter
  | reference
  | struct
  | property
  | field
deriving DecidableEq

def ItemKind.label : ItemKind → Text
  | .keyword => "Keyword".toList
  | .typeParameter => "TypeParameter".toList
  | .reference => "Reference".toList
  | .struct => "Struct".toList
  | .property => "Property".toList
  | .field => "Field".toList

structure Item where
  label : Text
  kind : ItemKind
  detail : Text
deriving DecidableEq

namespace Completion

def scalarTypes : List Text :=
  ["String", "Boolean", "Int", "BigInt", "Float", "Decimal", "DateTime", "Json", "Bytes"].map
    String.toList

def fieldAttributes : List Text :=
  ["@id", "@unique", "@default", "@relation", "@map", "@updatedAt", "@ignore"].map String.toList

def blockAttributes : List Text :=
  ["@@id", "@@unique", "@@index", "@@map", "@@ignore", "@@schema"].map String.toList

def datasourceProperties : List Text :=
  ["provider", "url", "shadowDatabaseUrl", "directUrl", "relationMode"].map String.toList

def generatorProperties : List Text :=
  ["provider", "output", "previewFeatures", "engineType", "binaryTargets"].map String.toList

def offer (kind : ItemKind) (detail : Text) (labels : List Text) : List Item :=
  labels.map fun label => ⟨label, kind, detail⟩

def typeItems (lines : List Text) : List Item :=
  offer .typeParameter "Scalar".toList scalarTypes ++
    offer .reference "Relation".toList (relationNames lines) ++
    offer .struct "Composite type".toList (compositeTypeNames lines)

def propertyItems (block : Option Block) : List Item :=
  offer .field "Property".toList <|
    match block with
    | some block => if block.kind = .datasource then datasourceProperties else generatorProperties
    | none => generatorProperties

def ownFields (lines : List Text) (position : Position) : List Text :=
  match Block.at? position.line lines with
  | none => []
  | some block => fieldNames lines block (some position.line)

def referencedFields (lines : List Text) (line : Text) : List Text :=
  match (fieldType? line).map relationTarget with
  | none | some [] => []
  | some target =>
    match Block.named? target lines with
    | none => []
    | some block => fieldNames lines block none

def compositeFields (lines : List Text) (line : Text) (position : Position) : List Text :=
  match Block.at? position.line lines with
  | none => []
  | some block =>
    pathFields lines (Context.pathBefore line position.character)
      (FieldIndex.ofBlock lines block (some position.line))

def items (text : Text) (position : Position) : List Item :=
  let lines := Text.trimmedLines text
  let line := Text.lineAt text position.line
  match Context.detect text position with
  | .topLevel => offer .keyword "Block".toList (Kind.all.map Kind.keyword)
  | .fieldType => typeItems lines
  | .fieldAttribute => offer .property "Field attribute".toList fieldAttributes
  | .blockAttribute => offer .property "Block attribute".toList blockAttributes
  | .blockProperty => propertyItems (Block.at? position.line lines)
  | .relationFields => offer .field "Field".toList (ownFields lines position)
  | .relationReferences => offer .field "Field".toList (referencedFields lines line)
  | .compositePath => offer .field "Composite field".toList (compositeFields lines line position)
  | .string | .fieldArgument | .fieldName | .enumValue => []

end Completion
end SchemaAssist
