import SchemaAssist.Block.Basic
import SchemaAssist.Text.Words

/-!
# Fields

Fields are read from the lines strictly between a block's header and its last line. The line that is
being typed on can be left out: its half-written content does not count as a field.

The index of a block has its declarations in two ways: each type with the lines that use it and the
first field that does, and each field name with its first type. Both are in the order of first
occurrence.
-/

namespace SchemaAssist

/-- The numbered lines inside a block, without the line `typing`. -/
def bodyLines (lines : List Text) (block : Block) (typing : Option Nat) : List (Nat × Text) :=
  ((lines.zipIdx.take block.range.stop.line).drop (block.range.start.line + 1)).filterMap
    fun (line, number) => if typing = some number then none else some (number, line)

def bodyNumbers (lines : List Text) (block : Block) : List Nat :=
  List.range' (block.range.start.line + 1)
    (min block.range.stop.line lines.length - (block.range.start.line + 1))

def isComment (line : Text) : Bool := "//".toList.isPrefixOf line

def isBlockAttribute (line : Text) : Bool := "@@".toList.isPrefixOf line

def fieldName? (line : Text) : Option Text :=
  if isComment line || isBlockAttribute line then none else (Text.words line).head?

def fieldType? (line : Text) : Option Text := (Text.words line)[1]?

def fieldNames (lines : List Text) (block : Block) (typing : Option Nat) : List Text :=
  (bodyLines lines block typing).filterMap fun (_, line) => fieldName? line

structure Declaration where
  line : Nat
  name : Text
  type : Text
deriving DecidableEq

def Declaration.ofLine? (number : Nat) (line : Text) : Option Declaration :=
  if isBlockAttribute line then none
  else
    match Text.words line with
    | name :: type :: _ => some ⟨number, name, type⟩
    | _ => none

def declarations (lines : List Text) (block : Block) (typing : Option Nat) : List Declaration :=
  (bodyLines lines block typing).filterMap fun (number, line) => Declaration.ofLine? number line

/-- The lines that use one type, and the name declared on the first of them. -/
structure TypeUse where
  type : Text
  lines : List Nat
  firstName : Text
deriving DecidableEq

structure FieldIndex where
  uses : List TypeUse
  types : List (Text × Text)
deriving DecidableEq

namespace FieldIndex

def usesOf : List Declaration → List TypeUse
  | [] => []
  | first :: rest =>
    let later := usesOf rest
    let lines := match later.find? (·.type = first.type) with
      | some use => use.lines
      | none => []
    ⟨first.type, first.line :: lines, first.name⟩ :: later.filter (·.type ≠ first.type)

def typesOf : List Declaration → List (Text × Text)
  | [] => []
  | first :: rest => (first.name, first.type) :: (typesOf rest).filter (·.1 ≠ first.name)

def ofDeclarations (declared : List Declaration) : FieldIndex :=
  ⟨usesOf declared, typesOf declared⟩

def ofBlock (lines : List Text) (block : Block) (typing : Option Nat) : FieldIndex :=
  ofDeclarations (declarations lines block typing)

def setType (name type : Text) : List (Text × Text) → List (Text × Text)
  | [] => [(name, type)]
  | entry :: rest =>
    if entry.1 = name then (name, type) :: rest else entry :: setType name type rest

/-- An index that knows only types of names; a later pair replaces an earlier one. -/
def ofTypes (pairs : List (Text × Text)) : FieldIndex :=
  ⟨[], pairs.foldl (fun types (name, type) => setType name type types) []⟩

def typeOf? (index : FieldIndex) (name : Text) : Option Text := index.types.lookup name

end FieldIndex
end SchemaAssist
