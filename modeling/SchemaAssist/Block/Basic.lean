import SchemaAssist.Position
import SchemaAssist.Position.Checked
import SchemaAssist.Text.Basic

/-!
# Blocks

A schema consists of top-level blocks of six kinds. A block is plain data here; `Valid` says what
the scanner and the checked constructor both guarantee.

A draft holds what a block is to be built from; any part may be absent. All parts are looked at, and
their problems are reported in the order kind, range, name range, name. The place of the name range
is judged only where both ranges are sound.
-/

namespace SchemaAssist

inductive Kind where
  | generator
  | datasource
  | model
  | type
  | enum
  | view
deriving DecidableEq

namespace Kind

def all : List Kind := [.generator, .datasource, .model, .type, .enum, .view]

def keyword : Kind → Text
  | .generator => "generator".toList
  | .datasource => "datasource".toList
  | .model => "model".toList
  | .type => "type".toList
  | .enum => "enum".toList
  | .view => "view".toList

def ofKeyword? (word : Text) : Option Kind := all.find? (·.keyword = word)

theorem ofKeyword?_eq_some_iff {word : Text} {kind : Kind} :
    ofKeyword? word = some kind ↔ word = kind.keyword := by
  constructor
  · intro h
    simpa [eq_comm] using List.find?_some h
  · rintro rfl
    cases kind <;> decide

/-- Kinds whose names can stand as the type of a field. -/
def named : List Kind := [.model, .type, .enum, .view]

end Kind

structure Block where
  kind : Kind
  range : Range
  nameRange : Range
  name : Text
deriving DecidableEq

/-- Both ranges are in order, the name lies inside the block, and it is not empty. -/
structure Block.Valid (block : Block) : Prop where
  range_ordered : block.range.Ordered
  nameRange_ordered : block.nameRange.Ordered
  contains_name : block.range.Contains block.nameRange
  name_ne_nil : block.name ≠ []

def closesBlock (line : Text) : Bool := line.head? == some '}'

structure BlockDraft where
  kind : Option Text
  range : Option Corners
  nameRange : Option Corners
  name : Option Text
deriving DecidableEq

namespace BlockDraft

def checkKind : Option Text → Except (List Problem) Kind
  | none => .error [⟨[.kind], .missing⟩]
  | some word =>
    match Kind.ofKeyword? word with
    | some kind => .ok kind
    | none => .error [⟨[.kind], .unknownKind⟩]

def checkRange (part : Part) : Option Corners → Except (List Problem) Range
  | none => .error [⟨[part], .missing⟩]
  | some corners => Range.check [part] corners

/-- A sound name range must also lie inside a sound block range. -/
def checkInside (range nameRange : Except (List Problem) Range) : Except (List Problem) Range :=
  match range, nameRange with
  | .ok outer, .ok inner =>
    if outer.Contains inner then .ok inner else .error [⟨[.nameRange], .nameOutside⟩]
  | _, nameRange => nameRange

def checkName : Option Text → Except (List Problem) Text
  | none => .error [⟨[.name], .missing⟩]
  | some [] => .error [⟨[.name], .emptyName⟩]
  | some name => .ok name

def check (draft : BlockDraft) : Except (List Problem) Block :=
  let kind := checkKind draft.kind
  let range := checkRange .range draft.range
  let nameRange := checkInside range (checkRange .nameRange draft.nameRange)
  let name := checkName draft.name
  match kind, range, nameRange, name with
  | .ok kind, .ok range, .ok nameRange, .ok name => .ok ⟨kind, range, nameRange, name⟩
  | kind, range, nameRange, name =>
    .error (problemsOf kind ++ problemsOf range ++ problemsOf nameRange ++ problemsOf name)

end BlockDraft
end SchemaAssist
