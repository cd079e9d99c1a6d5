import SchemaAssist.Cursor.Line
import SchemaAssist.Editor.Run
import SchemaAssist.Field.Path

/-!
# Reading blocks and fields step by step

The scan, the two lookups, the fields of a block and the walk along a path, with every step that can
fail: each index, each search in a line, each first or last element, and each checked value. Blocks
are read as they are asked for, so a search that has found its block reads no further line.
-/

namespace SchemaAssist

/-- What the scanner notes of a block that it has to end itself. -/
def recoveryNote (kind : Kind) (name : Text) (line : Nat) : LogEntry :=
  ⟨.debug, "Recovering unclosed ".toList ++ kind.keyword ++ [' '] ++ name ++ " at line ".toList ++
    (toString line).toList⟩

def FieldIndex.representatives : List Declaration → List (Text × Text)
  | [] => []
  | first :: rest =>
    (first.type, first.name) :: (representatives rest).filter (·.1 ≠ first.type)

namespace Run

def currentLine (raw : List Text) (number : Nat) : Run Text :=
  if number < raw.length then need .outOfRange raw[number]? else return []

/-- The header on a line of that number. The brace is looked for behind a keyword only. -/
def header? (number : Nat) (line : Text) : Run (Option Header) := do
  if '{' ∉ line then return none
  let keyword ← need .outOfRange (Text.words line).head?
  if keyword ∉ Kind.all.map Kind.keyword then return none
  let brace ← need (.notFound ['{']) (Text.indexOf? ['{'] line)
  let head := (line.take brace).drop keyword.length
  let name := Text.trim head
  if name = [] then return none
  let column := keyword.length + (Text.indent head).length
  let _ ← check (Range.ofCorners ⟨number, column, number, (column + name.length : Nat)⟩)
  let kind ← check (BlockDraft.checkKind (some keyword))
  return some ⟨kind, name, column⟩

/-- The block that a line ends: a header ends it with the line above, whatever that is. -/
def ended? (lines : List Text) (opened : Option Opening) (number : Nat) (line : Text) :
    Option Header → Run (Option Block)
  | some _ =>
    match opened with
    | some opening => do
      note (recoveryNote opening.header.kind opening.header.name (number - 1))
      let above ← need .outOfRange lines[number - 1]?
      return some (← check (opening.checkedEndingAt (number - 1) above.length))
    | none => return none
  | none =>
    match opened with
    | some opening => do
      if closesBlock line then return some (← check (opening.checkedEndingAt number 1))
      return none
    | none => return none

def opened? (opened : Option Opening) (number : Nat) (line : Text) :
    Option Header → Run (Option Opening)
  | some header => do
    let _ ← check (Position.check [] number 0)
    return some ⟨number, header⟩
  | none => return if closesBlock line then none else opened

section
variable {σ : Type} (lines : List Text) (visit : σ → Block → Run (ForInStep σ))

/-- Reads the remaining lines and visits each block as it ends, until a visit is the last. -/
def forBlocksFrom (opened : Option Opening) (number : Nat) : List Text → σ → Run σ
  | [], state => return state
  | line :: rest, state => do
    let header ← header? number line
    let step ← match ← ended? lines opened number line header with
      | some block => visit state block
      | none => pure (ForInStep.yield state)
    match step with
    | .done state => return state
    | .yield state => forBlocksFrom (← opened? opened number line header) (number + 1) rest state

def forBlocks (state : σ) : Run σ := do
  let _ ← check (Position.check [] 0 0)
  forBlocksFrom lines visit none 0 lines state

end

def blockAt? (line : Int) (lines : List Text) : Run (Option Block) :=
  let visit (_ : Option Block) (block : Block) : Run (ForInStep (Option Block)) := pure <|
    if line < (block.range.start.line : Int) then .done none
    else if block.range.CoversLine line then .done (some block)
    else .yield none
  forBlocks lines visit none

def blockNamed? (name : Text) (lines : List Text) : Run (Option Block) := do
  let covering ← (candidateLines name lines).mapM fun (number : Nat) => blockAt? number lines
  let found := ((covering.filterMap id).filter fun block =>
    block.name = name ∧ block.kind ∈ Kind.named).eraseDups
  if found.length = 1 then return some (← need .empty found.head?)
  return none

def body {α : Type} (lines : List Text) (block : Block) (typing : Option Nat)
    (read : Nat → Text → Run (Option α)) : Run (List α) := do
  let numbers := (bodyNumbers lines block).filter fun number => typing ≠ some number
  let found ← numbers.mapM fun number => do read number (← need .outOfRange lines[number]?)
  return found.filterMap id

def fieldName? (line : Text) : Run (Option Text) := do
  if isComment line || isBlockAttribute line then return none
  if (Text.words line).isEmpty then return none
  return some (← need .outOfRange (Text.words line).head?)

def fieldType? (line : Text) : Run (Option Text) := do
  if (Text.words line).length < 2 then return none
  return some (← need .outOfRange (Text.words line)[1]?)

def fieldNames (lines : List Text) (block : Block) (typing : Option Nat) : Run (List Text) :=
  body lines block typing fun _ line => fieldName? line

def declaration? (number : Nat) (line : Text) : Run (Option Declaration) := do
  if isBlockAttribute line then return none
  match ← fieldType? line with
  | none => return none
  | some type => return some ⟨number, ← need .outOfRange (Text.words line).head?, type⟩

def fieldIndex (lines : List Text) (block : Block) (typing : Option Nat) : Run FieldIndex := do
  let declared ← body lines block typing declaration?
  let names := FieldIndex.representatives declared
  let uses ← (FieldIndex.usesOf declared).mapM fun use => do
    return { use with firstName := ← need (.noEntry use.type) (names.lookup use.type) }
  return ⟨uses, FieldIndex.typesOf declared⟩

def pathFields (lines : List Text) : List Text → FieldIndex → Run (List Text)
  | [], _ => return []
  | field :: path, index =>
    match index.typeOf? field with
    | none => return []
    | some type => do
      match ← blockNamed? (compositeName type) lines with
      | none => return []
      | some block =>
        if block.kind ≠ .type then return []
        else if path.isEmpty then fieldNames lines block none
        else do pathFields lines path (← fieldIndex lines block none)

end Run
end SchemaAssist
