import SchemaAssist.Editor.Reading
import SchemaAssist.Editor.Request

/-!
# Serving requests

The way of a request from its numbers to its response, with every step that can fail. A failure is
caught, logged and answered with nothing. Only the place of a definition is built behind that
boundary: if the editor refuses it, the request fails as a whole.
-/

namespace SchemaAssist

/-- What an editor refuses in the positions that it is sent. -/
structure Editor where
  refuses? : Position → Option Excess

def Editor.limited : Editor := ⟨Position.excess?⟩

def wordEnds (number : Nat) : Text → List Nat
  | [] => []
  | c :: text =>
    if Text.isWord c && !text.head?.any Text.isWord then
      (number + 1) :: wordEnds (number + 1) text
    else wordEnds (number + 1) text

namespace Run

-- ---------------------------------------------------------------------------
-- Ranges
-- ---------------------------------------------------------------------------

def place (editor : Editor) (position : Position) : Run Position :=
  match editor.refuses? position with
  | some excess => throw (.refused excess)
  | none => return position

def send (editor : Editor) (range : Range) : Run Range := do
  return ⟨← place editor range.start, ← place editor range.stop⟩

def shift (editor : Editor) (raw : List Text) (position : Position) : Run Position := do
  let line ← currentLine raw position.line
  place editor ⟨position.line, position.character + (Text.indent line).length⟩

def sendShifted (editor : Editor) (raw : List Text) (range : Range) : Run Range := do
  return ⟨← shift editor raw range.start, ← shift editor raw range.stop⟩

-- ---------------------------------------------------------------------------
-- Symbols
-- ---------------------------------------------------------------------------

def fieldSymbol? (editor : Editor) (raw lines : List Text) (type : Text) (number : Nat) :
    Run (Option FieldSymbol) := do
  let line ← currentLine raw number
  let trimmed ← need .outOfRange lines[number]?
  let name ← need (.wordMissing number) (Text.words trimmed).head?
  if isComment name then return none
  let column ← need (.nameMissing number name) (Text.indexOf? name line)
  let range ← send editor (← check (Range.ofCorners ⟨number, 0, number, line.length⟩))
  let selection ← send editor
    (← check (Range.ofCorners ⟨number, column, number, column + name.length⟩))
  return some ⟨name, FieldSymbol.detailOf type, range, selection⟩

def blockSymbol (editor : Editor) (raw lines : List Text) (block : Block) : Run BlockSymbol := do
  let index ← fieldIndex lines block none
  let found ← index.uses.mapM fun use => use.lines.mapM (fieldSymbol? editor raw lines use.type)
  let children := (found.flatten.filterMap id).mergeSort
    fun first second => decide (first.range.start.line ≤ second.range.start.line)
  return ⟨block.name, SymbolKind.ofKind block.kind, block.kind.keyword,
    ← sendShifted editor raw block.range, ← sendShifted editor raw block.nameRange, children⟩

def symbols (editor : Editor) (text : Text) : Run (List BlockSymbol) :=
  let raw := Text.lines text
  let lines := raw.map Text.trim
  let visit (found : List BlockSymbol) (block : Block) : Run (ForInStep (List BlockSymbol)) := do
    return .yield (found ++ [← blockSymbol editor raw lines block])
  forBlocks lines visit []

-- ---------------------------------------------------------------------------
-- The block of a word
-- ---------------------------------------------------------------------------

def blockForWord? (text : Text) (position : Position) : Run (Option Block) := do
  let line ← currentLine (Text.lines text) position.line
  match wordAround line (Text.indexOfColumn line position.character) with
  | [] => return none
  | word => blockNamed? word (Text.trimmedLines text)

/-- The index is made for an enum as well, though only its values are shown. -/
def hoverLines (lines : List Text) (block : Block) : Run (List Text) := do
  let index ← fieldIndex lines block none
  match block.kind with
  | .enum => return Hover.heading block :: Hover.enumLines (← fieldNames lines block none)
  | _ => return Hover.heading block :: Hover.tableLines index.types

def hoverText? (text : Text) (position : Position) : Run (Option Text) := do
  match ← blockForWord? text position with
  | none => return none
  | some block => return some (Text.joinLines (← hoverLines (Text.trimmedLines text) block))

-- ---------------------------------------------------------------------------
-- The context of a cursor
-- ---------------------------------------------------------------------------

def bracketPair (symbols : Text) : Run BracketPair := do
  return ⟨← need .outOfRange symbols[0]?, ← need .outOfRange symbols[1]?⟩

def insideList (line : Text) (column : Nat) : Run Bool := do
  return insidePair line column (← bracketPair ['[', ']'])

def insideFieldArgument (line : Text) (column : Nat) : Run Bool := do
  let pair ← bracketPair ['(', ')']
  let before := Text.beforeColumn line column
  return decide (2 ≤ before.count pair.opening ∧
    before.count pair.closing < before.count pair.opening)

def insideRelationList (line : Text) (words : List Text) (property : Text) (column : Nat) :
    Run Bool := do
  if !(← insideList line column) then return false
  let seen := [RelationList.fields, .references].map fun list =>
    (list.name, lastMention list.name words)
  let latest ← need .empty (seen.map (·.2)).max?
  if latest = 0 then return false
  let winners := (seen.filter fun entry => entry.2 = latest).map (·.1)
  if winners.length ≠ 1 then return false
  return decide ((← need .outOfRange winners.head?) = property)

def onFirstWord (line : Text) (column : Nat) : Run Bool := do
  if (Text.trim line).isEmpty then return true
  let before := Text.beforeColumn line column
  let ends := wordEnds 0 before
  if ends.isEmpty then return true
  if ends.length ≠ 1 then return false
  return decide ((← need .outOfRange ends.head?) = before.length)

def pathBefore (line : Text) (column : Nat) : Run (List Text) := do
  let words := wordsBefore line column
  if words.isEmpty then return []
  return dottedPath (← need .outOfRange words.getLast?)

def listContext? (line : Text) (column : Nat) : Run (Option Context) := do
  if !(← insideList line column) then return none
  if !(← pathBefore line column).isEmpty then return some .compositePath
  let words := wordsBefore line column
  if ← insideRelationList line words RelationList.fields.name column then
    return some .relationFields
  if ← insideRelationList line words RelationList.references.name column then
    return some .relationReferences
  return none

def fieldLineContext (text line : Text) (position : Position) : Run Context := do
  if isBlockAttribute (Text.trim line) then return .blockAttribute
  if ← onFirstWord line position.character then return .fieldName
  if afterFieldAndType position text (wordsBefore line position.character) then
    return .fieldAttribute
  return .fieldType

def bodyContext (kind : Kind) (text line : Text) (position : Position) : Run Context := do
  if insideQuotes line position.character then return .string
  if ← insideFieldArgument line position.character then return .fieldArgument
  match ← listContext? line position.character with
  | some context => return context
  | none =>
    match kind with
    | .datasource | .generator => return .blockProperty
    | .enum => return .enumValue
    | .model | .type | .view => fieldLineContext text line position

def context (text : Text) (position : Position) : Run Context := do
  let line ← currentLine (Text.lines text) position.line
  match ← blockAt? position.line (Text.trimmedLines text) with
  | none => return .topLevel
  | some block =>
    if position.line = block.range.start.line then return .topLevel
    else bodyContext block.kind text line position

-- ---------------------------------------------------------------------------
-- Completion items
-- ---------------------------------------------------------------------------

def ownFields (lines : List Text) (position : Position) : Run (List Text) := do
  match ← blockAt? position.line lines with
  | none => return []
  | some block => fieldNames lines block (some position.line)

def referencedFields (lines : List Text) (line : Text) : Run (List Text) := do
  let words := Text.words line
  if words.length < 2 then return []
  match relationTarget (← need .outOfRange words[1]?) with
  | [] => return []
  | target =>
    match ← blockNamed? target lines with
    | none => return []
    | some block => fieldNames lines block none

def compositeFields (lines : List Text) (line : Text) (position : Position) : Run (List Text) := do
  let block ← blockAt? position.line lines
  let path ← pathBefore line position.character
  match block with
  | none => return []
  | some block =>
    if path.isEmpty then return []
    pathFields lines path (← fieldIndex lines block (some position.line))

def items (text : Text) (position : Position) : Run (List Item) := do
  let context ← context text position
  let lines := Text.trimmedLines text
  let line ← currentLine (Text.lines text) position.line
  match context with
  | .topLevel => return Completion.offer .keyword "Block".toList (Kind.all.map Kind.keyword)
  | .fieldType => return Completion.typeItems lines
  | .fieldAttribute =>
    return Completion.offer .property "Field attribute".toList Completion.fieldAttributes
  | .blockAttribute =>
    return Completion.offer .property "Block attribute".toList Completion.blockAttributes
  | .blockProperty => return Completion.propertyItems (← blockAt? position.line lines)
  | .relationFields => return Completion.offer .field "Field".toList (← ownFields lines position)
  | .relationReferences =>
    return Completion.offer .field "Field".toList (← referencedFields lines line)
  | .compositePath =>
    return Completion.offer .field "Composite field".toList
      (← compositeFields lines line position)
  | .string | .fieldArgument | .fieldName | .enumValue => return []

end Run

-- ---------------------------------------------------------------------------
-- Requests
-- ---------------------------------------------------------------------------

namespace Request

def atPosition {α : Type} (source : Option Text) (line character : Int)
    (ask : Text → Position → Run α) : Run α := do
  let text ← Run.need .unreadable source
  ask text (← Run.check (Position.check [] line character))

def guarded (request : Request) (answer : Run Answer) : Run Response := do
  match ← Run.observe answer with
  | .ok answer => return ⟨answer, []⟩
  | .error failure => return request.failed failure

def definitionOf (editor : Editor) (uri text : Text) : Option Block → Run Response
  | none => return ⟨.definition none, []⟩
  | some block => do
    let range ← Run.sendShifted editor (Text.lines text) block.nameRange
    return ⟨.definition (some ⟨uri, range⟩), []⟩

def handle (editor : Editor) (uri : Text) (source : Option Text) (request : Request) :
    Run Response :=
  match request with
  | .symbols => request.guarded do
    return .symbols (← Run.symbols editor (← Run.need .unreadable source))
  | .definition line character => do
    let found ← Run.observe <| atPosition source line character fun text position => do
      return (text, ← Run.blockForWord? text position)
    match found with
    | .error failure => return request.failed failure
    | .ok (text, block) => definitionOf editor uri text block
  | .hover line character => request.guarded <| atPosition source line character
      fun text position => do return .hover (← Run.hoverText? text position)
  | .completion line character => request.guarded <| atPosition source line character
      fun text position => do return .completion (some (← Run.items text position))

/-- The response to a request, or the failure that ends it as a whole, and what the scanner notes on
the way. -/
def serve (editor : Editor) (uri : Text) (source : Option Text) (request : Request) :
    Except Failure Response × List LogEntry := (request.handle editor uri source).result

end Request
end SchemaAssist
