import SchemaAssist.Editor.Completion
import SchemaAssist.Editor.Lookup
import SchemaAssist.Editor.Outline
import SchemaAssist.Log

/-!
# Requests

The four questions an editor asks about a document, and what is answered where the document can be
read and the numbers can be taken: otherwise the answer is empty, and one error entry is logged. The
steps from there to an answer, and what they can fail on, are those of `Request.serve`.
-/

namespace SchemaAssist

/-- A question about a document; the numbers are a line and a column as the editor sent them. -/
inductive Request where
  | symbols
  | definition (line character : Int)
  | hover (line character : Int)
  | completion (line character : Int)
deriving DecidableEq

structure Location where
  uri : Text
  range : Range
deriving DecidableEq

inductive Answer where
  | symbols (symbols : List BlockSymbol)
  | definition (location : Option Location)
  | hover (markdown : Option Text)
  | completion (items : Option (List Item))
deriving DecidableEq

structure Response where
  answer : Answer
  log : List LogEntry
deriving DecidableEq

namespace Request

def readSource (source : Option Text) : Except Failure Text :=
  match source with
  | some text => .ok text
  | none => .error .unreadable

def atCursor {α : Type} (source : Option Text) (line character : Int)
    (ask : Text → Position → α) : Except Failure α := do
  let text ← readSource source
  let position ← Failure.ofProblems (Position.check [] line character)
  return ask text position

def hoverText? (text : Text) (position : Position) : Option Text :=
  (blockForWord? text position).map (Hover.format (Text.trimmedLines text))

def attempt (uri : Text) (source : Option Text) : Request → Except Failure Answer
  | .symbols => do return .symbols (← outline (← readSource source))
  | .definition line character => do
    let range ← atCursor source line character definitionRange?
    return .definition (range.map (⟨uri, ·⟩))
  | .hover line character => do
    return .hover (← atCursor source line character hoverText?)
  | .completion line character => do
    return .completion (some (← atCursor source line character Completion.items))

def emptyAnswer : Request → Answer
  | .symbols => .symbols []
  | .definition .. => .definition none
  | .hover .. => .hover none
  | .completion .. => .completion none

def failureLead : Request → Text
  | .symbols => "Error building document symbols".toList
  | .definition .. => "Error finding definition".toList
  | .hover .. => "Error building hover".toList
  | .completion .. => "Error building completions".toList

def failureEntry (request : Request) (failure : Failure) : LogEntry :=
  ⟨.error, request.failureLead ++ ": ".toList ++ failure.describe⟩

def failed (request : Request) (failure : Failure) : Response :=
  ⟨request.emptyAnswer, [request.failureEntry failure]⟩

def respond (uri : Text) (source : Option Text) (request : Request) : Response :=
  match request.attempt uri source with
  | .ok answer => ⟨answer, []⟩
  | .error failure => request.failed failure

end Request
end SchemaAssist
