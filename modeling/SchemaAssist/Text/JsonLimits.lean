import SchemaAssist.Text.JsonTokens

/-!
# Limits on JSON texts

A JSON text is read from left to right, and reading ends at the first token that the grammar does
not allow. Two limits hold on the way: an integer has no more digits than `digitLimit`, and no more
than `nestingLimit` containers lie in each other. What comes first decides: a text that is malformed
before it goes beyond a limit is only malformed.
-/

namespace SchemaAssist.Text.JsonLimits

open JsonTokens

inductive Breach where
  | digits (count : Nat)
  | nesting (container : Container)
deriving DecidableEq

def digitLimit : Nat := 4300

def nestingLimit : Nat := 991

def containerName : Container → Text
  | .array => "array".toList
  | .object => "object".toList

namespace Breach

def describe : Breach → Text
  | .digits count =>
    "Exceeds the limit (".toList ++ (toString digitLimit).toList ++
      " digits) for integer string conversion: value has ".toList ++ (toString count).toList ++
      " digits; use sys.set_int_max_str_digits() to increase the limit".toList
  | .nesting container =>
    "maximum recursion depth exceeded while decoding a JSON ".toList ++ containerName container ++
      " from a unicode string".toList

end Breach

inductive Awaited where
  | value
  | valueOrEnd
  | key
  | keyOrEnd
  | colon
  | commaOrEnd
deriving DecidableEq

/-- The state of reading: what is awaited, and the containers around it from the inside out. -/
structure Reading where
  awaited : Awaited
  enclosing : List Container
deriving DecidableEq

inductive Stop where
  | malformed
  | beyond (breach : Breach)
deriving DecidableEq

namespace Reading

def start : Reading := ⟨.value, []⟩

def inside : Container → Awaited
  | .array => .valueOrEnd
  | .object => .keyOrEnd

def another : Container → Awaited
  | .array => .value
  | .object => .key

def value (enclosing : List Container) : Token → Except Stop Reading
  | .opening container =>
    if nestingLimit ≤ enclosing.length then .error (.beyond (.nesting container))
    else .ok ⟨inside container, container :: enclosing⟩
  | .integer digits =>
    if digitLimit < digits then .error (.beyond (.digits digits))
    else .ok ⟨.commaOrEnd, enclosing⟩
  | .string | .scalar => .ok ⟨.commaOrEnd, enclosing⟩
  | _ => .error .malformed

def close (container : Container) : List Container → Except Stop Reading
  | [] => .error .malformed
  | inner :: enclosing =>
    if inner = container then .ok ⟨.commaOrEnd, enclosing⟩ else .error .malformed

def step (reading : Reading) (token : Token) : Except Stop Reading :=
  match reading.awaited, token with
  | .valueOrEnd, .closing container | .keyOrEnd, .closing container
  | .commaOrEnd, .closing container => close container reading.enclosing
  | .value, token | .valueOrEnd, token => value reading.enclosing token
  | .key, .string | .keyOrEnd, .string => .ok ⟨.colon, reading.enclosing⟩
  | .colon, .colon => .ok ⟨.value, reading.enclosing⟩
  | .commaOrEnd, .comma =>
    match reading.enclosing with
    | [] => .error .malformed
    | container :: _ => .ok ⟨another container, reading.enclosing⟩
  | _, _ => .error .malformed

end Reading

/-- The first limit that a text goes beyond, where it is well-formed up to there. -/
def breach? (text : Text) : Option Breach :=
  match (tokens text).foldlM Reading.step Reading.start with
  | .error (.beyond breach) => some breach
  | _ => none

end SchemaAssist.Text.JsonLimits
