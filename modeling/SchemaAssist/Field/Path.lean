import SchemaAssist.Block.Scan
import SchemaAssist.Field.Index
import SchemaAssist.Text.Basic
import SchemaAssist.Text.Words

/-!
# Dotted paths through composite types

A declared type may carry a list marker and then an optional marker. A path through composite types
takes off one of each; a line feed at the end of the type is looked past and stays. A relation's
target takes off every optional marker and then one list marker.

A path is walked one field at a time: the declared type of each field must name a composite type,
and the fields of the last one are the answer. The walk is as long as the path, so types that refer
to themselves need no special care.
-/

namespace SchemaAssist

def listMarker : Text := "[]".toList

/-- The type without one optional marker and one list marker before it. -/
def compositeName (type : Text) : Text :=
  let marked := Text.dropEnding ['\n'] type
  Text.dropEnding listMarker (Text.dropEnding ['?'] marked) ++ type.drop marked.length

/-- The type without its optional markers and one list marker before them. -/
def relationTarget (type : Text) : Text :=
  Text.dropEnding listMarker (Text.dropEndWhile (· == '?') type)

def compositeOf? (lines : List Text) (index : FieldIndex) (field : Text) : Option Block :=
  match index.typeOf? field with
  | none => none
  | some type =>
    match Block.named? (compositeName type) lines with
    | some block => if block.kind = .type then some block else none
    | none => none

def pathFields (lines : List Text) : List Text → FieldIndex → List Text
  | [], _ => []
  | field :: path, index =>
    match compositeOf? lines index field with
    | none => []
    | some block =>
      if path.isEmpty then fieldNames lines block none
      else pathFields lines path (FieldIndex.ofBlock lines block none)

/-- Collects segments from the last one backwards. A segment that does not reach back to the dot
before it is the first of the path. -/
def segmentsBack : List Text → List Text
  | [] => []
  | piece :: earlier =>
    let run := Text.lastRun piece
    if run.isEmpty then []
    else if run = piece then segmentsBack earlier ++ [run]
    else [run]

def dottedPath (word : Text) : List Text :=
  match (word.splitOn '.').reverse with
  | [] :: pieces => segmentsBack pieces
  | _ => []

end SchemaAssist
