import SchemaAssist.Position
import SchemaAssist.Text.Lines
import SchemaAssist.Text.Words

/-!
# What surrounds a cursor on its line

A cursor touches the identifier that ends at it, the one that starts at it, or one around it. The
other questions look only at the characters of the line before the cursor, so they can be asked
where brackets and quotes are still unbalanced. Columns count UTF-16 units of the untrimmed line.
-/

namespace SchemaAssist

/-- The longest run of word characters around an index of a line. -/
def wordAround (line : Text) (index : Nat) : Text :=
  Text.lastRun (line.take index) ++ (line.drop index).takeWhile Text.isWord

def wordAt (text : Text) (position : Position) : Text :=
  let line := Text.lineAt text position.line
  wordAround line (Text.indexOfColumn line position.character)

def symbolBefore? (text : Text) (position : Position) : Option Char :=
  (Text.beforeColumn (Text.lineAt text position.line) position.character).getLast?

structure BracketPair where
  opening : Char
  closing : Char
deriving DecidableEq

namespace BracketPair

def round : BracketPair := ⟨'(', ')'⟩

def square : BracketPair := ⟨'[', ']'⟩

def ofText? : Text → Option BracketPair
  | opening :: closing :: _ => some ⟨opening, closing⟩
  | _ => none

end BracketPair

def wordsBefore (line : Text) (column : Nat) : List Text :=
  Text.words (Text.beforeColumn line column)

def insidePair (line : Text) (column : Nat) (pair : BracketPair) : Bool :=
  let before := Text.beforeColumn line column
  decide (before.count pair.closing < before.count pair.opening)

/-- A call inside the arguments of an attribute is open at the cursor. -/
def insideFieldArgument (line : Text) (column : Nat) : Bool :=
  let before := Text.beforeColumn line column
  decide (2 ≤ before.count '(' ∧ before.count ')' < before.count '(')

/-- A double quote is open at the cursor; a backslash before a quote means nothing. -/
def insideQuotes (line : Text) (column : Nat) : Bool :=
  (Text.beforeColumn line column).count '"' % 2 == 1

inductive RelationList where
  | fields
  | references
deriving DecidableEq

namespace RelationList

def name : RelationList → Text
  | .fields => "fields".toList
  | .references => "references".toList

def other : RelationList → RelationList
  | .fields => .references
  | .references => .fields

def ofName? (name : Text) : Option RelationList :=
  [fields, references].find? (·.name = name)

end RelationList

/-- How many words there are up to the last one that mentions a property; zero if none does. -/
def lastMention (property : Text) : List Text → Nat
  | [] => 0
  | word :: words =>
    match lastMention property words with
    | 0 => if Text.mentions property word then 1 else 0
    | count + 1 => count + 2

def insideRelationList (line : Text) (words : List Text) (property : Text) (column : Nat) : Bool :=
  insidePair line column .square &&
    match RelationList.ofName? property with
    | some list => decide (lastMention list.other.name words < lastMention list.name words)
    | none => false

/-- The cursor follows a field's name and type: two words before it and a space or an at sign, or
more words than two. -/
def afterFieldAndType (position : Position) (text : Text) (words : List Text) : Bool :=
  match words.length with
  | 0 | 1 => false
  | 2 =>
    match symbolBefore? text position with
    | some c => c == '@' || Text.isSpace c
    | none => false
  | _ => true

/-- The line is blank, or no word ends before the cursor but one that the cursor touches. -/
def onFirstWord (line : Text) (column : Nat) : Bool :=
  (Text.trim line).isEmpty ||
    ((Text.beforeColumn line column).dropWhile (!Text.isWord ·)).all Text.isWord

end SchemaAssist
