import SchemaAssist.Block.Basic
import SchemaAssist.Text.Basic
import SchemaAssist.Text.Words

/-!
# Scanning for blocks

A header line starts with a keyword, has an opening brace, and has a name between the two. The name
is everything in between without the whitespace around it, so it may hold inner spaces. Columns
count from the start of the line that is given.

Blocks do not nest. An open block ends at the next line that starts with a closing brace; a header
seen before that cuts it off at the end of the line above. A header that is still open at the end of
the lines yields no block.

The block at a line is the one whose range covers it. A name stands for a block only if it is the
name of exactly one model, type, enum or view: an ambiguous name finds nothing.
-/

namespace SchemaAssist

structure Header where
  kind : Kind
  name : Text
  column : Nat
deriving DecidableEq

namespace Header

def firstToken (line : Text) : Text := (Text.trimStart line).takeWhile (!Text.isSpace ·)

def middle (kind : Kind) (line : Text) : Text :=
  (line.drop kind.keyword.length).takeWhile (· != '{')

def ofLine? (line : Text) : Option Header :=
  if '{' ∈ line then
    (Kind.ofKeyword? (firstToken line)).bind fun kind =>
      let name := Text.trim (middle kind line)
      if name = [] then none
      else some ⟨kind, name, kind.keyword.length + (Text.indent (middle kind line)).length⟩
  else none

def nameRange (header : Header) (line : Nat) : Range :=
  Range.onLine line header.column (header.column + header.name.length)

def firstWord (line : Text) : Text := line.takeWhile (· != ' ')

/-- The name that a header line spells: all but its first word and its last character. -/
def nameOf (line : Text) : Text := Text.trim (line.dropLast.drop (firstWord line).length)

end Header

/-- A header whose block has not ended yet, with the number of its line. -/
structure Opening where
  line : Nat
  header : Header
deriving DecidableEq

namespace Opening

def endingAt (opening : Opening) (stop : Position) : Block where
  kind := opening.header.kind
  range := ⟨⟨opening.line, 0⟩, stop⟩
  nameRange := opening.header.nameRange opening.line
  name := opening.header.name

def closedOn (opening : Opening) (line : Nat) : Block := opening.endingAt ⟨line, 1⟩

/-- Ended above the header on a line, after `above` characters of the line before it. -/
def cutOffBy (opening : Opening) (line above : Nat) : Block :=
  opening.endingAt ⟨line - 1, above⟩

end Opening

def Header.checkedNameRange (header : Header) (number : Nat) : Except (List Problem) Range :=
  Range.ofCorners ⟨number, header.column, number, (header.column + header.name.length : Nat)⟩

def Opening.checkedEndingAt (opening : Opening) (line character : Int) :
    Except (List Problem) Block := do
  let range ← Range.ofCorners ⟨opening.line, 0, line, character⟩
  BlockDraft.check ⟨some opening.header.kind.keyword, some range.corners,
    some (opening.header.nameRange opening.line).corners, some opening.header.name⟩

/-- What one line does: the block that it ends, and the opening that is left behind it. -/
def scanLine (opened : Option Opening) (number above : Nat) (line : Text) :
    Option Block × Option Opening :=
  match Header.ofLine? line, opened with
  | some header, some opening => (some (opening.cutOffBy number above), some ⟨number, header⟩)
  | some header, none => (none, some ⟨number, header⟩)
  | none, some opening =>
    if closesBlock line then (some (opening.closedOn number), none) else (none, some opening)
  | none, none => (none, none)

/-- The blocks of the remaining lines, the first of which has the given number and stands below a
line of `above` characters. -/
def scanFrom (opened : Option Opening) (number above : Nat) : List Text → List Block
  | [] => []
  | line :: rest =>
    (scanLine opened number above line).1.toList ++
      scanFrom (scanLine opened number above line).2 (number + 1) line.length rest

def Block.scan (lines : List Text) : List Block := scanFrom none 0 0 lines

def Block.covering? (line : Int) : List Block → Option Block
  | [] => none
  | block :: rest =>
    if line < (block.range.start.line : Int) then none
    else if block.range.CoversLine line then some block
    else Block.covering? line rest

def Block.at? (line : Int) (lines : List Text) : Option Block :=
  Block.covering? line (Block.scan lines)

def mayDeclare (name line : Text) : Bool :=
  Text.mentions name line && Kind.named.any fun kind => Text.mentions kind.keyword line

def candidateLines (name : Text) (lines : List Text) : List Nat :=
  (lines.zipIdx.filter fun (line, _) => mayDeclare name line).map (·.2)

def candidates (name : Text) (lines : List Text) : List Block :=
  let blocks := Block.scan lines
  let covering := (candidateLines name lines).filterMap fun (line : Nat) =>
    Block.covering? line blocks
  (covering.filter fun block => block.name = name ∧ block.kind ∈ Kind.named).eraseDups

/-- The only model, type, enum or view block of that name. -/
def Block.named? (name : Text) (lines : List Text) : Option Block :=
  match candidates name lines with
  | [block] => some block
  | _ => none

end SchemaAssist
