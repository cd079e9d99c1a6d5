import SchemaAssist.Position
import SchemaAssist.Text.Basic

/-!
# Building positions and ranges from integers

A position needs numbers that are not negative; a range needs two positions in order. A problem says
where it lies, as a path of parts inside the value, and what is wrong there. `Range.check` looks at
all four numbers and reports every problem under its path; `Range.ofCorners` builds the start, then
the end, then the range, and reports the problems of the first that fails.
-/

namespace SchemaAssist

inductive Part where
  | line
  | character
  | start
  | stop
  | kind
  | range
  | nameRange
  | name
deriving DecidableEq

inductive Fault where
  | negative
  | reversed (start stop : Position)
  | missing
  | unknownKind
  | nameOutside
  | emptyName
deriving DecidableEq

structure Problem where
  path : List Part
  fault : Fault
deriving DecidableEq

def Part.label : Part → Text
  | .line => "line".toList
  | .character => "character".toList
  | .start => "start".toList
  | .stop => "end".toList
  | .kind => "type".toList
  | .range => "range".toList
  | .nameRange => "name_range".toList
  | .name => "name".toList

def Position.describe (position : Position) : Text :=
  "(".toList ++ (toString position.line).toList ++ ", ".toList ++
    (toString position.character).toList ++ ")".toList

def Fault.describe : Fault → Text
  | .negative => "greater_than_equal: Input should be greater than or equal to 0".toList
  | .reversed start stop =>
    "value_error: Value error, Range end ".toList ++ stop.describe ++ " precedes start ".toList ++
      start.describe
  | .missing => "missing: Field required".toList
  | .unknownKind =>
    "enum: Input should be 'generator', 'datasource', 'model', 'type', 'enum' or 'view'".toList
  | .nameOutside =>
    "value_error: Value error, Block name range must lie within the block range".toList
  | .emptyName => "string_too_short: String should have at least 1 character".toList

def Problem.describe (problem : Problem) : Text :=
  List.intercalate ".".toList (problem.path.map Part.label) ++ ": ".toList ++ problem.fault.describe

def Problem.report (problems : List Problem) : Text :=
  List.intercalate "; ".toList (problems.map Problem.describe)

structure Corners where
  startLine : Int
  startCharacter : Int
  stopLine : Int
  stopCharacter : Int
deriving DecidableEq

def Range.corners (range : Range) : Corners :=
  ⟨range.start.line, range.start.character, range.stop.line, range.stop.character⟩

def negativeProblems (path : List Part) (number : Int) : List Problem :=
  if number < 0 then [⟨path, .negative⟩] else []

/-- The position of two numbers; its problems are reported below `path`. -/
def Position.check (path : List Part) (line character : Int) : Except (List Problem) Position :=
  match negativeProblems (path ++ [.line]) line ++
      negativeProblems (path ++ [.character]) character with
  | [] => .ok ⟨line.toNat, character.toNat⟩
  | problems => .error problems

def Range.between (path : List Part) (start stop : Position) : Except (List Problem) Range :=
  if start ≤ stop then .ok ⟨start, stop⟩ else .error [⟨path ++ [.stop], .reversed start stop⟩]

def problemsOf {α : Type} : Except (List Problem) α → List Problem
  | .ok _ => []
  | .error problems => problems

def Range.check (path : List Part) (corners : Corners) : Except (List Problem) Range :=
  let start := Position.check (path ++ [.start]) corners.startLine corners.startCharacter
  let stop := Position.check (path ++ [.stop]) corners.stopLine corners.stopCharacter
  match start, stop with
  | .ok start, .ok stop => Range.between path start stop
  | start, stop => .error (problemsOf start ++ problemsOf stop)

def Range.ofCorners (corners : Corners) : Except (List Problem) Range := do
  let start ← Position.check [] corners.startLine corners.startCharacter
  let stop ← Position.check [] corners.stopLine corners.stopCharacter
  Range.between [] start stop

end SchemaAssist
