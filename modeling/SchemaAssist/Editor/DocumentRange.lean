import SchemaAssist.Position.Checked
import SchemaAssist.Text.Lines

/-!
# Ranges in the document

Blocks are scanned on trimmed lines. A position on a trimmed line is moved to the document by the
indentation of its untrimmed line; a line that does not exist has none, and a blank one is all
indentation. The editor takes no line and no column beyond `numberLimit`.
-/

namespace SchemaAssist

def Position.inDocument (raw : List Text) (position : Position) : Position :=
  ⟨position.line, position.character + (Text.indent (Text.lineOf raw position.line)).length⟩

def Range.inDocument (raw : List Text) (range : Range) : Range :=
  ⟨range.start.inDocument raw, range.stop.inDocument raw⟩

/-- The greatest line or column that the editor takes. -/
def numberLimit : Nat := 2147483647

def endOfLine : Nat := numberLimit

def Range.ofDocument (text : Text) : Range :=
  ⟨⟨0, 0⟩, ⟨(Text.lines text).length - 1, endOfLine⟩⟩

structure Excess where
  part : Part
  number : Nat
deriving DecidableEq

def Excess.describe (excess : Excess) : Text :=
  "Position.".toList ++ excess.part.label ++ " should be in range [0:".toList ++
    (toString numberLimit).toList ++ "], but was ".toList ++
    (toString excess.number).toList ++ ['.']

def Position.excess? (position : Position) : Option Excess :=
  if numberLimit < position.line then some ⟨.line, position.line⟩
  else if numberLimit < position.character then some ⟨.character, position.character⟩
  else none

theorem Position.excess?_eq_none_iff {position : Position} :
    position.excess? = none ↔ position.line ≤ numberLimit ∧ position.character ≤ numberLimit := by
  rw [Position.excess?]
  split
  · simp only [reduceCtorEq, false_iff]
    omega
  · split
    · simp only [reduceCtorEq, false_iff]
      omega
    · simp only [true_iff]
      omega

end SchemaAssist
