import SchemaAssist.Editor.DocumentRange
import SchemaAssist.Log
import SchemaAssist.Position.Checked

/-!
# Runs

A run takes the steps towards an answer one after the other. A step may fail: an index may be out of
range, a part of a line may not be there, numbers may be no position. What has been noted by then
stays noted.
-/

namespace SchemaAssist

/-- What can keep a request from being answered. -/
inductive Failure where
  | unreadable
  | invalid (problems : List Problem)
  | wordMissing (line : Nat)
  | nameMissing (line : Nat) (name : Text)
  | outOfRange
  | notFound (part : Text)
  | noEntry (key : Text)
  | empty
  | refused (excess : Excess)
deriving DecidableEq

namespace Failure

def describe : Failure → Text
  | .unreadable => "the document cannot be read".toList
  | .invalid problems => Problem.report problems
  | .wordMissing line => "no word on line ".toList ++ (toString line).toList
  | .nameMissing line name =>
    "no ".toList ++ name ++ " on line ".toList ++ (toString line).toList
  | .outOfRange => "list index out of range".toList
  | .notFound _ => "substring not found".toList
  | .noEntry key => key
  | .empty => "nothing to choose from".toList
  | .refused excess => excess.describe

def ofProblems {α : Type} : Except (List Problem) α → Except Failure α
  | .ok value => .ok value
  | .error problems => .error (.invalid problems)

end Failure

abbrev Run := ExceptT Failure (StateM (List LogEntry))

namespace Run

variable {α : Type}

def note (entry : LogEntry) : Run Unit := modify (· ++ [entry])

def need (failure : Failure) : Option α → Run α
  | some value => pure value
  | none => throw failure

def check : Except (List Problem) α → Run α
  | .ok value => pure value
  | .error problems => throw (.invalid problems)

/-- The run with its failure as a value. -/
def observe (run : Run α) : Run (Except Failure α) := ExceptT.lift (ExceptT.run run)

def result (run : Run α) : Except Failure α × List LogEntry := (ExceptT.run run).run []

end Run
end SchemaAssist
