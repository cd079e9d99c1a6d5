import SchemaAssist.Editor.Request
import SchemaAssist.Proofs.Editor.OutlineTree
import SchemaAssist.Proofs.Position.Checked

/-!
# What requests are answered

Asked about a text that can be read, a request fails on nothing but its own numbers: if none of them
is negative it is attempted with success (`attempt_eq`), and the answer is `Request.answer`.
-/

namespace SchemaAssist

namespace Request

def checkedPosition (line character : Int) : Except Failure Position :=
  Failure.ofProblems (Position.check [] line character)

def problems : Request → List Problem
  | .symbols => []
  | .definition line character | .hover line character | .completion line character =>
    negativeProblems [.line] line ++ negativeProblems [.character] character

/-- No number of the request is negative; one for symbols has none. -/
def NonNegative : Request → Prop
  | .symbols => True
  | .definition line character | .hover line character | .completion line character =>
    0 ≤ line ∧ 0 ≤ character

instance (request : Request) : Decidable request.NonNegative :=
  match request with
  | .symbols => .isTrue trivial
  | .definition .. | .hover .. | .completion .. => inferInstanceAs (Decidable (_ ∧ _))

theorem check_eq (line character : Int) : Position.check [] line character =
    if 0 ≤ line ∧ 0 ≤ character then .ok ⟨line.toNat, character.toNat⟩
    else .error (negativeProblems [.line] line ++ negativeProblems [.character] character) := by
  rw [Position.check, List.nil_append, List.nil_append]
  split
  · next hnone =>
    obtain ⟨hline, hcharacter⟩ := List.append_eq_nil_iff.1 hnone
    rw [if_pos ⟨negativeProblems_eq_nil_iff.1 hline, negativeProblems_eq_nil_iff.1 hcharacter⟩]
  · next hsome =>
    rw [if_neg]
    rintro ⟨hline, hcharacter⟩
    exact hsome (by rw [negativeProblems_eq_nil_iff.2 hline,
      negativeProblems_eq_nil_iff.2 hcharacter, List.nil_append])

theorem checkedPosition_eq (line character : Int) : checkedPosition line character =
    if 0 ≤ line ∧ 0 ≤ character then .ok ⟨line.toNat, character.toNat⟩
    else .error (.invalid (negativeProblems [.line] line ++
      negativeProblems [.character] character)) := by
  rw [checkedPosition, check_eq, apply_ite Failure.ofProblems]
  rfl

theorem atCursor_some {α : Type} (text : Text) (line character : Int) (ask : Text → Position → α) :
    atCursor (some text) line character ask = (checkedPosition line character).map (ask text) := by
  rw [atCursor, checkedPosition]
  cases Failure.ofProblems (Position.check [] line character) <;> rfl

def answer (uri text : Text) : Request → Answer
  | .symbols => .symbols
      ((Block.scan (Text.trimmedLines text)).map (BlockSymbol.lineByLine (Text.lines text)))
  | .definition line character => .definition
      ((definitionRange? text ⟨line.toNat, character.toNat⟩).map (⟨uri, ·⟩))
  | .hover line character => .hover (hoverText? text ⟨line.toNat, character.toNat⟩)
  | .completion line character => .completion
      (some (Completion.items text ⟨line.toNat, character.toNat⟩))

section
variable (uri text : Text) (line character : Int)

theorem attempt_symbols : attempt uri (some text) .symbols = (outline text).map .symbols := by
  have hread : attempt uri (some text) .symbols = outline text >>= fun found =>
      pure (.symbols found) := rfl
  rw [hread]
  cases outline text <;> rfl

theorem attempt_definition : attempt uri (some text) (.definition line character) =
    (checkedPosition line character).map fun position =>
      .definition ((definitionRange? text position).map (⟨uri, ·⟩)) := by
  rw [attempt, atCursor_some]
  cases checkedPosition line character <;> rfl

theorem attempt_hover : attempt uri (some text) (.hover line character) =
    (checkedPosition line character).map fun position => .hover (hoverText? text position) := by
  rw [attempt, atCursor_some]
  cases checkedPosition line character <;> rfl

theorem attempt_completion : attempt uri (some text) (.completion line character) =
    (checkedPosition line character).map fun position =>
      .completion (some (Completion.items text position)) := by
  rw [attempt, atCursor_some]
  cases checkedPosition line character <;> rfl

theorem attempt_eq (request : Request) : request.attempt uri (some text) =
    if request.NonNegative then .ok (request.answer uri text)
    else .error (.invalid request.problems) := by
  cases request with
  | symbols =>
    rw [attempt_symbols, outline_eq]
    exact (if_pos trivial).symm
  | definition line character =>
    rw [attempt_definition, checkedPosition_eq, apply_ite (Except.map _)]
    rfl
  | hover line character =>
    rw [attempt_hover, checkedPosition_eq, apply_ite (Except.map _)]
    rfl
  | completion line character =>
    rw [attempt_completion, checkedPosition_eq, apply_ite (Except.map _)]
    rfl

theorem respond_eq (request : Request) : request.respond uri (some text) =
    if request.NonNegative then ⟨request.answer uri text, []⟩
    else ⟨request.emptyAnswer, [request.failureEntry (.invalid request.problems)]⟩ := by
  rw [respond, attempt_eq]
  by_cases h : request.NonNegative
  · rw [if_pos h, if_pos h]
  · rw [if_neg h, if_neg h]
    rfl

end

end Request
end SchemaAssist
