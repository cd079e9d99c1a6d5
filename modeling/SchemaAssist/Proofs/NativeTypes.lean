import SchemaAssist.NativeTypes

/-!
# What passes between an engine and a listener

In any monad, asking a scripted engine comes to this: the engine gets the schema, the listener hears
the messages of the script and then its rejection, and the ending decides the answer
(`declaresNativeTypes_engineIn`). Over the record of an exchange this says which texts arrive, in
which order and how often (`messages_forwarded_in_order`).
-/

namespace SchemaAssist

namespace EngineScript

variable {α : Type}

def rejection? (script : EngineScript α) : Option Text :=
  match script.ending with
  | .error (.rejected message) => some message
  | _ => none

def answer (script : EngineScript α) : Except Text Bool :=
  match script.ending with
  | .ok types => .ok !types.isEmpty
  | .error (.rejected _) => .ok false
  | .error (.failed message) => .error message

theorem rejection?_eq_some_iff {script : EngineScript α} {message : Text} :
    script.rejection? = some message ↔ script.ending = .error (.rejected message) := by
  unfold rejection?
  split <;> simp_all

theorem answer_eq_true_iff {script : EngineScript α} :
    script.answer = .ok true ↔ ∃ types, script.ending = .ok types ∧ types ≠ [] := by
  unfold answer
  split <;> simp_all

theorem answer_eq_false_iff {script : EngineScript α} :
    script.answer = .ok false ↔
      script.ending = .ok [] ∨ ∃ message, script.ending = .error (.rejected message) := by
  unfold answer
  split <;> simp_all

theorem answer_eq_error_iff {script : EngineScript α} {message : Text} :
    script.answer = .error message ↔ script.ending = .error (.failed message) := by
  unfold answer
  split <;> simp_all

section
variable {m : Type → Type} [Monad m]

/-- The scripted engine in a monad of the caller's choice; `note` is what it does with the schema
that it gets. -/
def engineIn (script : EngineScript α) (note : Text → m Unit) : Engine m α :=
  fun schema report => ExceptT.mk do
    note schema
    script.messages.forM report
    return script.ending

/-- Whatever the listener does with a message, it is called for the messages in their order, and
once more for a rejection. -/
theorem declaresNativeTypes_engineIn [LawfulMonad m] (script : EngineScript α)
    (note : Text → m Unit) (listener : Option (Text → m Unit)) (schema : Text) :
    declaresNativeTypes (script.engineIn note) listener schema = ExceptT.mk do
      note schema
      (script.messages ++ script.rejection?.toList).forM (listener.getD fun _ => pure ())
      return script.answer := by
  obtain ⟨messages, ending⟩ := script
  cases ending with
  | ok types => simp [declaresNativeTypes, engineIn, rejection?, answer]
  | error failure =>
    cases failure <;> simp [declaresNativeTypes, engineIn, rejection?, answer]

end

theorem forM_hear_run (messages : List Text) (record : Exchange) :
    (messages.forM Exchange.hear).run record =
      ((), { record with heard := record.heard ++ messages }) := by
  induction messages generalizing record with
  | nil => rw [List.append_nil]; rfl
  | cons message messages ih =>
    have hstep : ((message :: messages).forM Exchange.hear).run record =
        (messages.forM Exchange.hear).run
          { record with heard := record.heard ++ [message] } := rfl
    rw [hstep, ih, List.append_assoc, List.singleton_append]

theorem forM_ignore_run (messages : List Text) (record : Exchange) :
    (messages.forM fun _ => (pure () : StateM Exchange Unit)).run record = ((), record) := by
  induction messages with
  | nil => rfl
  | cons message messages ih => exact ih

theorem run_listened (script : EngineScript α) {listener : Text → StateM Exchange Unit}
    {schema : Text} {record : Exchange}
    (h : ((script.messages ++ script.rejection?.toList).forM listener).run ⟨[schema], []⟩ =
      ((), record)) :
    Id.run ((ExceptT.mk do
      Exchange.ask schema
      (script.messages ++ script.rejection?.toList).forM listener
      return script.answer).run.run ⟨[], []⟩) = (script.answer, record) := by
  calc _
    _ = Id.run ((((script.messages ++ script.rejection?.toList).forM listener) >>=
          fun _ => (pure script.answer : StateM Exchange _)).run ⟨[schema], []⟩) := rfl
    _ = (script.answer, record) := by rw [StateT.run_bind, h]; rfl

theorem exchange_eq (script : EngineScript α) (listening : Bool) (schema : Text) :
    script.exchange listening schema =
      (script.answer,
        ⟨[schema], if listening then script.messages ++ script.rejection?.toList else []⟩) := by
  rw [exchange, show script.engine = script.engineIn Exchange.ask from rfl,
    declaresNativeTypes_engineIn]
  cases listening with
  | false => exact script.run_listened (forM_ignore_run _ _)
  | true => exact script.run_listened (forM_hear_run _ _)

/-- A scripted engine gets the schema as it is, and once. A listener hears the messages in their
order, and behind them the message of a rejection if the engine ends in one; without a listener
nothing is heard. The answer is yes for native types and no for none or for a rejection; any other
failure comes out with its message, when all messages have been heard. -/
theorem messages_forwarded_in_order (script : EngineScript α) (listening : Bool) (schema : Text) :
    let (answer, record) := script.exchange listening schema
    record.asked = [schema] ∧
    (∃ added, record.heard = (if listening then script.messages ++ added else []) ∧
      added.length ≤ 1 ∧
      ∀ message, message ∈ added ↔ script.ending = .error (.rejected message)) ∧
    (answer = .ok true ↔ ∃ types, script.ending = .ok types ∧ types ≠ []) ∧
    (answer = .ok false ↔
      script.ending = .ok [] ∨ ∃ message, script.ending = .error (.rejected message)) ∧
    ∀ message, answer = .error message ↔ script.ending = .error (.failed message) := by
  rw [exchange_eq]
  refine ⟨rfl, ⟨script.rejection?.toList, rfl, Option.length_toList_le, fun message => ?_⟩,
    answer_eq_true_iff, answer_eq_false_iff, fun message => answer_eq_error_iff⟩
  rw [Option.mem_toList, rejection?_eq_some_iff]

end EngineScript
end SchemaAssist
