import SchemaAssist.Text.Basic

/-!
# Asking an engine for native types

An engine is given the schema and a callback for its messages, and returns native types or fails. A
rejection is reported like a message and counts as "no native types"; any other failure is passed
on. The engine runs in a monad of the caller's choice. A script is an engine that behaves as it is
told; it runs over the record of an exchange.
-/

namespace SchemaAssist

inductive EngineFailure where
  | rejected (message : Text)
  | failed (message : Text)
deriving DecidableEq

abbrev Engine (m : Type → Type) (α : Type) :=
  Text → (Text → m Unit) → ExceptT EngineFailure m (List α)

/-- Whether the engine finds native types in a schema; `listener` hears of its messages and of its
rejection. -/
def declaresNativeTypes {m : Type → Type} [Monad m] {α : Type} (engine : Engine m α)
    (listener : Option (Text → m Unit)) (schema : Text) : ExceptT Text m Bool :=
  ExceptT.mk do
    let report := listener.getD fun _ => pure ()
    match ← (engine schema report).run with
    | .ok types => return .ok !types.isEmpty
    | .error (.rejected message) => report message; return .ok false
    | .error (.failed message) => return .error message

structure Exchange where
  asked : List Text
  heard : List Text
deriving DecidableEq

namespace Exchange

def ask (schema : Text) : StateM Exchange Unit :=
  modify fun exchange => { exchange with asked := exchange.asked ++ [schema] }

def hear (message : Text) : StateM Exchange Unit :=
  modify fun exchange => { exchange with heard := exchange.heard ++ [message] }

end Exchange

structure EngineScript (α : Type) where
  messages : List Text
  ending : Except EngineFailure (List α)

namespace EngineScript

def engine {α : Type} (script : EngineScript α) : Engine (StateM Exchange) α :=
  fun schema report => ExceptT.mk do
    Exchange.ask schema
    script.messages.forM report
    return script.ending

def exchange {α : Type} (script : EngineScript α) (listening : Bool) (schema : Text) :
    Except Text Bool × Exchange :=
  let listener := if listening then some Exchange.hear else none
  Id.run ((declaresNativeTypes script.engine listener schema).run.run ⟨[], []⟩)

end EngineScript
end SchemaAssist
