import SchemaAssist.Editor.Session
import SchemaAssist.Proofs.Editor.Responses

/-!
# Documents of a session do not touch each other

A step changes the text of a document only if it opens, changes or closes that document, so the text
that a request is answered from is the last one that its own document was given
(`text?_behind_empty_eq_some_iff`). The result of a request depends on that text alone: not on other
documents, on earlier requests, failed ones included, or on greetings (`requests_isolated`).
-/

namespace SchemaAssist

-- ---------------------------------------------------------------------------
-- Steps and the text of one document
-- ---------------------------------------------------------------------------

namespace SessionStep
variable {uri : Text} {text : Option Text}

def Edits (uri : Text) : SessionStep → Prop
  | .opening edited _ | .change edited _ | .close edited => edited = uri
  | .greet _ | .ask .. => False

def Writes (uri text : Text) (step : SessionStep) : Prop :=
  step = .opening uri text ∨ step = .change uri text

def textBehind (uri : Text) (text : Option Text) : SessionStep → Option Text
  | .opening edited new | .change edited new => if uri = edited then some new else text
  | .close edited => if uri = edited then none else text
  | .greet _ | .ask .. => text

theorem textBehind_of_not_edits {step : SessionStep} (h : ¬ step.Edits uri) :
    step.textBehind uri text = text := by
  cases step with
  | greet | ask => rfl
  | opening edited | change edited | close edited => exact if_neg fun heq => h heq.symm

theorem textBehind_of_edits {step : SessionStep} (h : step.Edits uri) {new : Text} :
    step.textBehind uri text = some new ↔ step.Writes uri new := by
  cases step with
  | greet | ask => cases h
  | opening edited | change edited | close edited =>
    obtain rfl : edited = uri := h
    simp [textBehind, Writes]

theorem Writes.edits {step : SessionStep} {new : Text} (h : step.Writes uri new) :
    step.Edits uri := by
  rcases h with rfl | rfl
  · rfl
  · rfl

end SessionStep

namespace Session
open SessionStep

theorem text?_step (session : Session) (step : SessionStep) (uri : Text) :
    (session.step step).2.text? uri = step.textBehind uri (session.text? uri) := by
  cases step with
  | greet | ask => rfl
  | opening edited text | change edited text => exact session.text?_put edited text uri
  | close edited => exact session.text?_erase edited uri

-- ---------------------------------------------------------------------------
-- Several steps
-- ---------------------------------------------------------------------------

def behind (session : Session) (steps : List SessionStep) : Session :=
  steps.foldl (fun session step => (session.step step).2) session

theorem getElem?_run (session : Session) (before after : List SessionStep) (step : SessionStep) :
    (session.run (before ++ step :: after))[before.length]? =
      some ((session.behind before).step step).1 := by
  induction before generalizing session with
  | nil => rfl
  | cons first before ih => exact ih (session.step first).2

theorem text?_behind (session : Session) (steps : List SessionStep) (uri : Text) :
    (session.behind steps).text? uri = steps.foldl (textBehind uri) (session.text? uri) := by
  induction steps generalizing session with
  | nil => rfl
  | cons step rest ih =>
    rw [List.foldl_cons, ← text?_step]
    exact ih (session.step step).2

/-- The last of the steps that edit the document gives it that text. -/
def Latest (uri text : Text) (steps : List SessionStep) : Prop :=
  ∃ before step after, steps = before ++ step :: after ∧ step.Writes uri text ∧
    ∀ later ∈ after, ¬ later.Edits uri

theorem latest_cons_iff {uri text : Text} {step : SessionStep} {rest : List SessionStep} :
    Latest uri text (step :: rest) ↔
      Latest uri text rest ∨ (step.Writes uri text ∧ ∀ later ∈ rest, ¬ later.Edits uri) := by
  constructor
  · rintro ⟨before, written, after, hsteps, hwrites, hafter⟩
    rcases List.cons_eq_append_iff.1 hsteps with ⟨rfl, hhere⟩ | ⟨before, rfl, hrest⟩
    · obtain ⟨rfl, rfl⟩ := List.cons.inj hhere
      exact .inr ⟨hwrites, hafter⟩
    · exact .inl ⟨before, written, after, hrest, hwrites, hafter⟩
  · rintro (⟨before, written, after, rfl, hwrites, hafter⟩ | ⟨hwrites, hrest⟩)
    · exact ⟨step :: before, written, after, rfl, hwrites, hafter⟩
    · exact ⟨[], step, rest, rfl, hwrites, hrest⟩

/-- A document has the text that it was given last, or the one that it had if it was not edited. -/
theorem foldl_textBehind_eq_some_iff {uri new : Text} {text : Option Text}
    {steps : List SessionStep} :
    steps.foldl (textBehind uri) text = some new ↔
      Latest uri new steps ∨ (text = some new ∧ ∀ step ∈ steps, ¬ step.Edits uri) := by
  induction steps generalizing text with
  | nil => simp [Latest]
  | cons step rest ih =>
    rw [List.foldl_cons, ih, latest_cons_iff, List.forall_mem_cons]
    by_cases hedits : step.Edits uri
    · rw [textBehind_of_edits hedits]
      simp [hedits]
    · have hwrites : ¬ step.Writes uri new := fun h => hedits h.edits
      rw [textBehind_of_not_edits hedits]
      simp [hedits, hwrites]

theorem text?_behind_empty_eq_some_iff {uri text : Text} {steps : List SessionStep} :
    (empty.behind steps).text? uri = some text ↔ Latest uri text steps := by
  rw [text?_behind, foldl_textBehind_eq_some_iff]
  simp [text?, empty]

-- ---------------------------------------------------------------------------
-- Leaving out steps
-- ---------------------------------------------------------------------------

/-- Some of the steps are left out, and none of these edits the document. -/
inductive Thinned (uri : Text) : List SessionStep → List SessionStep → Prop where
  | nil : Thinned uri [] []
  | keep {step : SessionStep} {steps kept : List SessionStep} (rest : Thinned uri steps kept) :
    Thinned uri (step :: steps) (step :: kept)
  | drop {step : SessionStep} {steps kept : List SessionStep} (foreign : ¬ step.Edits uri)
    (rest : Thinned uri steps kept) : Thinned uri (step :: steps) kept

theorem Thinned.foldl_textBehind {uri : Text} {steps kept : List SessionStep}
    (h : Thinned uri steps kept) (text : Option Text) :
    kept.foldl (textBehind uri) text = steps.foldl (textBehind uri) text := by
  induction h generalizing text with
  | nil => rfl
  | keep _ ih => exact ih _
  | drop foreign _ ih => rw [List.foldl_cons, textBehind_of_not_edits foreign, ih]

end Session

-- ---------------------------------------------------------------------------
-- Requests
-- ---------------------------------------------------------------------------

namespace Request
variable {uri : Text} {request : Request} {location : Location}

/-- The result of a request about a document, without a session around it. -/
def result (uri : Text) (source : Option Text) (request : Request) : StepResult :=
  ⟨some (request.respond uri source).answer, (request.respond uri source).log⟩

theorem emptyAnswer_ne_definition : request.emptyAnswer ≠ .definition (some location) := by
  cases request <;> simp [emptyAnswer]

theorem uri_of_answer {text : Text} (h : request.answer uri text = .definition (some location)) :
    location.uri = uri := by
  cases request with
  | symbols | hover | completion => cases h
  | definition line character =>
    obtain ⟨range, -, rfl⟩ := Option.map_eq_some_iff.1 (Answer.definition.inj h)
    rfl

theorem uri_of_result {source : Option Text}
    (h : (request.result uri source).answer = some (.definition (some location))) :
    location.uri = uri := by
  have hanswer : (request.respond uri source).answer = .definition (some location) :=
    Option.some.inj h
  cases source with
  | none =>
    have hempty : (request.respond uri none).answer = request.emptyAnswer := by cases request <;> rfl
    exact absurd (hempty.symm.trans hanswer) emptyAnswer_ne_definition
  | some text =>
    rw [respond_eq] at hanswer
    split at hanswer
    · exact uri_of_answer hanswer
    · exact absurd hanswer emptyAnswer_ne_definition

end Request

open Session

/-- A request about an open document, wherever it stands in a session, has the result that it has on
its own for the text that the document was given last. Leaving out steps before it that do not edit
this document changes nothing, whatever follows, and a location in the answer lies in the
document. -/
theorem requests_isolated (before after : List SessionStep) (uri : Text) (request : Request) :
    let result := (empty.run (before ++ .ask uri request :: after))[before.length]?
    (∀ text, Latest uri text before → result = some (request.result uri (some text))) ∧
    (∀ thinned rest, Thinned uri before thinned →
      (empty.run (thinned ++ .ask uri request :: rest))[thinned.length]? = result) ∧
    (∀ stepResult ∈ result, ∀ location,
      stepResult.answer = some (.definition (some location)) → location.uri = uri) := by
  intro result
  have hresult : ∀ lead tail : List SessionStep,
      (empty.run (lead ++ .ask uri request :: tail))[lead.length]? =
        some (request.result uri ((empty.behind lead).text? uri)) :=
    fun lead tail => getElem?_run empty lead tail (.ask uri request)
  refine ⟨?_, ?_, ?_⟩
  · intro text hlatest
    rw [show result = _ from hresult before after, text?_behind_empty_eq_some_iff.2 hlatest]
  · intro thinned rest hthinned
    rw [show result = _ from hresult before after, hresult, text?_behind, text?_behind,
      hthinned.foldl_textBehind]
  · intro stepResult hstep location hlocation
    rw [show result = _ from hresult before after, Option.mem_some_iff] at hstep
    subst hstep
    exact Request.uri_of_result hlocation

/-- A definition in a changed document, with a failed request and another document's whole life
before it, and the same definition without these. -/
theorem definition_behind_other_document :
    let uri := "file:///a".toList
    let other := "file:///b".toList
    let text := "model A \x7b\n\x7d".toList
    let before : List SessionStep := [.opening uri "enum E \x7b\n\x7d".toList, .greet none,
      .opening other "model A \x7b\n\x7d\nview A \x7b\n\x7d".toList, .change uri text,
      .ask other (.hover (-1) 0), .close other]
    let kept : List SessionStep := [.opening uri "enum E \x7b\n\x7d".toList, .change uri text]
    let location : Location := ⟨uri, Range.onLine 0 6 7⟩
    let answered : Option StepResult := some ⟨some (.definition (some location)), []⟩
    Latest uri text before ∧ Thinned uri before kept ∧
      (empty.run (before ++ [.ask uri (.definition 0 7)]))[6]? = answered ∧
      (empty.run (kept ++ [.ask uri (.definition 0 7)]))[2]? = answered ∧ location.uri = uri := by
  intro uri other text before kept location answered
  have hforeign : other ≠ uri := by decide
  have hlatest : Latest uri text before :=
    ⟨before.take 3, .change uri text, before.drop 4, rfl, .inr rfl, by
      simp [before, SessionStep.Edits, hforeign]⟩
  have hthinned : Thinned uri before kept :=
    .keep (.drop id (.drop hforeign (.keep (.drop id (.drop hforeign .nil)))))
  obtain ⟨halone, hthin, hlocation⟩ := requests_isolated before [] uri (.definition 0 7)
  have hresult : (empty.run (before ++ [.ask uri (.definition 0 7)]))[6]? = answered :=
    (halone text hlatest).trans (by decide +kernel)
  exact ⟨hlatest, hthinned, hresult, (hthin kept [] hthinned).trans hresult,
    hlocation _ hresult location rfl⟩

end SchemaAssist
