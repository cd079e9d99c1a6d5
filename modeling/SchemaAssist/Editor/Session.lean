import SchemaAssist.Editor.Request

/-!
# Sessions

A session holds the text of each open document under its uri. A change replaces the whole text. A
request is answered from the text of its own document alone.
-/

namespace SchemaAssist

structure Session where
  documents : List (Text × Text)
deriving DecidableEq

inductive SessionStep where
  | greet (client : Option Text)
  | opening (uri text : Text)
  | change (uri text : Text)
  | close (uri : Text)
  | ask (uri : Text) (request : Request)
deriving DecidableEq

structure StepResult where
  answer : Option Answer
  log : List LogEntry
deriving DecidableEq

namespace Session

def empty : Session := ⟨[]⟩

def text? (session : Session) (uri : Text) : Option Text := session.documents.lookup uri

def erase (session : Session) (uri : Text) : Session :=
  ⟨session.documents.filter (·.1 ≠ uri)⟩

def put (session : Session) (uri text : Text) : Session :=
  ⟨(uri, text) :: (session.erase uri).documents⟩

def logged (severity : Severity) (message : Text) : StepResult := ⟨none, [⟨severity, message⟩]⟩

def step (session : Session) : SessionStep → StepResult × Session
  | .greet client =>
    (logged .info ("Initializing for ".toList ++ client.getD "unknown client".toList), session)
  | .opening uri text => (logged .info ("Opened: ".toList ++ uri), session.put uri text)
  | .change uri text => (logged .debug ("Changed: ".toList ++ uri), session.put uri text)
  | .close uri => (logged .info ("Closed: ".toList ++ uri), session.erase uri)
  | .ask uri request =>
    let response := request.respond uri (session.text? uri)
    (⟨some response.answer, response.log⟩, session)

def run (session : Session) : List SessionStep → List StepResult
  | [] => []
  | step :: rest => (session.step step).1 :: (session.step step).2.run rest

theorem text?_erase (session : Session) (uri other : Text) :
    (session.erase uri).text? other = if other = uri then none else session.text? other := by
  obtain ⟨documents⟩ := session
  simp only [text?, erase]
  induction documents with
  | nil => simp
  | cons entry rest ih =>
    obtain ⟨key, text⟩ := entry
    by_cases hk : key = uri
    · subst hk
      by_cases ho : other = key
      · simpa [ho] using ih
      · simpa [ho, List.lookup_cons, beq_false_of_ne ho] using ih
    · by_cases ho : other = key
      · subst ho; simp [hk]
      · simpa [hk, ho, List.lookup_cons, beq_false_of_ne ho] using ih

theorem text?_put (session : Session) (uri text other : Text) :
    (session.put uri text).text? other =
      if other = uri then some text else session.text? other := by
  by_cases h : other = uri
  · simp [text?, put, h]
  · have := text?_erase session uri other
    simp only [text?, put, List.lookup_cons, h, beq_false_of_ne h] at this ⊢
    simpa using this

end Session
end SchemaAssist
