import SchemaAssist.Block.Walk

/-!
# Several walks through the same lines

Walks are opened and advanced in any order, and the blocks are listed in between. Each walk gives
the blocks of the scan one by one, and nothing behind the last: the answer to an advance depends on
how often that walk was advanced before, and on nothing else (`serveAll_answers`).
-/

namespace SchemaAssist

-- ---------------------------------------------------------------------------
-- Schedules and their answers
-- ---------------------------------------------------------------------------

namespace WalkRequest

/-- A walk is advanced only after its opening; that many are open at the start. -/
def ScheduledFrom (opened : Nat) : List WalkRequest → Prop
  | [] => True
  | .start :: rest => ScheduledFrom (opened + 1) rest
  | .listAll :: rest => ScheduledFrom opened rest
  | .advance number :: rest => number < opened ∧ ScheduledFrom opened rest

instance decidableScheduledFrom : (opened : Nat) → (requests : List WalkRequest) →
    Decidable (ScheduledFrom opened requests)
  | _, [] => .isTrue trivial
  | opened, .start :: rest => decidableScheduledFrom (opened + 1) rest
  | opened, .listAll :: rest => decidableScheduledFrom opened rest
  | opened, .advance number :: rest =>
    have := decidableScheduledFrom opened rest
    inferInstanceAs (Decidable (number < opened ∧ ScheduledFrom opened rest))

def openings (requests : List WalkRequest) : Nat := requests.count .start

def advances (number : Nat) (requests : List WalkRequest) : Nat :=
  requests.count (.advance number)

theorem advances_append_of_ne {number : Nat} {request : WalkRequest}
    (h : request ≠ .advance number) (before : List WalkRequest) :
    advances number (before ++ [request]) = advances number before := by
  simp [advances, h]

theorem advances_append_advance (number : Nat) (before : List WalkRequest) :
    advances number (before ++ [.advance number]) = advances number before + 1 := by
  simp [advances]

/-- What a request is answered behind other ones. A new walk has the next number, a list holds all
blocks, and an advance gives the block that has as many before it as the walk has given. -/
def answerAfter (lines : List Text) (before : List WalkRequest) : WalkRequest → WalkAnswer
  | .start => .started (openings before)
  | .listAll => .listed (Block.scan lines)
  | .advance number => .advanced (Block.scan lines)[advances number before]?

end WalkRequest

-- ---------------------------------------------------------------------------
-- One request
-- ---------------------------------------------------------------------------

namespace Walks
open WalkRequest

/-- The walks that some requests leave: each has come as far as it was advanced. -/
structure Behind (lines : List Text) (before : List WalkRequest) (walks : Walks) : Prop where
  lines_eq : walks.lines = lines
  length_walks : walks.walks.length = openings before
  remaining_eq : ∀ {number : Nat} {walk : Walk}, walks.walks[number]? = some walk →
    walk.remaining = (Block.scan lines).drop (advances number before)
  not_advanced : ∀ {number : Nat}, walks.walks.length ≤ number → advances number before = 0

theorem behind_on (lines : List Text) : Behind lines [] (on lines) where
  lines_eq := rfl
  length_walks := rfl
  remaining_eq h := by cases h
  not_advanced _ := rfl

namespace Behind
variable {lines : List Text} {before : List WalkRequest} {walks : Walks}

theorem start (h : Behind lines before walks) :
    Behind lines (before ++ [.start]) (walks.serve .start).2 where
  lines_eq := h.lines_eq
  length_walks := by simp [serve, openings, h.length_walks]
  remaining_eq := by
    intro number walk hwalk
    rw [advances_append_of_ne (by simp)]
    rcases Nat.lt_or_ge number walks.walks.length with hold | hnew
    · exact h.remaining_eq (List.getElem?_append_left hold ▸ hwalk)
    · -- The new walk has all blocks before it, and nothing has advanced it yet.
      obtain rfl : Walk.start walks.lines = walk := by
        have hsingle := List.getElem?_append_right hnew ▸ hwalk
        cases hplace : number - walks.walks.length with
        | zero => simpa [hplace] using hsingle
        | succ place => simp [hplace] at hsingle
      rw [h.not_advanced hnew, h.lines_eq, Walk.remaining_start, List.drop_zero]
  not_advanced := by
    intro number hnumber
    rw [advances_append_of_ne (by simp)]
    simp only [serve, List.length_append, List.length_singleton] at hnumber
    exact h.not_advanced (Nat.le_of_succ_le hnumber)

theorem listAll (h : Behind lines before walks) :
    Behind lines (before ++ [.listAll]) (walks.serve .listAll).2 where
  lines_eq := h.lines_eq
  length_walks := by simpa [serve, openings] using h.length_walks
  remaining_eq := by
    intro number walk hwalk
    rw [advances_append_of_ne (by simp)]
    exact h.remaining_eq hwalk
  not_advanced := by
    intro number hnumber
    rw [advances_append_of_ne (by simp)]
    exact h.not_advanced hnumber

theorem serve_advance {number : Nat} {walk : Walk} (hwalk : walks.walks[number]? = some walk) :
    walks.serve (.advance number) =
      (.advanced walk.next.1, { walks with walks := walks.walks.set number walk.next.2 }) := by
  simp only [serve, hwalk]

theorem advance (h : Behind lines before walks) {number : Nat} {walk : Walk}
    (hwalk : walks.walks[number]? = some walk) :
    Behind lines (before ++ [.advance number]) (walks.serve (.advance number)).2 := by
  rw [serve_advance hwalk]
  have hopen : number < walks.walks.length := (List.getElem?_eq_some_iff.1 hwalk).1
  refine ⟨h.lines_eq, ?_, ?_, ?_⟩
  · simpa [openings] using h.length_walks
  · intro other left hleft
    by_cases heq : number = other
    · subst heq
      obtain rfl : walk.next.2 = left := by simpa [hopen] using hleft
      rw [Walk.remaining_next, h.remaining_eq hwalk, List.tail_drop, advances_append_advance]
    · rw [advances_append_of_ne (by simpa using heq)]
      exact h.remaining_eq (List.getElem?_set_ne heq ▸ hleft)
  · intro other hother
    rw [List.length_set] at hother
    have hne : number ≠ other := Nat.ne_of_lt (Nat.lt_of_lt_of_le hopen hother)
    rw [advances_append_of_ne (by simpa using hne)]
    exact h.not_advanced hother

/-- A request is answered as its place in the schedule has it, and the others still are. -/
theorem step (h : Behind lines before walks) {request : WalkRequest} {rest : List WalkRequest}
    (hschedule : ScheduledFrom walks.walks.length (request :: rest)) :
    (walks.serve request).1 = request.answerAfter lines before ∧
      Behind lines (before ++ [request]) (walks.serve request).2 ∧
      ScheduledFrom (walks.serve request).2.walks.length rest := by
  cases request with
  | start =>
    refine ⟨congrArg WalkAnswer.started h.length_walks, h.start, ?_⟩
    rw [show (walks.serve .start).2.walks.length = walks.walks.length + 1 by simp [serve]]
    exact hschedule
  | listAll =>
    refine ⟨congrArg WalkAnswer.listed ?_, h.listAll, hschedule⟩
    rw [Walk.drain_eq_remaining, Walk.remaining_start, h.lines_eq]
  | advance number =>
    obtain ⟨hopen, hrest⟩ := hschedule
    have hwalk := List.getElem?_eq_getElem hopen
    refine ⟨?_, h.advance hwalk, ?_⟩
    · rw [serve_advance hwalk, Walk.next_eq_head?, h.remaining_eq hwalk, List.head?_drop]
      rfl
    · rw [serve_advance hwalk, List.length_set]
      exact hrest

-- ---------------------------------------------------------------------------
-- All requests
-- ---------------------------------------------------------------------------

theorem getElem?_serveAll (h : Behind lines before walks) {lead tail : List WalkRequest}
    {request : WalkRequest}
    (hschedule : ScheduledFrom walks.walks.length (lead ++ request :: tail)) :
    (walks.serveAll (lead ++ request :: tail))[lead.length]? =
      some (request.answerAfter lines (before ++ lead)) := by
  induction lead generalizing before walks with
  | nil =>
    rw [List.append_nil, ← (h.step hschedule).1]
    rfl
  | cons first lead ih =>
    obtain ⟨-, hbehind, hrest⟩ := h.step hschedule
    have hlater := ih hbehind hrest
    rw [List.append_assoc, List.singleton_append] at hlater
    exact hlater

end Behind

theorem length_serveAll (walks : Walks) (requests : List WalkRequest) :
    (walks.serveAll requests).length = requests.length := by
  induction requests generalizing walks with
  | nil => rfl
  | cons request rest ih => exact congrArg Nat.succ (ih _)

/-- Every request of a schedule is answered, and as if the other walks were not there: the k-th
advance of a walk gives the k-th block of the scan, and nothing if there are fewer blocks. -/
theorem serveAll_answers (lines : List Text) (requests : List WalkRequest)
    (hschedule : ScheduledFrom 0 requests) :
    ((on lines).serveAll requests).length = requests.length ∧
    ∀ before request after, requests = before ++ request :: after →
      ((on lines).serveAll requests)[before.length]? =
        some (request.answerAfter lines before) := by
  refine ⟨length_serveAll _ requests, ?_⟩
  rintro before request after rfl
  exact (behind_on lines).getElem?_serveAll hschedule

/-- The first walk goes on behind a block that was cut off, after another walk has overtaken it;
that one is at its end and stays there. -/
theorem overtaken_walk_answers :
    let lines := ["model A \x7b".toList, "enum B \x7b".toList, "\x7d".toList, "type C \x7b".toList]
    let requests : List WalkRequest := [.start, .advance 0, .start, .listAll, .advance 1, .advance 1,
      .advance 1, .advance 0, .advance 1]
    let blocks : List Block := [⟨.model, ⟨⟨0, 0⟩, ⟨0, 9⟩⟩, Range.onLine 0 6 7, ['A']⟩,
      ⟨.enum, ⟨⟨1, 0⟩, ⟨2, 1⟩⟩, Range.onLine 1 5 6, ['B']⟩]
    ScheduledFrom 0 requests ∧
      ((on lines).serveAll requests)[3]? = some (.listed blocks) ∧
      ((on lines).serveAll requests)[7]? = some (.advanced blocks[1]?) ∧
      ((on lines).serveAll requests)[8]? = some (.advanced none) := by
  intro lines requests blocks
  have hschedule : ScheduledFrom 0 requests := by decide
  obtain ⟨-, hanswers⟩ := serveAll_answers lines requests hschedule
  have hscan : Block.scan lines = blocks := by decide
  refine ⟨hschedule, ?_, ?_, ?_⟩
  · rw [← hscan]
    exact hanswers (requests.take 3) .listAll (requests.drop 4) rfl
  · rw [← hscan]
    exact hanswers (requests.take 7) (.advance 0) (requests.drop 8) rfl
  · have hlast := hanswers (requests.take 8) (.advance 1) [] rfl
    rw [WalkRequest.answerAfter, hscan] at hlast
    exact hlast

end Walks
end SchemaAssist
