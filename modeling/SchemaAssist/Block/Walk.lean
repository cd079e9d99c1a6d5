import SchemaAssist.Block.Scan

/-!
# Walking through blocks one at a time

A walk is a scan that stops after each block and can be taken up again. Several walks through the
same lines share nothing: each holds its own place.
-/

namespace SchemaAssist

/-- What is left of a scan. Behind a block that a header has cut off, that header is open. -/
structure Walk where
  opened : Option Opening
  number : Nat
  above : Nat
  rest : List Text

namespace Walk

def start (lines : List Text) : Walk := ⟨none, 0, 0, lines⟩

/-- Reads up to the end of the next block; a walk at its end stays there. -/
def nextFrom (opened : Option Opening) (number above : Nat) : List Text → Option Block × Walk
  | [] => (none, ⟨opened, number, above, []⟩)
  | line :: rest =>
    match scanLine opened number above line with
    | (some block, left) => (some block, ⟨left, number + 1, line.length, rest⟩)
    | (none, left) => nextFrom left (number + 1) line.length rest

def next (walk : Walk) : Option Block × Walk :=
  nextFrom walk.opened walk.number walk.above walk.rest

def remaining (walk : Walk) : List Block :=
  scanFrom walk.opened walk.number walk.above walk.rest

theorem remaining_start (lines : List Text) : (start lines).remaining = Block.scan lines := rfl

theorem nextFrom_scanFrom (opened : Option Opening) (number above : Nat) (lines : List Text) :
    (nextFrom opened number above lines).1 = (scanFrom opened number above lines).head? ∧
      (nextFrom opened number above lines).2.remaining =
        (scanFrom opened number above lines).tail := by
  induction lines generalizing opened number above with
  | nil => exact ⟨rfl, rfl⟩
  | cons line rest ih =>
    rw [scanFrom, nextFrom]
    split
    · next block left h => rw [h]; exact ⟨rfl, rfl⟩
    · next left h => rw [h]; exact ih ..

theorem next_eq_head? (walk : Walk) : walk.next.1 = walk.remaining.head? :=
  (nextFrom_scanFrom ..).1

theorem remaining_next (walk : Walk) : walk.next.2.remaining = walk.remaining.tail :=
  (nextFrom_scanFrom ..).2

theorem length_rest_nextFrom_le (opened : Option Opening) (number above : Nat)
    (lines : List Text) : (nextFrom opened number above lines).2.rest.length ≤ lines.length - 1 := by
  induction lines generalizing opened number above with
  | nil => exact Nat.le_refl 0
  | cons line rest ih =>
    rw [nextFrom, List.length_cons, Nat.add_sub_cancel]
    split
    · exact Nat.le_refl rest.length
    · exact Nat.le_trans (ih ..) (Nat.sub_le ..)

theorem length_rest_lt {walk left : Walk} {block : Block} (h : walk.next = (some block, left)) :
    left.rest.length < walk.rest.length := by
  obtain ⟨opened, number, above, rest⟩ := walk
  cases rest with
  | nil => cases h
  | cons line rest =>
    have hle := length_rest_nextFrom_le opened number above (line :: rest)
    have hleft : (nextFrom opened number above (line :: rest)).2 = left := congrArg Prod.snd h
    rw [hleft] at hle
    exact Nat.lt_succ_of_le hle

def drain (walk : Walk) : List Block :=
  match hnext : walk.next with
  | (some block, left) =>
    have := length_rest_lt hnext
    block :: left.drain
  | (none, _) => []
termination_by walk.rest.length

/-- One step after the other gives what the scan gives in one pass. -/
theorem drain_eq_remaining (walk : Walk) : walk.drain = walk.remaining := by
  fun_induction drain walk with
  | case1 walk block left hnext hshorter ih =>
    have hhead := walk.next_eq_head?
    have htail := walk.remaining_next
    rw [hnext] at hhead htail
    obtain ⟨rest, hrest⟩ := List.head?_eq_some_iff.1 hhead.symm
    rw [ih, htail, hrest, List.tail_cons]
  | case2 walk left hnext =>
    have hhead := walk.next_eq_head?
    rw [hnext] at hhead
    exact (List.head?_eq_none_iff.1 hhead.symm).symm

end Walk

structure Walks where
  lines : List Text
  walks : List Walk

inductive WalkRequest where
  | start
  | listAll
  | advance (walk : Nat)
deriving DecidableEq

inductive WalkAnswer where
  | started (walk : Nat)
  | listed (blocks : List Block)
  | advanced (block : Option Block)
deriving DecidableEq

namespace Walks

def on (lines : List Text) : Walks := ⟨lines, []⟩

/-- One request. A walk that was never opened has no blocks. -/
def serve (walks : Walks) : WalkRequest → WalkAnswer × Walks
  | .start =>
    (.started walks.walks.length, { walks with walks := walks.walks ++ [.start walks.lines] })
  | .listAll => (.listed (Walk.start walks.lines).drain, walks)
  | .advance number =>
    match walks.walks[number]? with
    | none => (.advanced none, walks)
    | some walk =>
      (.advanced walk.next.1, { walks with walks := walks.walks.set number walk.next.2 })

def serveAll (walks : Walks) : List WalkRequest → List WalkAnswer
  | [] => []
  | request :: rest => (walks.serve request).1 :: (walks.serve request).2.serveAll rest

end Walks
end SchemaAssist
