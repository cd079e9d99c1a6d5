import SchemaAssist.Proofs.Block.Validity
import SchemaAssist.Proofs.Lists.Ordered

/-!
# What is reported of a draft

A block is built from a draft exactly if the draft is sound, and otherwise every constraint that the
draft violates is reported, once and in the order of its parts (`builders_accept_sound_and_report`).
What is violated is said without the checks (`Violates`); that a draft without violations is sound
shows that nothing is left out.
-/

namespace SchemaAssist

-- ---------------------------------------------------------------------------
-- The order of problems
-- ---------------------------------------------------------------------------

def Part.place : Part → Nat
  | .line | .start | .kind => 0
  | .character | .stop | .range => 1
  | .nameRange => 2
  | .name => 3

def Problem.Before (problem other : Problem) : Prop :=
  problem.path.map Part.place < other.path.map Part.place

namespace BlockDraft

-- ---------------------------------------------------------------------------
-- Sound drafts
-- ---------------------------------------------------------------------------

/-- All four parts are there, the kind is one of the six, both ranges are sound, the name lies
inside the block, and it is not empty. -/
structure Sound (draft : BlockDraft) : Prop where
  kind : ∃ kind : Kind, draft.kind = some kind.keyword
  range : ∃ corners, draft.range = some corners ∧ corners.Sound
  nameRange : ∃ corners, draft.nameRange = some corners ∧ corners.Sound
  inside : ∀ outer ∈ draft.range, ∀ inner ∈ draft.nameRange, outer.Contains inner
  name : ∃ name, draft.name = some name ∧ name ≠ []

/-- What is wrong with a draft. The place of the name is wrong only between two sound ranges. -/
inductive Violates (draft : BlockDraft) : Problem → Prop
  | kindMissing (missing : draft.kind = none) : Violates draft ⟨[.kind], .missing⟩
  | kindUnknown {word : Text} (given : draft.kind = some word)
      (unknown : ∀ kind : Kind, word ≠ kind.keyword) : Violates draft ⟨[.kind], .unknownKind⟩
  | rangeMissing (missing : draft.range = none) : Violates draft ⟨[.range], .missing⟩
  | inRange {corners : Corners} {problem : Problem} (given : draft.range = some corners)
      (wrong : corners.Violates [.range] problem) : Violates draft problem
  | nameRangeMissing (missing : draft.nameRange = none) : Violates draft ⟨[.nameRange], .missing⟩
  | inNameRange {corners : Corners} {problem : Problem} (given : draft.nameRange = some corners)
      (wrong : corners.Violates [.nameRange] problem) : Violates draft problem
  | outside {outer inner : Corners} (range : draft.range = some outer) (range_sound : outer.Sound)
      (nameRange : draft.nameRange = some inner) (nameRange_sound : inner.Sound)
      (outside : ¬ outer.Contains inner) : Violates draft ⟨[.nameRange], .nameOutside⟩
  | nameMissing (missing : draft.name = none) : Violates draft ⟨[.name], .missing⟩
  | nameEmpty (empty : draft.name = some []) : Violates draft ⟨[.name], .emptyName⟩

/-- The problems are the violations of the draft, in the order of its parts. -/
structure Reports (draft : BlockDraft) (problems : List Problem) : Prop where
  mem_iff : ∀ problem, problem ∈ problems ↔ draft.Violates problem
  ordered : problems.Pairwise Problem.Before

variable {draft : BlockDraft} {problem : Problem}

/-- Nothing that makes a draft unsound is missing from the violations. -/
theorem sound_of_not_violates (h : ∀ problem, ¬ draft.Violates problem) : draft.Sound := by
  have hrange : ∀ corners, draft.range = some corners → corners.Sound := fun corners given =>
    Corners.sound_of_not_violates fun _ wrong => h _ (.inRange given wrong)
  have hnameRange : ∀ corners, draft.nameRange = some corners → corners.Sound :=
    fun corners given => Corners.sound_of_not_violates fun _ wrong => h _ (.inNameRange given wrong)
  refine ⟨?kind, ?range, ?nameRange, ?inside, ?name⟩
  case kind =>
    cases hkind : draft.kind with
    | none => exact absurd (.kindMissing hkind) (h _)
    | some word =>
      by_contra hunknown
      exact h _ (.kindUnknown hkind fun kind heq => hunknown ⟨kind, by rw [heq]⟩)
  case range =>
    cases hgiven : draft.range with
    | none => exact absurd (.rangeMissing hgiven) (h _)
    | some corners => exact ⟨corners, rfl, hrange corners hgiven⟩
  case nameRange =>
    cases hgiven : draft.nameRange with
    | none => exact absurd (.nameRangeMissing hgiven) (h _)
    | some corners => exact ⟨corners, rfl, hnameRange corners hgiven⟩
  case inside =>
    intro outer houter inner hinner
    by_contra hinside
    exact h _ (.outside houter (hrange outer houter) hinner (hnameRange inner hinner) hinside)
  case name =>
    cases hname : draft.name with
    | none => exact absurd (.nameMissing hname) (h _)
    | some name =>
      refine ⟨name, rfl, ?_⟩
      rintro rfl
      exact h _ (.nameEmpty hname)

theorem exists_block_of_sound (h : draft.Sound) : ∃ block : Block, block.Valid ∧ draft = block.draft := by
  obtain ⟨kind, hkind⟩ := h.kind
  obtain ⟨_, hrange, hsound⟩ := h.range
  obtain ⟨_, hnameRange, hnameSound⟩ := h.nameRange
  obtain ⟨name, hname, hne⟩ := h.name
  obtain ⟨outer, houter, rfl⟩ := Range.exists_corners_eq_of_sound hsound
  obtain ⟨inner, hinner, rfl⟩ := Range.exists_corners_eq_of_sound hnameSound
  have hinside := Range.contains_corners_iff.1 (h.inside _ hrange _ hnameRange)
  refine ⟨⟨kind, outer, inner, name⟩, ⟨houter, hinner, hinside, hne⟩, ?_⟩
  obtain ⟨_, _, _, _⟩ := draft
  simp only at hkind hrange hnameRange hname
  rw [Block.draft, hkind, hrange, hnameRange, hname]

-- ---------------------------------------------------------------------------
-- The four checks
-- ---------------------------------------------------------------------------

theorem mem_problemsOf_checkKind_iff {kind : Option Text} :
    problem ∈ problemsOf (checkKind kind) ↔
      kind = none ∧ problem = ⟨[.kind], .missing⟩ ∨
      ∃ word, kind = some word ∧ (∀ kind : Kind, word ≠ kind.keyword) ∧
        problem = ⟨[.kind], .unknownKind⟩ := by
  cases kind with
  | none => simp [checkKind, problemsOf]
  | some word =>
    cases hkind : Kind.ofKeyword? word with
    | none =>
      have hunknown : ∀ kind : Kind, word ≠ kind.keyword := by
        intro kind heq
        rw [Kind.ofKeyword?_eq_some_iff.2 heq] at hkind
        contradiction
      simp [checkKind, hkind, problemsOf, hunknown]
    | some kind =>
      have hword := Kind.ofKeyword?_eq_some_iff.1 hkind
      have hnone : problemsOf (checkKind (some word)) = [] := by simp [checkKind, hkind, problemsOf]
      rw [hnone]
      constructor
      · exact fun hmem => absurd hmem List.not_mem_nil
      · rintro (⟨⟨⟩, -⟩ | ⟨_, ⟨⟩, hunknown, -⟩)
        exact absurd hword (hunknown kind)

theorem mem_problemsOf_checkRange_iff {part : Part} {value : Option Corners} :
    problem ∈ problemsOf (checkRange part value) ↔
      value = none ∧ problem = ⟨[part], .missing⟩ ∨
      ∃ corners, value = some corners ∧ corners.Violates [part] problem := by
  cases value with
  | none => simp [checkRange, problemsOf]
  | some corners => simp [checkRange, Range.mem_problemsOf_check_iff]

theorem checkRange_eq_ok_iff {part : Part} {value : Option Corners} {range : Range} :
    checkRange part value = .ok range ↔ range.Ordered ∧ value = some range.corners := by
  cases value with
  | none => simp [checkRange]
  | some corners =>
    rw [checkRange, Range.check_eq_ok_iff, Option.some_inj, @eq_comm _ corners]

theorem mem_problemsOf_checkInside_iff {range nameRange : Except (List Problem) Range} :
    problem ∈ problemsOf (checkInside range nameRange) ↔
      problem ∈ problemsOf nameRange ∨
      ∃ outer inner, range = .ok outer ∧ nameRange = .ok inner ∧ ¬ outer.Contains inner ∧
        problem = ⟨[.nameRange], .nameOutside⟩ := by
  cases range with
  | error problems => simp [checkInside]
  | ok outer =>
    cases nameRange with
    | error problems => simp [checkInside]
    | ok inner => by_cases hinside : outer.Contains inner <;> simp [checkInside, problemsOf, hinside]

theorem mem_problemsOf_checkName_iff {name : Option Text} :
    problem ∈ problemsOf (checkName name) ↔
      name = none ∧ problem = ⟨[.name], .missing⟩ ∨
      name = some [] ∧ problem = ⟨[.name], .emptyName⟩ := by
  unfold checkName
  split <;> simp_all [problemsOf]

-- ---------------------------------------------------------------------------
-- The report
-- ---------------------------------------------------------------------------

theorem problemsOf_check (draft : BlockDraft) :
    problemsOf draft.check =
      problemsOf (checkKind draft.kind) ++ problemsOf (checkRange .range draft.range) ++
      problemsOf (checkInside (checkRange .range draft.range)
        (checkRange .nameRange draft.nameRange)) ++
      problemsOf (checkName draft.name) := by
  simp only [check]
  split
  · next hkind hrange hnameRange hname => rw [hkind, hnameRange, hrange, hname]; rfl
  · rfl

theorem mem_problemsOf_check_iff :
    problem ∈ problemsOf draft.check ↔ draft.Violates problem := by
  simp only [problemsOf_check, List.mem_append, mem_problemsOf_checkKind_iff,
    mem_problemsOf_checkRange_iff, mem_problemsOf_checkInside_iff, mem_problemsOf_checkName_iff,
    checkRange_eq_ok_iff, or_assoc]
  constructor
  · rintro (⟨missing, rfl⟩ | ⟨word, given, unknown, rfl⟩ | ⟨missing, rfl⟩ | ⟨corners, given, wrong⟩ |
      ⟨missing, rfl⟩ | ⟨corners, given, wrong⟩ |
      ⟨outer, inner, ⟨houter, range⟩, ⟨hinner, nameRange⟩, houtside, rfl⟩ |
      ⟨missing, rfl⟩ | ⟨empty, rfl⟩)
    · exact .kindMissing missing
    · exact .kindUnknown given unknown
    · exact .rangeMissing missing
    · exact .inRange given wrong
    · exact .nameRangeMissing missing
    · exact .inNameRange given wrong
    · exact .outside range (Range.sound_corners_iff.2 houter) nameRange
        (Range.sound_corners_iff.2 hinner) fun h => houtside (Range.contains_corners_iff.1 h)
    · exact .nameMissing missing
    · exact .nameEmpty empty
  · intro h
    cases h with
    | kindMissing missing => simp [missing]
    | kindUnknown given unknown => simp [given, unknown]
    | rangeMissing missing => simp [missing]
    | inRange given wrong => simp [given, wrong]
    | nameRangeMissing missing => simp [missing]
    | inNameRange given wrong => simp [given, wrong]
    | outside range range_sound nameRange nameRange_sound outside =>
      obtain ⟨outer, houter, rfl⟩ := Range.exists_corners_eq_of_sound range_sound
      obtain ⟨inner, hinner, rfl⟩ := Range.exists_corners_eq_of_sound nameRange_sound
      rw [Range.contains_corners_iff] at outside
      iterate 6 apply Or.inr
      exact .inl ⟨outer, inner, ⟨houter, range⟩, ⟨hinner, nameRange⟩, outside, rfl⟩
    | nameMissing missing => simp [missing]
    | nameEmpty empty => simp [empty]

-- ---------------------------------------------------------------------------
-- The order of the report
-- ---------------------------------------------------------------------------

def places : List (List Part) :=
  [.kind] :: ([.range] :: Range.places [.range]) ++ ([.nameRange] :: Range.places [.nameRange]) ++
    [[.name]]

theorem pairwise_places :
    places.Pairwise fun path other => path.map Part.place < other.map Part.place := by decide

theorem paths_checkKind (kind : Option Text) :
    ((problemsOf (checkKind kind)).map Problem.path).Sublist [[.kind]] := by
  unfold checkKind
  split
  · simp [problemsOf]
  · split <;> simp [problemsOf]

theorem paths_checkRange (part : Part) (value : Option Corners) :
    ((problemsOf (checkRange part value)).map Problem.path).Sublist
      ([part] :: Range.places [part]) := by
  cases value with
  | none => simp [checkRange, problemsOf]
  | some corners => exact (Range.paths_problemsOf_check [part] corners).cons [part]

theorem paths_checkInside (range : Except (List Problem) Range) (value : Option Corners) :
    ((problemsOf (checkInside range (checkRange .nameRange value))).map Problem.path).Sublist
      ([.nameRange] :: Range.places [.nameRange]) := by
  unfold checkInside
  split
  · split <;> simp [problemsOf]
  · exact paths_checkRange .nameRange value

theorem paths_checkName (name : Option Text) :
    ((problemsOf (checkName name)).map Problem.path).Sublist [[.name]] := by
  unfold checkName
  split <;> simp [problemsOf]

theorem pairwise_problemsOf_check (draft : BlockDraft) :
    (problemsOf draft.check).Pairwise Problem.Before := by
  have hpaths : ((problemsOf draft.check).map Problem.path).Sublist places := by
    simp only [problemsOf_check, List.map_append]
    have hkind := paths_checkKind draft.kind
    have hrange := paths_checkRange .range draft.range
    have hnameRange := paths_checkInside (checkRange .range draft.range) draft.nameRange
    exact ((hkind.append hrange).append hnameRange).append (paths_checkName draft.name)
  have hordered : ((problemsOf draft.check).map Problem.path).Pairwise
      fun path other => path.map Part.place < other.map Part.place := pairwise_places.sublist hpaths
  rwa [List.pairwise_map] at hordered

theorem reports_problemsOf_check (draft : BlockDraft) : draft.Reports (problemsOf draft.check) :=
  ⟨fun _ => mem_problemsOf_check_iff, pairwise_problemsOf_check draft⟩

theorem Reports.unique {problems other : List Problem} (h : draft.Reports problems)
    (h' : draft.Reports other) : problems = other := by
  refine eq_of_mem_iff_of_pairwise h.ordered h'.ordered (fun problem => ?_) (fun problem later => ?_)
    fun problem => (h.mem_iff problem).trans (h'.mem_iff problem).symm
  · exact List.lt_irrefl (problem.path.map Part.place)
  · exact fun hlt => List.lt_asymm hlt

-- ---------------------------------------------------------------------------
-- Success and failure
-- ---------------------------------------------------------------------------

theorem not_violates_of_check {block : Block} (h : draft.check = .ok block) (problem : Problem) :
    ¬ draft.Violates problem := by
  rw [← mem_problemsOf_check_iff, h]
  exact List.not_mem_nil

theorem exists_check_eq_ok_iff : (∃ block, draft.check = .ok block) ↔ draft.Sound := by
  constructor
  · rintro ⟨block, hblock⟩
    exact sound_of_not_violates (not_violates_of_check hblock)
  · intro h
    obtain ⟨block, hvalid, rfl⟩ := exists_block_of_sound h
    exact ⟨block, hvalid.check_draft⟩

theorem valid_of_check {block : Block} (h : draft.check = .ok block) :
    block.Valid ∧ draft = block.draft := by
  obtain ⟨other, hvalid, rfl⟩ := exists_block_of_sound (exists_check_eq_ok_iff.1 ⟨block, h⟩)
  rw [hvalid.check_draft] at h
  cases h
  exact ⟨hvalid, rfl⟩

theorem check_eq_error_iff {problems : List Problem} :
    draft.check = .error problems ↔ problems ≠ [] ∧ draft.Reports problems := by
  have hreports := reports_problemsOf_check draft
  constructor
  · intro h
    rw [h] at hreports
    refine ⟨?_, hreports⟩
    rintro rfl
    -- A draft without violations is sound, so the check would not have failed.
    have hnone : ∀ problem, ¬ draft.Violates problem := fun problem hviolates =>
      absurd ((hreports.mem_iff problem).2 hviolates) List.not_mem_nil
    obtain ⟨block, hblock⟩ := exists_check_eq_ok_iff.2 (sound_of_not_violates hnone)
    rw [hblock] at h
    contradiction
  · rintro ⟨hne, hreports'⟩
    cases hcheck : draft.check with
    | ok block =>
      obtain ⟨problem, hmem⟩ := List.exists_mem_of_ne_nil problems hne
      exact absurd ((hreports'.mem_iff problem).1 hmem) (not_violates_of_check hcheck problem)
    | error found =>
      rw [hcheck] at hreports
      have hsame : found = problems := hreports.unique hreports'
      rw [hsame]

-- A negative number keeps the order of its range, and with it the place of the name, from being judged.
example :
    check ⟨some "table".toList, some ⟨4, -1, 0, 0⟩, some ⟨2, 5, 2, 3⟩, none⟩ = .error
      [⟨[.kind], .unknownKind⟩, ⟨[.range, .start, .character], .negative⟩,
        ⟨[.nameRange, .stop], .reversed ⟨2, 5⟩ ⟨2, 3⟩⟩, ⟨[.name], .missing⟩] := rfl

end BlockDraft

/-- Both ways of building a range take the sound numbers and no others, and build the range that has
these numbers. A block is built from the sound drafts and no others, and it is the block that the
draft describes; from any other draft, all that it violates is reported in the order of its
parts. -/
theorem builders_accept_sound_and_report :
    (∀ corners path,
      ((∃ range, Range.ofCorners corners = .ok range) ↔ corners.Sound) ∧
      (∀ range, Range.check path corners = .ok range ↔ Range.ofCorners corners = .ok range) ∧
      ∀ range, Range.ofCorners corners = .ok range → range.corners = corners) ∧
    ∀ draft : BlockDraft,
      ((∃ block, draft.check = .ok block) ↔ draft.Sound) ∧
      (∀ block, draft.check = .ok block → draft = block.draft) ∧
      ∀ problems, draft.check = .error problems ↔ problems ≠ [] ∧ draft.Reports problems := by
  constructor
  · intro corners path
    refine ⟨?_, fun range => ?_, fun range h => (Range.ofCorners_eq_ok_iff.1 h).2⟩
    · exact Range.exists_ofCorners_eq_ok_iff
    · exact Range.check_eq_ok_iff.trans Range.ofCorners_eq_ok_iff.symm
  · intro draft
    exact ⟨BlockDraft.exists_check_eq_ok_iff, fun block h => (BlockDraft.valid_of_check h).2,
      fun problems => BlockDraft.check_eq_error_iff⟩

end SchemaAssist
