import SchemaAssist.Position.Checked

/-!
# Building ranges from integers

A position can be built from any two natural numbers, and a range from those of any two positions in
order. Both ways of building a range take the same numbers for the same range
(`ofCorners_eq_ok_iff`, `check_eq_ok_iff`). The one that looks at all four numbers reports what is
wrong with them and nothing else (`mem_problemsOf_check_iff`), each problem in its place
(`paths_problemsOf_check`).
-/

namespace SchemaAssist

-- ---------------------------------------------------------------------------
-- Negative numbers
-- ---------------------------------------------------------------------------

theorem negativeProblems_eq_nil_iff {path : List Part} {number : Int} :
    negativeProblems path number = [] ↔ 0 ≤ number := by
  rw [negativeProblems]
  split
  · simpa
  · simpa using Int.not_lt.1 ‹_›

theorem mem_negativeProblems_iff {path : List Part} {number : Int} {problem : Problem} :
    problem ∈ negativeProblems path number ↔ number < 0 ∧ problem = ⟨path, .negative⟩ := by
  unfold negativeProblems
  split <;> simp [*]

theorem paths_negativeProblems (path : List Part) (number : Int) :
    ((negativeProblems path number).map Problem.path).Sublist [path] := by
  unfold negativeProblems
  split <;> simp

namespace Position

variable {path : List Part} {line character : Int} {position : Position}

theorem check_natCast (path : List Part) (line character : Nat) :
    check path line character = .ok ⟨line, character⟩ := by
  simp [check, negativeProblems_eq_nil_iff.2]

theorem check_eq_ok_iff :
    check path line character = .ok position ↔
      line = position.line ∧ character = position.character := by
  constructor
  · intro h
    unfold check at h
    split at h
    · next hnone =>
      obtain ⟨hline, hcharacter⟩ := List.append_eq_nil_iff.1 hnone
      cases h
      exact ⟨(Int.toNat_of_nonneg (negativeProblems_eq_nil_iff.1 hline)).symm,
        (Int.toNat_of_nonneg (negativeProblems_eq_nil_iff.1 hcharacter)).symm⟩
    · contradiction
  · rintro ⟨rfl, rfl⟩
    exact check_natCast path position.line position.character

theorem problemsOf_check (path : List Part) (line character : Int) :
    problemsOf (check path line character) =
      negativeProblems (path ++ [.line]) line ++
        negativeProblems (path ++ [.character]) character := by
  unfold check
  split
  · next hnone => rw [hnone]; rfl
  · rfl

end Position

-- ---------------------------------------------------------------------------
-- Sound numbers
-- ---------------------------------------------------------------------------

structure Corners.Sound (corners : Corners) : Prop where
  startLine_nonneg : 0 ≤ corners.startLine
  startCharacter_nonneg : 0 ≤ corners.startCharacter
  stopLine_nonneg : 0 ≤ corners.stopLine
  stopCharacter_nonneg : 0 ≤ corners.stopCharacter
  ordered : corners.startLine < corners.stopLine ∨
    corners.startLine = corners.stopLine ∧ corners.startCharacter ≤ corners.stopCharacter

structure Corners.Contains (outer inner : Corners) : Prop where
  start : outer.startLine < inner.startLine ∨
    outer.startLine = inner.startLine ∧ outer.startCharacter ≤ inner.startCharacter
  stop : inner.stopLine < outer.stopLine ∨
    inner.stopLine = outer.stopLine ∧ inner.stopCharacter ≤ outer.stopCharacter

namespace Range

variable {path : List Part} {corners : Corners} {range : Range}

theorem corners_injective {range other : Range} (h : range.corners = other.corners) :
    range = other := by
  obtain ⟨⟨startLine, startCharacter⟩, ⟨stopLine, stopCharacter⟩⟩ := range
  obtain ⟨⟨startLine', startCharacter'⟩, ⟨stopLine', stopCharacter'⟩⟩ := other
  simp only [Range.corners, Corners.mk.injEq, Int.ofNat_inj] at h
  obtain ⟨rfl, rfl, rfl, rfl⟩ := h
  rfl

theorem exists_corners_eq (hstartLine : 0 ≤ corners.startLine)
    (hstartCharacter : 0 ≤ corners.startCharacter) (hstopLine : 0 ≤ corners.stopLine)
    (hstopCharacter : 0 ≤ corners.stopCharacter) : ∃ range : Range, range.corners = corners := by
  refine ⟨⟨⟨corners.startLine.toNat, corners.startCharacter.toNat⟩,
    ⟨corners.stopLine.toNat, corners.stopCharacter.toNat⟩⟩, ?_⟩
  simp only [Range.corners, Int.toNat_of_nonneg, hstartLine, hstartCharacter, hstopLine,
    hstopCharacter]

theorem sound_corners_iff : range.corners.Sound ↔ range.Ordered := by
  constructor
  · intro h
    have hordered := h.ordered
    simp only [Range.corners] at hordered
    exact Position.le_def.2 (by omega)
  · intro h
    have hordered := Position.le_def.1 h
    constructor <;> simp only [Range.corners] <;> omega

theorem contains_corners_iff {outer inner : Range} :
    outer.corners.Contains inner.corners ↔ outer.Contains inner := by
  constructor
  · rintro ⟨hstart, hstop⟩
    simp only [Range.corners] at hstart hstop
    exact ⟨Position.le_def.2 (by omega), Position.le_def.2 (by omega)⟩
  · rintro ⟨hstart, hstop⟩
    rw [Position.le_def] at hstart hstop
    constructor <;> simp only [Range.corners] <;> omega

theorem exists_corners_eq_of_sound (h : corners.Sound) :
    ∃ range : Range, range.Ordered ∧ range.corners = corners := by
  obtain ⟨range, rfl⟩ := exists_corners_eq h.startLine_nonneg h.startCharacter_nonneg
    h.stopLine_nonneg h.stopCharacter_nonneg
  exact ⟨range, sound_corners_iff.1 h, rfl⟩

-- ---------------------------------------------------------------------------
-- Both ways of building
-- ---------------------------------------------------------------------------

theorem between_eq_ok_iff {start stop : Position} :
    between path start stop = .ok range ↔ range.Ordered ∧ range = ⟨start, stop⟩ := by
  unfold between
  split
  · next h =>
    constructor
    · rintro ⟨⟩
      exact ⟨h, rfl⟩
    · rintro ⟨-, rfl⟩
      rfl
  · next h =>
    constructor
    · rintro ⟨⟩
    · rintro ⟨hordered, rfl⟩
      exact absurd hordered h

theorem corners_of_between {startPath stopPath : List Part} {start stop : Position}
    (hstart : Position.check startPath corners.startLine corners.startCharacter = .ok start)
    (hstop : Position.check stopPath corners.stopLine corners.stopCharacter = .ok stop)
    (h : between path start stop = .ok range) : range.Ordered ∧ range.corners = corners := by
  obtain ⟨hordered, rfl⟩ := between_eq_ok_iff.1 h
  obtain ⟨hstartLine, hstartCharacter⟩ := Position.check_eq_ok_iff.1 hstart
  obtain ⟨hstopLine, hstopCharacter⟩ := Position.check_eq_ok_iff.1 hstop
  refine ⟨hordered, ?_⟩
  simp only [Range.corners, ← hstartLine, ← hstartCharacter, ← hstopLine, ← hstopCharacter]

theorem ofCorners_eq_ok_iff :
    ofCorners corners = .ok range ↔ range.Ordered ∧ range.corners = corners := by
  constructor
  · intro h
    unfold ofCorners at h
    cases hstart : Position.check [] corners.startLine corners.startCharacter with
    | error problems =>
      rw [hstart] at h
      contradiction
    | ok start =>
      cases hstop : Position.check [] corners.stopLine corners.stopCharacter with
      | error problems =>
        rw [hstart, hstop] at h
        contradiction
      | ok stop =>
        rw [hstart, hstop] at h
        exact corners_of_between hstart hstop h
  · rintro ⟨hordered, rfl⟩
    simp only [ofCorners, Range.corners, Position.check_natCast]
    exact if_pos hordered

theorem exists_ofCorners_eq_ok_iff :
    (∃ range, ofCorners corners = .ok range) ↔ corners.Sound := by
  constructor
  · rintro ⟨range, hrange⟩
    obtain ⟨hordered, rfl⟩ := ofCorners_eq_ok_iff.1 hrange
    exact sound_corners_iff.2 hordered
  · intro h
    obtain ⟨range, hordered, hnumbers⟩ := exists_corners_eq_of_sound h
    exact ⟨range, ofCorners_eq_ok_iff.2 ⟨hordered, hnumbers⟩⟩

theorem check_corners_eq (path : List Part) (range : Range) :
    check path range.corners = if range.Ordered then .ok range
      else .error [⟨path ++ [.stop], .reversed range.start range.stop⟩] := by
  simp only [check, Range.corners, Position.check_natCast]
  rfl

theorem check_eq_ok_iff :
    check path corners = .ok range ↔ range.Ordered ∧ range.corners = corners := by
  constructor
  · intro h
    simp only [check] at h
    split at h
    · next start stop hstart hstop => exact corners_of_between hstart hstop h
    · contradiction
  · rintro ⟨hordered, rfl⟩
    exact check_corners_eq path range ▸ if_pos hordered

theorem ofCorners_corners {range : Range} (h : range.Ordered) :
    ofCorners range.corners = .ok range := ofCorners_eq_ok_iff.2 ⟨h, rfl⟩

theorem check_corners {range : Range} (h : range.Ordered) (path : List Part) :
    check path range.corners = .ok range := check_eq_ok_iff.2 ⟨h, rfl⟩

theorem ofCorners_onLine (line : Nat) {first last : Nat} (h : first ≤ last) :
    ofCorners ⟨line, first, line, last⟩ = .ok (onLine line first last) :=
  ofCorners_corners (ordered_onLine h)

end Range

-- ---------------------------------------------------------------------------
-- What is reported
-- ---------------------------------------------------------------------------

/-- What is wrong with four numbers, each problem with its place below `path`. The order is wrong
only of numbers none of which is negative. -/
inductive Corners.Violates (path : List Part) (corners : Corners) : Problem → Prop
  | startLine (negative : corners.startLine < 0) :
      Violates path corners ⟨path ++ [.start, .line], .negative⟩
  | startCharacter (negative : corners.startCharacter < 0) :
      Violates path corners ⟨path ++ [.start, .character], .negative⟩
  | stopLine (negative : corners.stopLine < 0) :
      Violates path corners ⟨path ++ [.stop, .line], .negative⟩
  | stopCharacter (negative : corners.stopCharacter < 0) :
      Violates path corners ⟨path ++ [.stop, .character], .negative⟩
  | order {range : Range} (numbers : range.corners = corners) (reversed : ¬ range.Ordered) :
      Violates path corners ⟨path ++ [.stop], .reversed range.start range.stop⟩

theorem Corners.sound_of_not_violates {path : List Part} {corners : Corners}
    (h : ∀ problem, ¬ corners.Violates path problem) : corners.Sound := by
  obtain ⟨range, rfl⟩ := Range.exists_corners_eq
    (Int.not_lt.1 fun negative => h _ (.startLine negative))
    (Int.not_lt.1 fun negative => h _ (.startCharacter negative))
    (Int.not_lt.1 fun negative => h _ (.stopLine negative))
    (Int.not_lt.1 fun negative => h _ (.stopCharacter negative))
  refine Range.sound_corners_iff.2 (Decidable.byContradiction fun reversed => ?_)
  exact h _ (.order rfl reversed)

namespace Range

variable {path : List Part} {corners : Corners} {problem : Problem}

theorem problemsOf_check_corners (path : List Part) (range : Range) :
    problemsOf (check path range.corners) =
      if range.Ordered then [] else [⟨path ++ [.stop], .reversed range.start range.stop⟩] := by
  rw [check_corners_eq]
  split <;> rfl

theorem problemsOf_check_of_negative (h : ¬ ∃ range : Range, range.corners = corners) :
    problemsOf (check path corners) =
      negativeProblems (path ++ [.start, .line]) corners.startLine ++
      negativeProblems (path ++ [.start, .character]) corners.startCharacter ++
      (negativeProblems (path ++ [.stop, .line]) corners.stopLine ++
      negativeProblems (path ++ [.stop, .character]) corners.stopCharacter) := by
  simp only [check]
  split
  · next start stop hstart hstop =>
    obtain ⟨hstartLine, hstartCharacter⟩ := Position.check_eq_ok_iff.1 hstart
    obtain ⟨hstopLine, hstopCharacter⟩ := Position.check_eq_ok_iff.1 hstop
    refine absurd ⟨⟨start, stop⟩, ?_⟩ h
    simp only [Range.corners, ← hstartLine, ← hstartCharacter, ← hstopLine, ← hstopCharacter]
  · simp only [problemsOf.eq_2, Position.problemsOf_check, List.append_assoc, List.cons_append,
      List.nil_append]

theorem mem_problemsOf_check_iff :
    problem ∈ problemsOf (check path corners) ↔ corners.Violates path problem := by
  by_cases h : ∃ range : Range, range.corners = corners
  · obtain ⟨range, rfl⟩ := h
    rw [problemsOf_check_corners]
    constructor
    · intro hmem
      split at hmem
      · contradiction
      · next hreversed =>
        rw [List.mem_singleton.1 hmem]
        exact .order rfl hreversed
    · rintro (negative | negative | negative | negative | ⟨hnumbers, hreversed⟩)
      case order =>
        rw [corners_injective hnumbers] at hreversed ⊢
        rw [if_neg hreversed]
        exact List.mem_singleton.2 rfl
      all_goals exact absurd negative (Int.not_lt.2 (Int.natCast_nonneg _))
  · rw [problemsOf_check_of_negative h]
    simp only [List.mem_append, mem_negativeProblems_iff]
    constructor
    · rintro ((⟨hneg, rfl⟩ | ⟨hneg, rfl⟩) | (⟨hneg, rfl⟩ | ⟨hneg, rfl⟩))
      · exact .startLine hneg
      · exact .startCharacter hneg
      · exact .stopLine hneg
      · exact .stopCharacter hneg
    · rintro (hneg | hneg | hneg | hneg | ⟨hnumbers, -⟩)
      · exact .inl (.inl ⟨hneg, rfl⟩)
      · exact .inl (.inr ⟨hneg, rfl⟩)
      · exact .inr (.inl ⟨hneg, rfl⟩)
      · exact .inr (.inr ⟨hneg, rfl⟩)
      · exact absurd ⟨_, hnumbers⟩ h

def places (path : List Part) : List (List Part) :=
  [path ++ [.start, .line], path ++ [.start, .character], path ++ [.stop],
    path ++ [.stop, .line], path ++ [.stop, .character]]

theorem paths_problemsOf_check (path : List Part) (corners : Corners) :
    ((problemsOf (check path corners)).map Problem.path).Sublist (places path) := by
  by_cases h : ∃ range : Range, range.corners = corners
  · obtain ⟨range, rfl⟩ := h
    rw [problemsOf_check_corners]
    split <;> simp [places]
  · rw [problemsOf_check_of_negative h]
    simp only [List.map_append]
    have hstart := (paths_negativeProblems (path ++ [.start, .line]) corners.startLine).append
      (paths_negativeProblems (path ++ [.start, .character]) corners.startCharacter)
    have hstop := (paths_negativeProblems (path ++ [.stop, .line]) corners.stopLine).append
      (paths_negativeProblems (path ++ [.stop, .character]) corners.stopCharacter)
    exact hstart.append (hstop.cons (path ++ [.stop]))

end Range
end SchemaAssist
