import SchemaAssist.Proofs.Field.Trail

/-!
# Paths are made of offered names

The trail of a path goes on from the last type of the path's start (`Trail.split`). The next segment
is declared in that type, and a name that is declared is also offered, unless it reads as a comment:
such a line has a place in the index of types and none among the names.
-/

namespace SchemaAssist

theorem Trail.onward {lines path : List Text} {field : Text} {declares : Text → Text → Prop}
    {blocks : List Block} (hpath : path ≠ []) (h : Trail lines declares (field :: path) blocks) :
    ∃ type block later, blocks = block :: later ∧ declares field type ∧
      IsComposite lines (compositeName type) block ∧
      Trail lines (FirstDeclares lines block) path later := by
  cases h with
  | last => exact absurd rfl hpath
  | step declared composite onward => exact ⟨_, _, _, rfl, declared, composite, onward⟩

/-- A trail cut behind the start of its path: what is left looks for its fields in the last type
before the cut. -/
theorem Trail.split {lines path more : List Text} {declares : Text → Text → Prop}
    {blocks : List Block} (hpath : path ≠ []) (hmore : more ≠ [])
    (h : Trail lines declares (path ++ more) blocks) :
    ∃ front block back, blocks = front ++ block :: back ∧
      Trail lines declares path (front ++ [block]) ∧
      Trail lines (FirstDeclares lines block) more back := by
  induction path generalizing declares blocks with
  | nil => exact absurd rfl hpath
  | cons field path ih =>
    obtain ⟨type, block, later, rfl, declared, composite, onward⟩ :=
      h.onward (List.append_ne_nil_of_right_ne_nil path hmore)
    cases path with
    | nil => exact ⟨[], block, later, rfl, .last declared composite, onward⟩
    | cons next path =>
      obtain ⟨front, last, back, rfl, hfront, hback⟩ := ih (List.cons_ne_nil _ _) onward
      exact ⟨block :: front, last, back, rfl, .step declared composite hfront, hback⟩

theorem Trail.first_declared {lines path : List Text} {declares : Text → Text → Prop} {field : Text}
    {blocks : List Block} (h : Trail lines declares (field :: path) blocks) :
    ∃ type, declares field type := by
  cases h with
  | last declared => exact ⟨_, declared⟩
  | step declared => exact ⟨_, declared⟩

theorem mem_pathFields_of_longer {lines path more : List Text} {segment : Text} {index : FieldIndex}
    (hpath : path ≠ []) (hsegment : isComment segment = false)
    (h : pathFields lines (path ++ segment :: more) index ≠ []) :
    segment ∈ pathFields lines path index := by
  obtain ⟨blocks, htrail⟩ := (exists_trail_or_pathFields_eq_nil lines _ index).resolve_right h
  obtain ⟨front, block, back, -, hfront, hback⟩ := htrail.split hpath (List.cons_ne_nil _ _)
  obtain ⟨last, hlast, hfields⟩ := hfront.pathFields_eq
  rw [List.getLast?_concat] at hlast
  cases hlast
  obtain ⟨type, hdeclared⟩ := hback.first_declared
  rw [hfields]
  exact hdeclared.mem_fieldNames hsegment

/-- A segment behind which there are fields was itself offered for the path before it, and so
nothing is found behind a path that leads nowhere. -/
theorem resolved_segments_are_offered (lines path : List Text) (index : FieldIndex)
    (hpath : path ≠ []) :
    (∀ segment, isComment segment = false → pathFields lines (path ++ [segment]) index ≠ [] →
      segment ∈ pathFields lines path index) ∧
    (pathFields lines path index = [] → ∀ more, (∀ segment ∈ more, isComment segment = false) →
      pathFields lines (path ++ more) index = []) := by
  refine ⟨fun segment hsegment => mem_pathFields_of_longer hpath hsegment, ?_⟩
  intro hnil more hmore
  cases more with
  | nil => rw [List.append_nil, hnil]
  | cons segment more =>
    by_contra hresolved
    have hoffered :=
      mem_pathFields_of_longer hpath (hmore segment (List.mem_cons_self ..)) hresolved
    rw [hnil] at hoffered
    cases hoffered

def placeSchema : List Text :=
  ["type Place ".toList ++ ['{'], "geo Geo?".toList, "zip String".toList, "//old Geo".toList, ['}'],
    "type Geo ".toList ++ ['{'], "lat Float".toList, ['}']]

theorem offered_segments_of_place :
    let index : FieldIndex := ⟨[], [("place".toList, "Place".toList)]⟩
    ("geo".toList ∈ pathFields placeSchema ["place".toList] index ∧
      pathFields placeSchema ["place".toList, "geo".toList] index = ["lat".toList]) ∧
    pathFields placeSchema ["place".toList, "zip".toList] index = [] ∧
    pathFields placeSchema ["place".toList, "zip".toList, "geo".toList, "lat".toList] index = [] := by
  intro index
  have hgeo : pathFields placeSchema ["place".toList, "geo".toList] index = ["lat".toList] := by
    decide
  have hzip : pathFields placeSchema ["place".toList, "zip".toList] index = [] := by decide
  refine ⟨⟨?_, hgeo⟩, hzip, ?_⟩
  · refine (resolved_segments_are_offered placeSchema ["place".toList] index (by decide)).1
      "geo".toList (by decide) ?_
    rw [List.singleton_append, hgeo]
    exact List.cons_ne_nil _ _
  · exact (resolved_segments_are_offered placeSchema ["place".toList, "zip".toList] index
      (by decide)).2 hzip ["geo".toList, "lat".toList] (by decide)

/-- A field that is commented out is followed, but not offered. -/
example :
    let index : FieldIndex := ⟨[], [("place".toList, "Place".toList)]⟩
    "//old".toList ∉ pathFields placeSchema ["place".toList] index ∧
      pathFields placeSchema ["place".toList, "//old".toList] index = ["lat".toList] := by decide

end SchemaAssist
