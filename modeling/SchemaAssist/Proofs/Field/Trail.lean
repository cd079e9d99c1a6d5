import SchemaAssist.Field.Path
import SchemaAssist.Proofs.Block.Lookup
import SchemaAssist.Proofs.Field.Declarations

/-!
# The trail of a dotted path

A path leads from field to field through composite types. `Trail` lists the types on the way: each
is the only block of the name that the field before it declares. The walk answers with the fields of
the last one where there is a trail, and with nothing where there is none.
-/

namespace SchemaAssist

def IsComposite (lines : List Text) (name : Text) (block : Block) : Prop :=
  block.kind = .type ∧ Block.namesakes name lines = [block]

/-- The composite types along a path. `declares` gives the types of the fields at its start; below
that, a field is looked for in the composite type before it. -/
inductive Trail (lines : List Text) : (Text → Text → Prop) → List Text → List Block → Prop
  | last {declares : Text → Text → Prop} {field type : Text} {block : Block}
      (declared : declares field type) (composite : IsComposite lines (compositeName type) block) :
      Trail lines declares [field] [block]
  | step {declares : Text → Text → Prop} {field type : Text} {block : Block} {path : List Text}
      {blocks : List Block} (declared : declares field type)
      (composite : IsComposite lines (compositeName type) block)
      (onward : Trail lines (FirstDeclares lines block) path blocks) :
      Trail lines declares (field :: path) (block :: blocks)

def FieldIndex.Declares (index : FieldIndex) (field type : Text) : Prop :=
  index.typeOf? field = some type

theorem FieldIndex.declares_ofBlock (lines : List Text) (block : Block) :
    (FieldIndex.ofBlock lines block none).Declares = FirstDeclares lines block := by
  funext name type
  exact propext typeOf?_ofBlock_eq_some_iff

theorem Trail.path_ne_nil {lines : List Text} {declares : Text → Text → Prop} {path : List Text}
    {blocks : List Block} (h : Trail lines declares path blocks) : path ≠ [] := by
  cases h <;> exact List.cons_ne_nil _ _

theorem compositeOf?_eq_some_iff {lines : List Text} {index : FieldIndex} {field : Text}
    {block : Block} :
    compositeOf? lines index field = some block ↔
      ∃ type, index.Declares field type ∧ IsComposite lines (compositeName type) block := by
  unfold compositeOf? FieldIndex.Declares IsComposite
  cases index.typeOf? field with
  | none => simp
  | some type =>
    dsimp only
    constructor
    · intro h
      split at h
      · next found hfound =>
        split at h
        · next hkind =>
          cases h
          exact ⟨type, rfl, hkind, named?_eq_some_iff.1 hfound⟩
        · contradiction
      · contradiction
    · rintro ⟨_, ⟨⟩, hkind, hnamesakes⟩
      rw [named?_eq_some_iff.2 hnamesakes]
      exact if_pos hkind

theorem pathFields_last {lines : List Text} {index : FieldIndex} {field : Text} {block : Block}
    (h : compositeOf? lines index field = some block) :
    pathFields lines [field] index = fieldNames lines block none := by
  rw [pathFields, h]
  rfl

theorem pathFields_step {lines : List Text} {index : FieldIndex} {field : Text} {block : Block}
    {path : List Text} (h : compositeOf? lines index field = some block) (hpath : path ≠ []) :
    pathFields lines (field :: path) index =
      pathFields lines path (FieldIndex.ofBlock lines block none) := by
  cases path with
  | nil => exact absurd rfl hpath
  | cons next path =>
    rw [pathFields, h]
    rfl

theorem pathFields_none {lines : List Text} {index : FieldIndex} {field : Text} {path : List Text}
    (h : compositeOf? lines index field = none) : pathFields lines (field :: path) index = [] := by
  rw [pathFields, h]

theorem Trail.pathFields_eq {lines path : List Text} {index : FieldIndex} {blocks : List Block}
    (h : Trail lines index.Declares path blocks) :
    ∃ block, blocks.getLast? = some block ∧
      pathFields lines path index = fieldNames lines block none := by
  generalize hdeclares : index.Declares = declares at h
  induction h generalizing index with
  | @last _ _ _ block declared composite =>
    subst hdeclares
    exact ⟨block, rfl, pathFields_last (compositeOf?_eq_some_iff.2 ⟨_, declared, composite⟩)⟩
  | @step _ _ _ block path blocks declared composite onward ih =>
    subst hdeclares
    obtain ⟨last, hlast, hfields⟩ := ih (FieldIndex.declares_ofBlock lines block)
    refine ⟨last, ?_, ?_⟩
    · rw [List.getLast?_cons, hlast]
      rfl
    · rw [pathFields_step (compositeOf?_eq_some_iff.2 ⟨_, declared, composite⟩)
        onward.path_ne_nil, hfields]

/-- A walk that is not stopped follows a trail. -/
theorem exists_trail_or_pathFields_eq_nil (lines path : List Text) (index : FieldIndex) :
    (∃ blocks, Trail lines index.Declares path blocks) ∨ pathFields lines path index = [] := by
  induction path generalizing index with
  | nil => exact .inr rfl
  | cons field path ih =>
    cases hblock : compositeOf? lines index field with
    | none => exact .inr (pathFields_none hblock)
    | some block =>
      obtain ⟨type, hdeclares, hcomposite⟩ := compositeOf?_eq_some_iff.1 hblock
      cases path with
      | nil => exact .inl ⟨[block], .last hdeclares hcomposite⟩
      | cons next path =>
        rw [pathFields_step hblock (List.cons_ne_nil _ _)]
        rcases ih (FieldIndex.ofBlock lines block none) with ⟨blocks, htrail⟩ | hnil
        · rw [FieldIndex.declares_ofBlock] at htrail
          exact .inl ⟨block :: blocks, .step hdeclares hcomposite htrail⟩
        · exact .inr hnil

/-- The answer to a path is the field names of the composite type at the end of its trail, and
nothing if the path is empty or there is no trail. -/
theorem pathFields_eq_fields_of_trail (lines path : List Text) (index : FieldIndex) :
    (∀ blocks block, Trail lines index.Declares path (blocks ++ [block]) →
      pathFields lines path index = fieldNames lines block none) ∧
    ((¬ ∃ blocks, Trail lines index.Declares path blocks) → pathFields lines path index = []) ∧
    pathFields lines [] index = [] := by
  refine ⟨?_, ?_, rfl⟩
  · intro blocks block htrail
    obtain ⟨last, hlast, hfields⟩ := htrail.pathFields_eq
    rw [List.getLast?_concat] at hlast
    cases hlast
    exact hfields
  · intro hnone
    exact (exists_trail_or_pathFields_eq_nil lines path index).resolve_left hnone

def nodeSchema : List Text :=
  ["model Tree ".toList ++ ['{'], "root Node?".toList, ['}'],
    "type Node ".toList ++ ['{'], "child Node[]".toList, "label String".toList, ['}']]

/-- The walk goes through a type that refers to itself as often as the path does. -/
theorem pathFields_self_reference :
    ∃ node, Trail nodeSchema (FieldIndex.mk [] [("root".toList, "Node?".toList)]).Declares
        ["root".toList, "child".toList, "child".toList] [node, node, node] ∧
      pathFields nodeSchema ["root".toList, "child".toList, "child".toList]
        ⟨[], [("root".toList, "Node?".toList)]⟩ = ["child".toList, "label".toList] := by
  let node : Block := ⟨.type, ⟨⟨3, 0⟩, ⟨6, 1⟩⟩, ⟨⟨3, 5⟩, ⟨3, 9⟩⟩, "Node".toList⟩
  have hroot : IsComposite nodeSchema (compositeName "Node?".toList) node := ⟨rfl, by decide⟩
  have hnode : IsComposite nodeSchema (compositeName "Node[]".toList) node := ⟨rfl, by decide⟩
  have hchild : FirstDeclares nodeSchema node "child".toList "Node[]".toList :=
    typeOf?_ofBlock_eq_some_iff.1 (by decide)
  have htrail : Trail nodeSchema (FieldIndex.mk [] [("root".toList, "Node?".toList)]).Declares
      ["root".toList, "child".toList, "child".toList] [node, node, node] :=
    .step rfl hroot (.step hchild hnode (.last hchild hnode))
  refine ⟨node, htrail, ?_⟩
  rw [(pathFields_eq_fields_of_trail _ _ _).1 [node, node] node htrail]
  decide

end SchemaAssist
