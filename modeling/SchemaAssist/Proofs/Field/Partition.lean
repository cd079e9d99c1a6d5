import SchemaAssist.Proofs.Field.FirstOccurrences
import SchemaAssist.Proofs.Field.Typing

/-!
# The index of a block divides its body

`DeclaresAt` says which lines of a block declare a field. The index gathers these lines by type and
names each field once: `PartitionsBody` and `NamesBody` say what is asked of its two sides, without
saying how they are built. There is one index of which both hold, and it is the one that is built
(`faithful_iff_eq_ofBlock`).
-/

namespace SchemaAssist

section
variable (lines : List Text) (block : Block) (typing : Option Nat)

/-- The first two words of a line inside the block are that name and that type. The line that is
being typed on does not count. -/
structure DeclaresAt (number : Nat) (name type : Text) : Prop where
  start_lt : block.range.start.line < number
  lt_stop : number < min block.range.stop.line lines.length
  not_typing : typing ≠ some number
  declares : Declares (Text.lineOf lines number) name type

structure FirstDeclaresAt (number : Nat) (name type : Text) : Prop where
  declaresAt : DeclaresAt lines block typing number name type
  least : ∀ i other, DeclaresAt lines block typing i name other → number ≤ i

/-- Each line that declares a field is in one entry, that of its type, and no other line is in any.
Lines within an entry, and entries by their first lines, are in the order of the body. -/
structure PartitionsBody (uses : List TypeUse) : Prop where
  one_entry : ∀ number name type, DeclaresAt lines block typing number name type →
    ∃ use ∈ uses, use.type = type ∧ number ∈ use.lines ∧
      ∀ other ∈ uses, number ∈ other.lines → other = use
  only_declaring : ∀ use ∈ uses, ∀ number ∈ use.lines,
    ∃ name, DeclaresAt lines block typing number name use.type
  types_distinct : uses.Pairwise (·.type ≠ ·.type)
  lines_increasing : ∀ use ∈ uses, use.lines.Pairwise (· < ·)
  first_name : ∀ use ∈ uses, ∃ first ∈ use.lines.head?,
    DeclaresAt lines block typing first use.firstName use.type
  ordered : uses.Pairwise fun use later =>
    ∃ first ∈ use.lines.head?, ∃ next ∈ later.lines.head?, first < next

/-- The names are those that are declared, each with the type of its first declaration, in the order
of their first declarations. -/
structure NamesBody (types : List (Text × Text)) : Prop where
  mem_names : ∀ name, name ∈ types.map (·.1) ↔
    ∃ number type, DeclaresAt lines block typing number name type
  mem_types : ∀ name type, (name, type) ∈ types ↔
    ∃ number, FirstDeclaresAt lines block typing number name type
  names_distinct : types.Pairwise (·.1 ≠ ·.1)
  ordered : types.Pairwise fun entry later =>
    ∃ first next, FirstDeclaresAt lines block typing first entry.1 entry.2 ∧
      FirstDeclaresAt lines block typing next later.1 later.2 ∧ first < next

structure FieldIndex.Faithful (index : FieldIndex) : Prop where
  uses : PartitionsBody lines block typing index.uses
  types : NamesBody lines block typing index.types
  types_used : ∀ entry ∈ index.types, ∃ use ∈ index.uses, use.type = entry.2

end

variable {lines : List Text} {block : Block} {typing : Option Nat}

-- ---------------------------------------------------------------------------
-- The declarations of a block
-- ---------------------------------------------------------------------------

theorem mem_declarations_iff {declared : Declaration} :
    declared ∈ declarations lines block typing ↔
      DeclaresAt lines block typing declared.line declared.name declared.type := by
  rw [declarations_eq_filter, List.mem_filter, mem_declarations, decide_eq_true_iff]
  constructor
  · rintro ⟨⟨hstart, hstop, hdeclares⟩, htyping⟩
    exact ⟨hstart, Nat.lt_min.2 ⟨hstop, hdeclares.lt_length⟩, htyping, hdeclares⟩
  · rintro ⟨hstart, hstop, htyping, hdeclares⟩
    exact ⟨⟨hstart, (Nat.lt_min.1 hstop).1, hdeclares⟩, htyping⟩

theorem DeclaresAt.mem {number : Nat} {name type : Text}
    (h : DeclaresAt lines block typing number name type) :
    ⟨number, name, type⟩ ∈ declarations lines block typing := mem_declarations_iff.2 h

theorem DeclaresAt.unique {number : Nat} {name type name' type' : Text}
    (h : DeclaresAt lines block typing number name type)
    (h' : DeclaresAt lines block typing number name' type') : name = name' ∧ type = type' :=
  h.declares.unique h'.declares

theorem pairwise_line_declarations (lines : List Text) (block : Block) (typing : Option Nat) :
    (declarations lines block typing).Pairwise (·.line < ·.line) := by
  rw [declarations_eq_filter]
  exact (pairwise_declarations lines block).sublist List.filter_sublist

theorem mem_firsts_name_iff {first : Declaration} :
    first ∈ firsts (·.name) (declarations lines block typing) ↔
      FirstDeclaresAt lines block typing first.line first.name first.type := by
  rw [mem_firsts_iff (pairwise_line_declarations lines block typing), mem_declarations_iff]
  constructor
  · rintro ⟨hdeclares, hle⟩
    exact ⟨hdeclares, fun i other hother => hle _ hother.mem rfl⟩
  · rintro ⟨hdeclares, hle⟩
    exact ⟨hdeclares, fun d hd hname => hle d.line d.type (hname ▸ mem_declarations_iff.1 hd)⟩

theorem FirstDeclaresAt.mem {number : Nat} {name type : Text}
    (h : FirstDeclaresAt lines block typing number name type) :
    ⟨number, name, type⟩ ∈ firsts (·.name) (declarations lines block typing) :=
  mem_firsts_name_iff.2 h

-- ---------------------------------------------------------------------------
-- The entries
-- ---------------------------------------------------------------------------

namespace FieldIndex

theorem partitionsBody_usesOf (lines : List Text) (block : Block) (typing : Option Nat) :
    PartitionsBody lines block typing (usesOf (declarations lines block typing)) := by
  have hsorted := pairwise_line_declarations lines block typing
  constructor
  case one_entry =>
    intro number name type hdeclares
    obtain ⟨first, hfirst, htype⟩ := exists_mem_firsts (·.type) hdeclares.mem
    refine ⟨_, mem_usesOf_iff.2 ⟨first, hfirst, rfl⟩, htype,
      mem_lines_useOf.2 ⟨_, hdeclares.mem, htype.symm, rfl⟩, ?_⟩
    intro other hother hnumber
    obtain ⟨first', hfirst', rfl⟩ := mem_usesOf_iff.1 hother
    obtain ⟨d, hd, htype', hline⟩ := mem_lines_useOf.1 hnumber
    -- One line declares one type, so both entries are of that type.
    obtain rfl := eq_of_line_eq hsorted hd hdeclares.mem hline
    rw [eq_of_pairwise_ne (pairwise_key_firsts _ _) hfirst' hfirst (htype'.symm.trans htype.symm)]
  case only_declaring =>
    intro use huse number hnumber
    obtain ⟨first, -, rfl⟩ := mem_usesOf_iff.1 huse
    obtain ⟨d, hd, htype, rfl⟩ := mem_lines_useOf.1 hnumber
    have hdeclares := mem_declarations_iff.1 hd
    rw [htype] at hdeclares
    exact ⟨d.name, hdeclares⟩
  case types_distinct => exact pairwise_usesOf _
  case lines_increasing =>
    intro use huse
    obtain ⟨first, -, rfl⟩ := mem_usesOf_iff.1 huse
    exact pairwise_lines_useOf hsorted first
  case first_name =>
    intro use huse
    obtain ⟨first, hfirst, rfl⟩ := mem_usesOf_iff.1 huse
    exact ⟨first.line, head?_lines_useOf hsorted hfirst,
      mem_declarations_iff.1 ((sublist_firsts _ _).subset hfirst)⟩
  case ordered =>
    rw [usesOf_eq_map_firsts]
    refine List.pairwise_map.2 ((hsorted.sublist (sublist_firsts _ _)).imp_of_mem ?_)
    intro first later hfirst hlater hlt
    exact ⟨first.line, head?_lines_useOf hsorted hfirst, later.line,
      head?_lines_useOf hsorted hlater, hlt⟩

-- ---------------------------------------------------------------------------
-- The names
-- ---------------------------------------------------------------------------

theorem mem_typesOf_iff {name type : Text} :
    (name, type) ∈ typesOf (declarations lines block typing) ↔
      ∃ number, FirstDeclaresAt lines block typing number name type := by
  rw [typesOf_eq_map_firsts, List.mem_map]
  constructor
  · rintro ⟨first, hmem, heq⟩
    cases heq
    exact ⟨first.line, mem_firsts_name_iff.1 hmem⟩
  · rintro ⟨number, hfirst⟩
    exact ⟨_, hfirst.mem, rfl⟩

theorem namesBody_typesOf (lines : List Text) (block : Block) (typing : Option Nat) :
    NamesBody lines block typing (typesOf (declarations lines block typing)) := by
  have hsorted := pairwise_line_declarations lines block typing
  constructor
  case mem_names =>
    intro name
    rw [typesOf_eq_map_firsts, List.map_map, List.mem_map]
    constructor
    · rintro ⟨first, hmem, rfl⟩
      exact ⟨first.line, first.type, (mem_firsts_name_iff.1 hmem).declaresAt⟩
    · rintro ⟨number, type, hdeclares⟩
      exact exists_mem_firsts (·.name) hdeclares.mem
  case mem_types => exact fun name type => mem_typesOf_iff
  case names_distinct =>
    rw [typesOf_eq_map_firsts]
    exact List.pairwise_map.2 (pairwise_key_firsts _ _)
  case ordered =>
    rw [typesOf_eq_map_firsts]
    refine List.pairwise_map.2 ((hsorted.sublist (sublist_firsts _ _)).imp_of_mem ?_)
    intro first later hmem hlater hlt
    exact ⟨first.line, later.line, mem_firsts_name_iff.1 hmem, mem_firsts_name_iff.1 hlater, hlt⟩

theorem faithful_ofBlock (lines : List Text) (block : Block) (typing : Option Nat) :
    (ofBlock lines block typing).Faithful lines block typing where
  uses := partitionsBody_usesOf lines block typing
  types := namesBody_typesOf lines block typing
  types_used := by
    intro entry hentry
    obtain ⟨number, hfirst⟩ := mem_typesOf_iff.1 hentry
    obtain ⟨use, huse, htype, -⟩ :=
      (partitionsBody_usesOf lines block typing).one_entry _ _ _ hfirst.declaresAt
    exact ⟨use, huse, htype⟩

end FieldIndex

-- ---------------------------------------------------------------------------
-- No other index
-- ---------------------------------------------------------------------------

theorem FirstDeclaresAt.unique {number number' : Nat} {name type type' : Text}
    (h : FirstDeclaresAt lines block typing number name type)
    (h' : FirstDeclaresAt lines block typing number' name type') :
    number = number' ∧ type = type' := by
  obtain rfl := Nat.le_antisymm (h.least _ _ h'.declaresAt) (h'.least _ _ h.declaresAt)
  exact ⟨rfl, (h.declaresAt.unique h'.declaresAt).2⟩

namespace PartitionsBody
variable {uses uses' : List TypeUse}

theorem mem_lines_iff (h : PartitionsBody lines block typing uses) {use : TypeUse}
    (huse : use ∈ uses) {number : Nat} :
    number ∈ use.lines ↔ ∃ name, DeclaresAt lines block typing number name use.type := by
  refine ⟨h.only_declaring use huse number, ?_⟩
  rintro ⟨name, hdeclares⟩
  obtain ⟨own, hown, htype, hnumber, -⟩ := h.one_entry number name use.type hdeclares
  rwa [← eq_of_pairwise_ne h.types_distinct hown huse htype]

theorem subset (h : PartitionsBody lines block typing uses)
    (h' : PartitionsBody lines block typing uses') {use : TypeUse} (huse : use ∈ uses) :
    use ∈ uses' := by
  obtain ⟨first, hfirst, hdeclares⟩ := h.first_name use huse
  obtain ⟨other, hother, htype, -⟩ := h'.one_entry _ _ _ hdeclares
  have hlines : other.lines = use.lines := by
    refine eq_of_mem_iff_of_pairwise (h'.lines_increasing other hother)
      (h.lines_increasing use huse) Nat.lt_irrefl (fun _ _ => Nat.lt_asymm) fun number => ?_
    rw [h'.mem_lines_iff hother, h.mem_lines_iff huse, htype]
  obtain ⟨first', hfirst', hdeclares'⟩ := h'.first_name other hother
  have hname : other.firstName = use.firstName := by
    rw [hlines, hfirst] at hfirst'
    cases hfirst'
    exact (hdeclares'.unique hdeclares).1
  obtain ⟨type, lines', firstName⟩ := other
  obtain ⟨type', lines'', firstName'⟩ := use
  simp only at htype hlines hname
  subst htype hlines hname
  exact hother

theorem unique (h : PartitionsBody lines block typing uses)
    (h' : PartitionsBody lines block typing uses') : uses = uses' := by
  refine eq_of_mem_iff_of_pairwise h.ordered h'.ordered ?_ ?_ fun use => ⟨h.subset h', h'.subset h⟩
  · rintro use ⟨first, hfirst, next, hnext, hlt⟩
    rw [hfirst] at hnext
    cases hnext
    exact Nat.lt_irrefl _ hlt
  · rintro use later ⟨first, hfirst, next, hnext, hlt⟩ ⟨next', hnext', first', hfirst', hlt'⟩
    rw [hnext] at hnext'
    rw [hfirst] at hfirst'
    cases hnext'
    cases hfirst'
    exact Nat.lt_asymm hlt hlt'

end PartitionsBody

theorem NamesBody.unique {types types' : List (Text × Text)}
    (h : NamesBody lines block typing types) (h' : NamesBody lines block typing types') :
    types = types' := by
  refine eq_of_mem_iff_of_pairwise h.ordered h'.ordered ?_ ?_ fun entry => ?_
  · rintro entry ⟨first, next, hfirst, hnext, hlt⟩
    rw [(hfirst.unique hnext).1] at hlt
    exact Nat.lt_irrefl _ hlt
  · rintro entry later ⟨first, next, hfirst, hnext, hlt⟩ ⟨next', first', hnext', hfirst', hlt'⟩
    rw [(hfirst'.unique hfirst).1, (hnext'.unique hnext).1] at hlt'
    exact Nat.lt_asymm hlt hlt'
  · rw [h.mem_types, h'.mem_types]

/-- The index of a block divides its body into the lines of each type, and gives each name the type
of its first declaration. No other index does. -/
theorem FieldIndex.faithful_iff_eq_ofBlock (lines : List Text) (block : Block)
    (typing : Option Nat) (index : FieldIndex) :
    index.Faithful lines block typing ↔ index = FieldIndex.ofBlock lines block typing := by
  have hbuilt := FieldIndex.faithful_ofBlock lines block typing
  constructor
  · intro h
    exact congrArg₂ FieldIndex.mk (h.uses.unique hbuilt.uses) (h.types.unique hbuilt.types)
  · rintro rfl
    exact hbuilt

example :
    FieldIndex.ofBlock ["model A \x7b".toList, "id Int".toList, "name String".toList, "n Int".toList,
        "id String".toList, ['}']] ⟨.model, ⟨⟨0, 0⟩, ⟨5, 1⟩⟩, Range.onLine 0 6 7, ['A']⟩ (some 3) =
      ⟨[⟨"Int".toList, [1], "id".toList⟩, ⟨"String".toList, [2, 4], "name".toList⟩],
        [("id".toList, "Int".toList), ("name".toList, "String".toList)]⟩ := by decide

end SchemaAssist
