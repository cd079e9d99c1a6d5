import SchemaAssist.Editor.Lookup
import SchemaAssist.Proofs.Editor.LineBreaks
import SchemaAssist.Proofs.Field.Partition

/-!
# The table of a hover text

A table has one row for each field of a block, and no comment among them: `ListsFields` says which
rows these are, and there is one list of them (`listsFields_iff_eq_rowsOf`). The table is left out
where the block declares nothing. A comment of two words counts as a declaration there, so a block
whose only declarations are comments is shown the head of a table without a row
(`format_tabulates_fields_iff`).
-/

namespace SchemaAssist

section
variable (lines : List Text) (block : Block)

/-- The first two words of a line inside the block, which is no comment, are that name and that
type. -/
structure FieldAt (number : Nat) (name type : Text) : Prop where
  declaresAt : DeclaresAt lines block none number name type
  not_comment : isComment (Text.lineOf lines number) = false

structure FirstFieldAt (number : Nat) (name type : Text) : Prop where
  fieldAt : FieldAt lines block number name type
  least : ∀ i other, FieldAt lines block i name other → number ≤ i

/-- One row for each name that a field has, with the type of its first field, in the order in which
the first fields stand. -/
structure ListsFields (rows : List (Text × Text)) : Prop where
  mem_names : ∀ name, name ∈ rows.map (·.1) ↔ ∃ number type, FieldAt lines block number name type
  mem_rows : ∀ name type, (name, type) ∈ rows ↔ ∃ number, FirstFieldAt lines block number name type
  names_distinct : rows.Pairwise (·.1 ≠ ·.1)
  ordered : rows.Pairwise fun row later =>
    ∃ first next, FirstFieldAt lines block first row.1 row.2 ∧
      FirstFieldAt lines block next later.1 later.2 ∧ first < next

def CommentDeclares : Prop :=
  ∃ number name type, DeclaresAt lines block none number name type ∧
    isComment (Text.lineOf lines number) = true

end

namespace Hover

def rowsOf (lines : List Text) (block : Block) : List (Text × Text) :=
  (FieldIndex.ofBlock lines block none).types.filter fun (name, _) => !isComment name

def tabulated (block : Block) (rows : List (Text × Text)) : List Text :=
  heading block ::
    if rows = [] then [] else [] :: tableHeader ++ rows.map fun (name, type) => row name type

end Hover

variable {lines : List Text} {block : Block}

-- ---------------------------------------------------------------------------
-- Which rows there are
-- ---------------------------------------------------------------------------

section
variable (htrim : ∀ line ∈ lines, Text.trim line = line)
include htrim

theorem DeclaresAt.isComment_eq {number : Nat} {name type : Text}
    (h : DeclaresAt lines block none number name type) :
    isComment (Text.lineOf lines number) = isComment name := by
  obtain ⟨-, rest, hwords⟩ := h.declares
  have hline := htrim _ (List.mem_of_getElem? (Text.getElem?_eq_some_lineOf
    (Nat.lt_min.1 h.lt_stop).2))
  exact isComment_eq_of_words (Text.trimStart_eq_self hline) hwords

theorem fieldAt_iff {number : Nat} {name type : Text} :
    FieldAt lines block number name type ↔
      DeclaresAt lines block none number name type ∧ isComment name = false := by
  constructor
  · intro h
    rw [← h.declaresAt.isComment_eq htrim]
    exact ⟨h.declaresAt, h.not_comment⟩
  · rintro ⟨hdeclares, hname⟩
    rw [← hdeclares.isComment_eq htrim] at hname
    exact ⟨hdeclares, hname⟩

/-- The comments above a field have other names, so they do not come before it. -/
theorem firstFieldAt_iff {number : Nat} {name type : Text} :
    FirstFieldAt lines block number name type ↔
      FirstDeclaresAt lines block none number name type ∧ isComment name = false := by
  constructor
  · intro h
    obtain ⟨hdeclares, hname⟩ := (fieldAt_iff htrim).1 h.fieldAt
    exact ⟨⟨hdeclares, fun i other hother => h.least i other ((fieldAt_iff htrim).2 ⟨hother, hname⟩)⟩,
      hname⟩
  · rintro ⟨hfirst, hname⟩
    exact ⟨(fieldAt_iff htrim).2 ⟨hfirst.declaresAt, hname⟩,
      fun i other hother => hfirst.least i other hother.declaresAt⟩

theorem Hover.listsFields_rowsOf (block : Block) : ListsFields lines block (rowsOf lines block) := by
  have hnames := FieldIndex.namesBody_typesOf lines block none
  have hmem : ∀ name type, (name, type) ∈ rowsOf lines block ↔
      ∃ number, FirstFieldAt lines block number name type := by
    intro name type
    rw [rowsOf, List.mem_filter]
    simp only [firstFieldAt_iff htrim, exists_and_right, Bool.not_eq_true']
    exact and_congr_left' (hnames.mem_types name type)
  constructor
  case mem_names =>
    intro name
    constructor
    · intro h
      obtain ⟨⟨_, type⟩, hrow, rfl⟩ := List.mem_map.1 h
      obtain ⟨number, hfirst⟩ := (hmem _ type).1 hrow
      exact ⟨number, type, hfirst.fieldAt⟩
    · rintro ⟨number, type, hfield⟩
      obtain ⟨hdeclares, hname⟩ := (fieldAt_iff htrim).1 hfield
      obtain ⟨⟨_, first⟩, hentry, rfl⟩ :=
        List.mem_map.1 ((hnames.mem_names name).2 ⟨number, type, hdeclares⟩)
      exact List.mem_map.2 ⟨_, List.mem_filter.2 ⟨hentry, by simpa using hname⟩, rfl⟩
  case mem_rows => exact hmem
  case names_distinct => exact hnames.names_distinct.sublist List.filter_sublist
  case ordered =>
    refine (hnames.ordered.sublist List.filter_sublist).imp_of_mem ?_
    rintro row later hrow hlater ⟨first, next, hfirst, hnext, hlt⟩
    have hname : isComment row.1 = false := by simpa using (List.mem_filter.1 hrow).2
    have hname' : isComment later.1 = false := by simpa using (List.mem_filter.1 hlater).2
    exact ⟨first, next, (firstFieldAt_iff htrim).2 ⟨hfirst, hname⟩,
      (firstFieldAt_iff htrim).2 ⟨hnext, hname'⟩, hlt⟩

end

theorem FirstFieldAt.unique {number number' : Nat} {name type type' : Text}
    (h : FirstFieldAt lines block number name type)
    (h' : FirstFieldAt lines block number' name type') : number = number' :=
  Nat.le_antisymm (h.least _ _ h'.fieldAt) (h'.least _ _ h.fieldAt)

theorem ListsFields.unique {rows rows' : List (Text × Text)} (h : ListsFields lines block rows)
    (h' : ListsFields lines block rows') : rows = rows' := by
  refine eq_of_mem_iff_of_pairwise h.ordered h'.ordered ?_ ?_ fun row => ?_
  · rintro row ⟨first, next, hfirst, hnext, hlt⟩
    exact Nat.ne_of_lt hlt (hfirst.unique hnext)
  · rintro row later ⟨first, next, hfirst, hnext, hlt⟩ ⟨next', first', hnext', hfirst', hlt'⟩
    rw [hfirst'.unique hfirst, hnext'.unique hnext] at hlt'
    exact Nat.lt_asymm hlt hlt'
  · rw [h.mem_rows, h'.mem_rows]

theorem Hover.listsFields_iff_eq_rowsOf (htrim : ∀ line ∈ lines, Text.trim line = line)
    (rows : List (Text × Text)) : ListsFields lines block rows ↔ rows = rowsOf lines block := by
  constructor
  · exact fun h => h.unique (listsFields_rowsOf htrim block)
  · rintro rfl
    exact listsFields_rowsOf htrim block

-- ---------------------------------------------------------------------------
-- What is shown
-- ---------------------------------------------------------------------------

namespace Hover

theorem summary_of_ne_enum (lines : List Text) (hkind : block.kind ≠ .enum) :
    summary lines block = heading block :: tableLines (FieldIndex.ofBlock lines block none).types := by
  rw [summary]
  split
  · contradiction
  · rfl

theorem types_eq_nil_iff (htrim : ∀ line ∈ lines, Text.trim line = line) :
    (FieldIndex.ofBlock lines block none).types = [] ↔
      rowsOf lines block = [] ∧ ¬ CommentDeclares lines block := by
  have hnames := FieldIndex.namesBody_typesOf lines block none
  constructor
  · intro hnil
    refine ⟨by rw [rowsOf, hnil]; rfl, ?_⟩
    rintro ⟨number, name, type, hdeclares, -⟩
    have hname := (hnames.mem_names name).2 ⟨number, type, hdeclares⟩
    rw [show FieldIndex.typesOf (declarations lines block none) = [] from hnil] at hname
    cases hname
  · rintro ⟨hrows, hcomment⟩
    refine List.eq_nil_iff_forall_not_mem.2 fun entry hentry => hcomment ?_
    -- A name without a row is that of a comment.
    have hname : isComment entry.1 = true := by
      simpa using List.filter_eq_nil_iff.1 hrows entry hentry
    obtain ⟨number, type, hdeclares⟩ :=
      (hnames.mem_names entry.1).1 (List.mem_map_of_mem hentry)
    exact ⟨number, entry.1, type, hdeclares, (hdeclares.isComment_eq htrim).trans hname⟩

theorem format_eq (lines : List Text) (hkind : block.kind ≠ .enum) :
    format lines block = Text.joinLines (heading block ::
      if (FieldIndex.ofBlock lines block none).types = [] then []
      else [] :: tableHeader ++ (rowsOf lines block).map fun (name, type) => row name type) := by
  rw [format, summary_of_ne_enum lines hkind, tableLines]
  simp only [List.isEmpty_iff]
  rfl

theorem format_of_fields (htrim : ∀ line ∈ lines, Text.trim line = line) (hkind : block.kind ≠ .enum)
    (h : rowsOf lines block ≠ [] ∨ ¬ CommentDeclares lines block) :
    format lines block = Text.joinLines (tabulated block (rowsOf lines block)) := by
  rw [format_eq lines hkind, tabulated]
  by_cases hrows : rowsOf lines block = []
  · have hcomment := h.resolve_left (not_not_intro hrows)
    rw [if_pos ((types_eq_nil_iff htrim).2 ⟨hrows, hcomment⟩), if_pos hrows]
  · rw [if_neg fun hnil => hrows ((types_eq_nil_iff htrim).1 hnil).1, if_neg hrows]

theorem format_of_comment (htrim : ∀ line ∈ lines, Text.trim line = line) (hkind : block.kind ≠ .enum)
    (hrows : rowsOf lines block = []) (hcomment : CommentDeclares lines block) :
    format lines block = Text.joinLines (heading block :: [] :: tableHeader) := by
  rw [format_eq lines hkind, hrows, if_neg fun hnil => ((types_eq_nil_iff htrim).1 hnil).2 hcomment]
  rfl

theorem joinLines_head_ne (block : Block) :
    Text.joinLines (heading block :: [] :: tableHeader) ≠ Text.joinLines (tabulated block []) := by
  rw [Text.joinLines_cons (by simp)]
  intro h
  simpa [Text.joinLines, tabulated] using congrArg List.length h

/-- Of a block other than an enum, the heading is shown alone if the block has no fields, and else
above a table with one row for each of them: exactly if it has fields or no comment in it has two
words. If not, the head of a table is shown without a row. -/
theorem format_tabulates_fields_iff (htrim : ∀ line ∈ lines, Text.trim line = line)
    (hkind : block.kind ≠ .enum) :
    ∃ rows, (∀ other, ListsFields lines block other ↔ other = rows) ∧
      (format lines block = Text.joinLines (tabulated block rows) ↔
        rows ≠ [] ∨ ¬ CommentDeclares lines block) ∧
      (rows = [] → CommentDeclares lines block →
        format lines block = Text.joinLines (heading block :: [] :: tableHeader)) := by
  refine ⟨rowsOf lines block, listsFields_iff_eq_rowsOf htrim, ⟨fun h => ?_, ?_⟩, ?_⟩
  · by_contra hnot
    obtain ⟨hrows, hcomment⟩ := not_or.1 hnot
    rw [not_not] at hrows hcomment
    rw [format_of_comment htrim hkind hrows hcomment, hrows] at h
    exact joinLines_head_ne block h
  · exact format_of_fields htrim hkind
  · exact format_of_comment htrim hkind

/-- A comment of two words, a block attribute, and a field that is declared twice. -/
theorem format_skips_comment :
    let lines := ["model A \x7b".toList, "// id Float".toList, "id Int".toList, "@@id id".toList,
      "id String".toList, ['\x7d']]
    let block : Block := ⟨.model, ⟨⟨0, 0⟩, ⟨5, 1⟩⟩, Range.onLine 0 6 7, ['A']⟩
    (∀ line ∈ lines, Text.trim line = line) ∧ block.kind ≠ .enum ∧
      ∃ rows, ListsFields lines block rows ∧
        format lines block = Text.joinLines (tabulated block rows) := by
  intro lines block
  have htrim : ∀ line ∈ lines, Text.trim line = line := by decide
  have hkind : block.kind ≠ .enum := by decide
  obtain ⟨rows, hrows, hformat, -⟩ := format_tabulates_fields_iff htrim hkind
  have hlists : ListsFields lines block rows := (hrows rows).2 rfl
  have hfield : FieldAt lines block 2 "id".toList "Int".toList :=
    ⟨⟨by decide, by decide, by decide, by decide, [], by decide⟩, by decide⟩
  refine ⟨htrim, hkind, rows, hlists, hformat.2 (.inl ?_)⟩
  rintro rfl
  exact absurd ((hlists.mem_names _).2 ⟨2, _, hfield⟩) (by simp)

/-- A comment of two words opens a table although nothing else is in the block. -/
theorem comment_alone_opens_table :
    let lines := ["model A \x7b".toList, "// the users".toList, ['\x7d']]
    ∃ block ∈ Block.scan lines, block.kind ≠ .enum ∧ (∀ line ∈ lines, Text.trim line = line) ∧
      (∀ entry ∈ bodyLines lines block none, isComment entry.2 = true) ∧
      format lines block ≠ heading block := by decide

end Hover
end SchemaAssist
