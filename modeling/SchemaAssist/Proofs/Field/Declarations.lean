import SchemaAssist.Field.Index
import SchemaAssist.Proofs.Text.Words
import SchemaAssist.Text.Lines

/-!
# First declarations

The body of a block is made of the lines strictly between its first and its last. A field may be
declared on several of them; the index keeps the type of the first (`typeOf?_ofBlock_eq_some_iff`).
-/

namespace SchemaAssist

/-- The line names a field and then a type. Block attributes do not, whatever their words are. -/
def Declares (line name type : Text) : Prop :=
  isBlockAttribute line = false ∧ ∃ rest, Text.words line = name :: type :: rest

def FirstDeclares (lines : List Text) (block : Block) (name type : Text) : Prop :=
  ∃ number, block.range.start.line < number ∧ number < block.range.stop.line ∧
    Declares (Text.lineOf lines number) name type ∧
    ∀ i, block.range.start.line < i → i < number →
      ∀ other, ¬ Declares (Text.lineOf lines i) name other

-- ---------------------------------------------------------------------------
-- Lines
-- ---------------------------------------------------------------------------

theorem zipIdx_eq_map_lineOf (lines : List Text) :
    lines.zipIdx = (List.range' 0 lines.length).map fun number =>
      (Text.lineOf lines number, number) := by
  refine List.ext_getElem (by simp) ?_
  intro number hnumber _
  have hlt : number < lines.length := by simpa using hnumber
  simp [Text.lineOf, hlt]

theorem bodyLines_eq (lines : List Text) (block : Block) (typing : Option Nat) :
    bodyLines lines block typing =
      ((bodyNumbers lines block).filter (typing ≠ some ·)).map fun number =>
        (number, Text.lineOf lines number) := by
  have htake : (List.range' 0 lines.length).take block.range.stop.line =
      List.range' 0 (min block.range.stop.line lines.length) := by
    rcases Nat.le_total block.range.stop.line lines.length with h | h
    · rw [List.take_range'_of_length_ge h, Nat.min_eq_left h]
    · rw [List.take_range'_of_length_le h, Nat.min_eq_right h]
  rw [bodyLines, zipIdx_eq_map_lineOf, ← List.map_take, ← List.map_drop, htake, List.drop_range',
    Nat.zero_add, Nat.mul_one, bodyNumbers, List.filterMap_map, ← List.filterMap_eq_map,
    List.filterMap_filter]
  refine List.filterMap_congr fun number _ => ?_
  by_cases h : typing = some number <;> simp [h]

theorem bodyLines_none (lines : List Text) (block : Block) :
    bodyLines lines block none =
      (bodyNumbers lines block).map fun number => (number, Text.lineOf lines number) := by
  simp [bodyLines_eq]

theorem mem_bodyNumbers {lines : List Text} {block : Block} {number : Nat} :
    number ∈ bodyNumbers lines block ↔
      block.range.start.line < number ∧ number < block.range.stop.line ∧ number < lines.length := by
  rw [bodyNumbers, List.mem_range'_1]
  omega

theorem Declares.lt_length {lines : List Text} {number : Nat} {name type : Text}
    (h : Declares (Text.lineOf lines number) name type) : number < lines.length := by
  refine Nat.lt_of_not_le fun hge => ?_
  obtain ⟨-, rest, hwords⟩ := h
  rw [Text.lineOf_eq_nil hge] at hwords
  cases hwords

theorem declaration_ofLine?_eq_some_iff {number : Nat} {line : Text} {declared : Declaration} :
    Declaration.ofLine? number line = some declared ↔
      declared.line = number ∧ Declares line declared.name declared.type := by
  obtain ⟨at_, name, type⟩ := declared
  unfold Declaration.ofLine? Declares
  cases isBlockAttribute line with
  | true => simp
  | false =>
    rw [if_neg (by decide)]
    split
    · next first second rest hwords => simp [hwords, and_comm, eq_comm]
    · next hshort =>
      constructor
      · intro h
        contradiction
      · rintro ⟨-, -, rest, hwords⟩
        exact absurd hwords (hshort name type rest)

theorem declarations_none (lines : List Text) (block : Block) :
    declarations lines block none = (bodyNumbers lines block).filterMap fun number =>
      Declaration.ofLine? number (Text.lineOf lines number) := by
  rw [declarations, bodyLines_none, List.filterMap_map]
  rfl

theorem mem_declarations {lines : List Text} {block : Block} {declared : Declaration} :
    declared ∈ declarations lines block none ↔
      block.range.start.line < declared.line ∧ declared.line < block.range.stop.line ∧
        Declares (Text.lineOf lines declared.line) declared.name declared.type := by
  simp only [declarations_none, List.mem_filterMap, declaration_ofLine?_eq_some_iff,
    mem_bodyNumbers]
  constructor
  · rintro ⟨_, ⟨hstart, hstop, -⟩, rfl, hdeclares⟩
    exact ⟨hstart, hstop, hdeclares⟩
  · rintro ⟨hstart, hstop, hdeclares⟩
    exact ⟨_, ⟨hstart, hstop, hdeclares.lt_length⟩, rfl, hdeclares⟩

theorem pairwise_declarations (lines : List Text) (block : Block) :
    (declarations lines block none).Pairwise (·.line < ·.line) := by
  have hnumbers : (bodyNumbers lines block).Pairwise (· < ·) := List.pairwise_lt_range'
  rw [declarations_none]
  refine hnumbers.filterMap _ ?_
  intro number later hlt declared hdeclared next hnext
  rw [(declaration_ofLine?_eq_some_iff.1 hdeclared).1, (declaration_ofLine?_eq_some_iff.1 hnext).1]
  exact hlt

-- ---------------------------------------------------------------------------
-- Comments
-- ---------------------------------------------------------------------------

theorem isComment_eq_of_words {line name : Text} {rest : List Text}
    (hline : Text.trimStart line = line) (h : Text.words line = name :: rest) :
    isComment line = isComment name := by
  obtain ⟨tail, hparts, -, htail⟩ := Text.exists_of_words_eq_cons h
  rw [Text.indent_eq_nil hline, List.nil_append] at hparts
  have hslash : Text.isSpace '/' = false := by decide
  have hslashes : ∀ c ∈ "//".toList, Text.isSpace c = false := by simpa using hslash
  rw [hparts, isComment, isComment, Bool.eq_iff_iff, List.isPrefixOf_iff_prefix,
    List.isPrefixOf_iff_prefix, Text.isPrefix_append_iff hslashes htail]

/-- A declaration goes unnamed only if the name itself reads as a comment. -/
theorem Declares.fieldName?_eq {line name type : Text} (h : Declares line name type)
    (hname : isComment name = false) : fieldName? line = some name := by
  obtain ⟨hattribute, rest, hwords⟩ := h
  have hcomment : isComment line = false := by
    cases hline : isComment line with
    | false => rfl
    | true =>
      -- Whitespace in front of the slashes would keep the line from being a comment.
      obtain ⟨tail, rfl⟩ := List.isPrefixOf_iff_prefix.1 hline
      have hstart : Text.trimStart ("//".toList ++ tail) = "//".toList ++ tail :=
        Text.trimStart_cons (by decide) _
      rw [isComment_eq_of_words hstart hwords, hname] at hline
      contradiction
  rw [fieldName?, hcomment, hattribute, hwords]
  rfl

theorem FirstDeclares.mem_fieldNames {lines : List Text} {block : Block} {name type : Text}
    (h : FirstDeclares lines block name type) (hname : isComment name = false) :
    name ∈ fieldNames lines block none := by
  obtain ⟨number, hstart, hstop, hdeclares, -⟩ := h
  rw [fieldNames, bodyLines_none, List.filterMap_map]
  exact List.mem_filterMap.2 ⟨number, mem_bodyNumbers.2 ⟨hstart, hstop, hdeclares.lt_length⟩,
    hdeclares.fieldName?_eq hname⟩

-- ---------------------------------------------------------------------------
-- Types of names
-- ---------------------------------------------------------------------------

theorem lookup_filter_ne {name other : Text} (h : name ≠ other) (types : List (Text × Text)) :
    (types.filter (·.1 ≠ other)).lookup name = types.lookup name := by
  induction types with
  | nil => rfl
  | cons entry rest ih =>
    obtain ⟨key, type⟩ := entry
    by_cases hkey : key = other
    · subst hkey
      rw [List.filter_cons_of_neg (by simp), ih, List.lookup_cons, beq_false_of_ne h]
    · rw [List.filter_cons_of_pos (by simpa using hkey), List.lookup_cons, List.lookup_cons, ih]

theorem lookup_typesOf (declared : List Declaration) (name : Text) :
    (FieldIndex.typesOf declared).lookup name =
      (declared.find? (·.name = name)).map Declaration.type := by
  induction declared with
  | nil => rfl
  | cons first rest ih =>
    rw [FieldIndex.typesOf, List.lookup_cons]
    by_cases h : first.name = name
    · subst h
      simp
    · rw [beq_false_of_ne (Ne.symm h), List.find?_cons_of_neg (by simpa using h), ← ih]
      exact lookup_filter_ne (Ne.symm h) _

theorem any_ofLine?_iff {number : Nat} {line name : Text} :
    (Declaration.ofLine? number line).any (·.name = name) = true ↔
      ∃ type, Declares line name type := by
  rw [Option.any_eq_true]
  constructor
  · rintro ⟨declared, hline, hname⟩
    obtain rfl := of_decide_eq_true hname
    exact ⟨declared.type, (declaration_ofLine?_eq_some_iff.1 hline).2⟩
  · rintro ⟨type, hdeclares⟩
    exact ⟨⟨number, name, type⟩, declaration_ofLine?_eq_some_iff.2 ⟨rfl, hdeclares⟩, by simp⟩

theorem Declares.unique {line name type name' type' : Text} (h : Declares line name type)
    (h' : Declares line name' type') : name = name' ∧ type = type' := by
  obtain ⟨-, rest, hwords⟩ := h
  obtain ⟨-, rest', hwords'⟩ := h'
  rw [hwords] at hwords'
  cases hwords'
  exact ⟨rfl, rfl⟩

theorem typeOf?_ofBlock_eq_some_iff {lines : List Text} {block : Block} {name type : Text} :
    (FieldIndex.ofBlock lines block none).typeOf? name = some type ↔
      FirstDeclares lines block name type := by
  rw [FieldIndex.typeOf?, FieldIndex.ofBlock, FieldIndex.ofDeclarations, lookup_typesOf,
    declarations_none, List.find?_filterMap, Option.map_eq_some_iff]
  simp only [Option.bind_eq_some_iff]
  constructor
  · rintro ⟨declared, ⟨number, hfind, hline⟩, rfl⟩
    rw [bodyNumbers, List.find?_range'_eq_some, ← bodyNumbers] at hfind
    obtain ⟨hany, hmem, hfirst⟩ := hfind
    obtain ⟨hstart, hstop, -⟩ := mem_bodyNumbers.1 hmem
    obtain ⟨type, hdeclares⟩ := any_ofLine?_iff.1 hany
    obtain ⟨-, hdeclared⟩ := declaration_ofLine?_eq_some_iff.1 hline
    obtain ⟨rfl, rfl⟩ := hdeclares.unique hdeclared
    refine ⟨number, hstart, hstop, hdeclares, ?_⟩
    intro i hlow hhigh other hother
    have hnone := hfirst i hlow hhigh
    rw [any_ofLine?_iff.2 ⟨other, hother⟩] at hnone
    contradiction
  · rintro ⟨number, hstart, hstop, hdeclares, hfirst⟩
    refine ⟨⟨number, name, type⟩, ⟨number, ?_, ?_⟩, rfl⟩
    · rw [bodyNumbers, List.find?_range'_eq_some, ← bodyNumbers]
      refine ⟨any_ofLine?_iff.2 ⟨type, hdeclares⟩,
        mem_bodyNumbers.2 ⟨hstart, hstop, hdeclares.lt_length⟩, ?_⟩
      intro i hlow hhigh
      rw [Bool.not_eq_true', ← Bool.not_eq_true]
      intro hany
      obtain ⟨other, hother⟩ := any_ofLine?_iff.1 hany
      exact hfirst i hlow hhigh other hother
    · exact declaration_ofLine?_eq_some_iff.2 ⟨rfl, hdeclares⟩

end SchemaAssist
