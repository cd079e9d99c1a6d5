import SchemaAssist.Editor.Outline
import SchemaAssist.Proofs.Block.Validity
import SchemaAssist.Proofs.Editor.NamePlace
import SchemaAssist.Proofs.Field.Declarations
import SchemaAssist.Proofs.Field.FirstOccurrences
import SchemaAssist.Proofs.Position.Checked
import SchemaAssist.Proofs.Text.Words

/-!
# The outline is a tree of ranges

Gathered type by type and sorted by line, the children of a block are its declarations line by line
(`outline_eq`), and no request for an outline fails. Every symbol selects its name within its own
range, children lie within their block one below the other, and so do the blocks in the document
(`outline_wellPlaced`).
-/

namespace SchemaAssist

theorem mapM_eq_ok {α β ε : Type} {f : α → Except ε β} {g : α → β} {list : List α}
    (h : ∀ a ∈ list, f a = .ok (g a)) : list.mapM f = .ok (list.map g) := by
  induction list with
  | nil => rfl
  | cons a list ih =>
    rw [List.mapM_cons, h a (List.mem_cons_self ..), ih fun b hb => h b (List.mem_cons_of_mem a hb)]
    rfl

-- ---------------------------------------------------------------------------
-- Ranges in trees
-- ---------------------------------------------------------------------------

theorem Position.inDocument_le (raw : List Text) {p q : Position} (h : p ≤ q) :
    p.inDocument raw ≤ q.inDocument raw := by
  rcases Position.le_def.1 h with hline | ⟨hline, hcharacter⟩
  · exact Position.le_def.2 (.inl hline)
  · refine Position.le_def.2 (.inr ⟨hline, ?_⟩)
    simp only [Position.inDocument]
    rw [hline]
    exact Nat.add_le_add_right hcharacter _

namespace Range

theorem Contains.inDocument (raw : List Text) {outer inner : Range} (h : outer.Contains inner) :
    (outer.inDocument raw).Contains (inner.inDocument raw) :=
  ⟨Position.inDocument_le raw h.1, Position.inDocument_le raw h.2⟩

def Above (range other : Range) : Prop := range.stop.line < other.start.line

end Range

structure NameWithin (raw : List Text) (name : Text) (range selection : Range) : Prop where
  selection_ordered : selection.Ordered
  contains_selection : range.Contains selection
  selects_name : selection.Selects raw name

/-- What an editor asks of a symbol with children, and that the selections are the names. -/
structure BlockSymbol.WellPlaced (raw : List Text) (symbol : BlockSymbol) : Prop where
  name_within : NameWithin raw symbol.name symbol.range symbol.selection
  child_name_within : ∀ child ∈ symbol.children,
    NameWithin raw child.name child.range child.selection
  contains_child : ∀ child ∈ symbol.children, symbol.range.Contains child.range
  children_above : symbol.children.Pairwise (·.range.Above ·.range)

/-- The names that are declared in a block, line by line. A comment declares none. -/
def declaredNames (lines : List Text) (block : Block) : List Text :=
  ((declarations lines block none).map (·.name)).filter (!isComment ·)

-- ---------------------------------------------------------------------------
-- Children
-- ---------------------------------------------------------------------------

namespace FieldSymbol

def ofDeclaration (raw : List Text) (declared : Declaration) : FieldSymbol :=
  let line := Text.lineOf raw declared.line
  let column := (Text.indent line).length
  ⟨declared.name, detailOf declared.type, Range.onLine declared.line 0 line.length,
    Range.onLine declared.line column (column + declared.name.length)⟩

def ofDeclaration? (raw : List Text) (declared : Declaration) : Option FieldSymbol :=
  if isComment declared.name then none else some (ofDeclaration raw declared)

def onLine? (raw : List Text) (number : Nat) : Option FieldSymbol :=
  (Declaration.ofLine? number (Text.trim (Text.lineOf raw number))).bind (ofDeclaration? raw)

theorem ofDeclaration?_eq_some_iff {raw : List Text} {declared : Declaration}
    {child : FieldSymbol} : ofDeclaration? raw declared = some child ↔
      isComment declared.name = false ∧ ofDeclaration raw declared = child := by
  rw [ofDeclaration?]
  cases isComment declared.name <;> simp

theorem map_name_filterMap_ofDeclaration? (raw : List Text) (declared : List Declaration) :
    (declared.filterMap (ofDeclaration? raw)).map (·.name) =
      (declared.map (·.name)).filter (!isComment ·) := by
  induction declared with
  | nil => rfl
  | cons first rest ih =>
    cases hcomment : isComment first.name with
    | true => simpa [ofDeclaration?, hcomment] using ih
    | false => simpa [ofDeclaration?, ofDeclaration, hcomment] using ih

theorem ofLine?_eq {raw : List Text} {number : Nat} {name type : Text}
    (h : Declares (Text.lineOf (raw.map Text.trim) number) name type) :
    ofLine? raw (raw.map Text.trim) type number = .ok (ofDeclaration? raw ⟨number, name, type⟩) := by
  rw [ofLine?, ofDeclaration?, ofDeclaration]
  rw [lineOf_map_trim] at h ⊢
  generalize Text.lineOf raw number = line at h ⊢
  obtain ⟨-, rest, hwords⟩ := h
  have hne : name ≠ [] := Text.ne_nil_of_mem_words (hwords ▸ List.mem_cons_self ..)
  obtain ⟨tail, hline, hname⟩ := Text.exists_eq_indent_append hwords
  have hfound : Text.indexOf? name line = some (Text.indent line).length := by
    have hsearch := Text.indexOf?_append (Text.blank_indent line) hne hname tail
    rwa [← hline] at hsearch
  have hrange : Range.ofCorners ⟨number, 0, number, line.length⟩ =
      .ok (Range.onLine number 0 line.length) :=
    Range.ofCorners_onLine number (Nat.zero_le _)
  have hselection : Range.ofCorners ⟨number, (Text.indent line).length, number,
      (Text.indent line).length + name.length⟩ = .ok (Range.onLine number
        (Text.indent line).length ((Text.indent line).length + name.length)) :=
    Range.ofCorners_onLine number (Nat.le_add_right _ _)
  simp only [hwords, List.head?_cons]
  split
  · rfl
  · simp only [hfound, hrange, hselection]
    rfl

theorem onLine?_eq {raw : List Text} {declared : Declaration}
    (h : Declares (Text.lineOf (raw.map Text.trim) declared.line) declared.name declared.type) :
    onLine? raw declared.line = ofDeclaration? raw declared := by
  rw [lineOf_map_trim] at h
  rw [onLine?, declaration_ofLine?_eq_some_iff.2 ⟨rfl, h⟩]
  rfl

section
variable {raw : List Text} {block : Block}

theorem exists_declares_of_mem_lines {use : TypeUse}
    (h : use ∈ FieldIndex.usesOf (declarations (raw.map Text.trim) block none)) {number : Nat}
    (hnumber : number ∈ use.lines) :
    ∃ declared ∈ declarations (raw.map Text.trim) block none,
      declared.type = use.type ∧ declared.line = number := by
  have hmem : (use.type, number) ∈ (FieldIndex.usesOf _).flatMap TypeUse.uses :=
    List.mem_flatMap.2 ⟨use, h, List.mem_map_of_mem hnumber⟩
  obtain ⟨declared, hdeclared, hpair⟩ := List.mem_map.1 ((FieldIndex.perm_usesOf _).subset hmem)
  obtain ⟨htype, hline⟩ := Prod.mk.inj hpair
  exact ⟨declared, hdeclared, htype, hline⟩

theorem ofLine?_use_eq {use : TypeUse}
    (h : use ∈ FieldIndex.usesOf (declarations (raw.map Text.trim) block none)) {number : Nat}
    (hnumber : number ∈ use.lines) :
    ofLine? raw (raw.map Text.trim) use.type number = .ok (onLine? raw number) := by
  obtain ⟨declared, hdeclared, htype, rfl⟩ := exists_declares_of_mem_lines h hnumber
  obtain ⟨-, -, hdeclares⟩ := mem_declarations.1 hdeclared
  rw [← htype, ofLine?_eq hdeclares, onLine?_eq hdeclares]

theorem ofUse_eq {use : TypeUse}
    (h : use ∈ FieldIndex.usesOf (declarations (raw.map Text.trim) block none)) :
    ofUse raw (raw.map Text.trim) use = .ok (use.lines.map (onLine? raw)) :=
  mapM_eq_ok fun _ hnumber => ofLine?_use_eq h hnumber

/-- Taken type by type, the children of a block are its declarations in another order. -/
theorem perm_filterMap_onLine? :
    (((FieldIndex.usesOf (declarations (raw.map Text.trim) block none)).map fun use =>
      use.lines.map (onLine? raw)).flatten.filterMap id).Perm
      ((declarations (raw.map Text.trim) block none).filterMap (ofDeclaration? raw)) := by
  have huses := (FieldIndex.perm_usesOf (declarations (raw.map Text.trim) block none)).filterMap
    fun use => onLine? raw use.2
  have hdeclared : ∀ declared ∈ declarations (raw.map Text.trim) block none,
      onLine? raw declared.line = ofDeclaration? raw declared := by
    intro declared hmem
    exact onLine?_eq (mem_declarations.1 hmem).2.2
  rw [List.filterMap_map] at huses
  rw [← List.filterMap_congr hdeclared]
  refine .trans (.of_eq ?_) huses
  simp [TypeUse.uses, List.flatMap, List.filterMap_flatten, Function.comp_def]

end

theorem pairwise_filterMap_ofDeclaration? {raw : List Text} {declared : List Declaration}
    (h : declared.Pairwise (·.line < ·.line)) {R : FieldSymbol → FieldSymbol → Prop}
    (hR : ∀ first second, first.line < second.line →
      R (ofDeclaration raw first) (ofDeclaration raw second)) :
    (declared.filterMap (ofDeclaration? raw)).Pairwise R := by
  refine h.filterMap _ ?_
  intro first second hlt child hchild next hnext
  obtain ⟨-, rfl⟩ := ofDeclaration?_eq_some_iff.1 hchild
  obtain ⟨-, rfl⟩ := ofDeclaration?_eq_some_iff.1 hnext
  exact hR first second hlt

theorem mergeSort_onLine? (raw : List Text) (block : Block) :
    ((((FieldIndex.usesOf (declarations (raw.map Text.trim) block none)).map fun use =>
      use.lines.map (onLine? raw)).flatten.filterMap id).mergeSort
        fun first second => decide (first.range.start.line ≤ second.range.start.line)) =
      (declarations (raw.map Text.trim) block none).filterMap (ofDeclaration? raw) := by
  have hsorted : ((declarations (raw.map Text.trim) block none).filterMap
      (ofDeclaration? raw)).Pairwise (·.range.start.line < ·.range.start.line) :=
    pairwise_filterMap_ofDeclaration? (pairwise_declarations _ block) fun _ _ hlt => hlt
  exact mergeSort_eq_of_perm (·.range.start.line) perm_filterMap_onLine? hsorted

theorem ofBlock_eq (raw : List Text) (block : Block) :
    ofBlock raw (raw.map Text.trim) block =
      .ok ((declarations (raw.map Text.trim) block none).filterMap (ofDeclaration? raw)) := by
  have hfound : (FieldIndex.ofBlock (raw.map Text.trim) block none).uses.mapM
      (ofUse raw (raw.map Text.trim)) = .ok _ := mapM_eq_ok fun _ => ofUse_eq
  rw [ofBlock, hfound]
  exact congrArg Except.ok (mergeSort_onLine? raw block)

end FieldSymbol

-- ---------------------------------------------------------------------------
-- Blocks
-- ---------------------------------------------------------------------------

namespace BlockSymbol

def lineByLine (raw : List Text) (block : Block) : BlockSymbol where
  name := block.name
  kind := SymbolKind.ofKind block.kind
  detail := block.kind.keyword
  range := block.range.inDocument raw
  selection := block.nameRange.inDocument raw
  children := (declarations (raw.map Text.trim) block none).filterMap
    (FieldSymbol.ofDeclaration? raw)

theorem ofBlock_eq_lineByLine (raw : List Text) (block : Block) :
    ofBlock raw (raw.map Text.trim) block = .ok (lineByLine raw block) := by
  rw [ofBlock, FieldSymbol.ofBlock_eq]
  rfl

end BlockSymbol

theorem outline_eq (text : Text) : outline text =
    .ok ((Block.scan (Text.trimmedLines text)).map (BlockSymbol.lineByLine (Text.lines text))) :=
  mapM_eq_ok fun block _ => BlockSymbol.ofBlock_eq_lineByLine (Text.lines text) block

-- ---------------------------------------------------------------------------
-- The tree
-- ---------------------------------------------------------------------------

theorem Declares.nameWithin {raw : List Text} {declared : Declaration}
    (h : Declares (Text.lineOf (raw.map Text.trim) declared.line) declared.name declared.type) :
    NameWithin raw declared.name (FieldSymbol.ofDeclaration raw declared).range
      (FieldSymbol.ofDeclaration raw declared).selection := by
  obtain ⟨-, rest, hwords⟩ := h
  rw [lineOf_map_trim] at hwords
  obtain ⟨tail, hline, -⟩ := Text.exists_eq_indent_append hwords
  have hselects := Range.selects_onLine hline
  exact {
    selection_ordered := Range.ordered_onLine (Nat.le_add_right _ _)
    contains_selection := ⟨Position.le_def.2 (.inr ⟨rfl, Nat.zero_le _⟩),
      Position.le_def.2 (.inr ⟨rfl, hselects.within⟩)⟩
    selects_name := hselects }

theorem nameWithin_of_mem_scan {text : Text} {block : Block}
    (h : block ∈ Block.scan (Text.trimmedLines text)) :
    NameWithin (Text.lines text) block.name (block.range.inDocument (Text.lines text))
      (block.nameRange.inDocument (Text.lines text)) := by
  have hvalid := valid_of_mem_scan h
  obtain ⟨place⟩ := exists_namePlace h
  exact {
    selection_ordered := Position.inDocument_le _ hvalid.nameRange_ordered
    contains_selection := hvalid.contains_name.inDocument _
    selects_name := by
      rw [place.range_eq]
      exact Range.selects_onLine place.line_eq }

theorem wellPlaced_lineByLine {text : Text} {block : Block}
    (h : block ∈ Block.scan (Text.trimmedLines text)) :
    (BlockSymbol.lineByLine (Text.lines text) block).WellPlaced (Text.lines text) := by
  have hchild : ∀ child ∈ (BlockSymbol.lineByLine (Text.lines text) block).children,
      ∃ declared ∈ declarations (Text.trimmedLines text) block none,
        FieldSymbol.ofDeclaration (Text.lines text) declared = child := by
    intro child hmem
    obtain ⟨declared, hdeclared, hchild⟩ := List.mem_filterMap.1 hmem
    exact ⟨declared, hdeclared, (FieldSymbol.ofDeclaration?_eq_some_iff.1 hchild).2⟩
  constructor
  case name_within => exact nameWithin_of_mem_scan h
  case child_name_within =>
    intro child hmem
    obtain ⟨declared, hdeclared, rfl⟩ := hchild child hmem
    exact (mem_declarations.1 hdeclared).2.2.nameWithin
  case contains_child =>
    intro child hmem
    obtain ⟨declared, hdeclared, rfl⟩ := hchild child hmem
    -- Declarations are strictly between the first and the last line, so columns do not matter.
    obtain ⟨hstart, hstop, -⟩ := mem_declarations.1 hdeclared
    exact ⟨Position.le_def.2 (.inl hstart), Position.le_def.2 (.inl hstop)⟩
  case children_above =>
    exact FieldSymbol.pairwise_filterMap_ofDeclaration? (pairwise_declarations _ block)
      fun _ _ hlt => hlt

/-- Every text has an outline, with all its blocks and what is declared in them. Every name is
selected within its symbol, the children of each block lie in it, one below the other, and the
blocks do not overlap. -/
theorem outline_wellPlaced (text : Text) : ∃ symbols, outline text = .ok symbols ∧
    symbols.map (fun symbol => (symbol.name, symbol.children.map (·.name))) =
      (Block.scan (Text.trimmedLines text)).map (fun block =>
        (block.name, declaredNames (Text.trimmedLines text) block)) ∧
    (∀ symbol ∈ symbols, symbol.WellPlaced (Text.lines text)) ∧
    symbols.Pairwise (·.range.Above ·.range) := by
  refine ⟨_, outline_eq text, ?_, ?_, ?_⟩
  · rw [List.map_map]
    refine List.map_congr_left fun block _ => ?_
    exact congrArg (block.name, ·) (FieldSymbol.map_name_filterMap_ofDeclaration? _ _)
  · intro symbol hmem
    obtain ⟨block, hblock, rfl⟩ := List.mem_map.1 hmem
    exact wellPlaced_lineByLine hblock
  · exact List.pairwise_map.2 (pairwise_above_scan (Text.trimmedLines text))

/-- Fields of two types in turn and a comment between them, in a block that the next header cuts off
on a blank line. -/
theorem outline_of_cut_off_block :
    let text := "\tmodel A \x7b\n\t id Int\n  // x y\n b B\n c Int\n  \nenum B \x7b\n\x7d".toList
    (∃ symbols, outline text = .ok symbols ∧
      symbols.map (fun symbol => (symbol.name, symbol.children.map (·.name))) =
        (Block.scan (Text.trimmedLines text)).map (fun block =>
          (block.name, declaredNames (Text.trimmedLines text) block)) ∧
      (∀ symbol ∈ symbols, symbol.WellPlaced (Text.lines text)) ∧
      symbols.Pairwise (·.range.Above ·.range)) ∧
    outline text = .ok [
      ⟨['A'], .classLike, "model".toList, ⟨⟨0, 1⟩, ⟨5, 2⟩⟩, Range.onLine 0 7 8, [
        ⟨"id".toList, some "Int".toList, Range.onLine 1 0 8, Range.onLine 1 2 4⟩,
        ⟨['b'], some ['B'], Range.onLine 3 0 4, Range.onLine 3 1 2⟩,
        ⟨['c'], some "Int".toList, Range.onLine 4 0 6, Range.onLine 4 1 2⟩]⟩,
      ⟨['B'], .enum, "enum".toList, ⟨⟨6, 0⟩, ⟨7, 1⟩⟩, Range.onLine 6 5 6, []⟩] := by
  intro text
  refine ⟨outline_wellPlaced text, (outline_eq text).trans ?_⟩
  decide +kernel

end SchemaAssist
