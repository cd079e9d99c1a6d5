import SchemaAssist.Proofs.Block.Lookup
import SchemaAssist.Proofs.Cursor.Word
import SchemaAssist.Proofs.Editor.NamePlace
import SchemaAssist.Proofs.Editor.Responses

/-!
# Asking for a definition

A definition request is answered if the word at the cursor names exactly one block, and with the
range of that block's name (`answersDefinition_iff`). On the untrimmed line the name stands between
characters of no word, behind characters of one unit each; so wherever on its range the request is
made again, the word at the cursor is the name, and the answer is the same.
-/

namespace SchemaAssist

def AnswersDefinition (uri text : Text) (position : Position) (range : Range) : Prop :=
  Request.respond uri (some text) (.definition position.line position.character) =
    ⟨.definition (some ⟨uri, range⟩), []⟩

theorem respond_definition (uri text : Text) (position : Position) :
    Request.respond uri (some text) (.definition position.line position.character) =
      ⟨.definition ((definitionRange? text position).map fun range => ⟨uri, range⟩), []⟩ := by
  have hnumbers : (Request.definition position.line position.character).NonNegative :=
    ⟨Int.natCast_nonneg _, Int.natCast_nonneg _⟩
  rw [Request.respond_eq, if_pos hnumbers]
  rfl

theorem blockForWord?_eq_some_iff {text : Text} {position : Position} {block : Block} :
    blockForWord? text position = some block ↔
      wordAt text position ≠ [] ∧
        Block.namesakes (wordAt text position) (Text.trimmedLines text) = [block] := by
  rw [blockForWord?, ← named?_eq_some_iff]
  cases wordAt text position with
  | nil => simp
  | cons c word => simp

theorem answersDefinition_iff {uri text : Text} {position : Position} {range : Range} :
    AnswersDefinition uri text position range ↔
      ∃ block, (wordAt text position ≠ [] ∧
        Block.namesakes (wordAt text position) (Text.trimmedLines text) = [block]) ∧
        block.nameRange.inDocument (Text.lines text) = range := by
  rw [AnswersDefinition, respond_definition]
  simp only [← blockForWord?_eq_some_iff, ← Option.map_eq_some_iff, definitionRange?]
  cases (blockForWord? text position).map fun block =>
      block.nameRange.inDocument (Text.lines text) <;> simp

theorem mem_scan_of_namesakes {name : Text} {lines : List Text} {block : Block}
    (h : Block.namesakes name lines = [block]) : block ∈ Block.scan lines ∧ block.name = name := by
  have hmem : block ∈ Block.namesakes name lines := by rw [h]; exact List.mem_singleton_self block
  obtain ⟨hscan, hname, -⟩ := mem_namesakes_iff.1 hmem
  exact ⟨hscan, hname⟩

namespace NamePlace
variable {text : Text} {block : Block} (place : NamePlace text block)
include place

theorem not_word_before : ∀ c ∈ place.before.getLast?, Text.isWord c = false :=
  fun c hc => Text.isWord_eq_false_of_isSpace (place.space_before c hc)

theorem not_word_after : ∀ c ∈ place.after.head?, Text.isWord c = false := by
  intro c hc
  rcases place.end_after c hc with hspace | rfl
  · exact Text.isWord_eq_false_of_isSpace hspace
  · decide +kernel

theorem wordAt_eq (hword : ∀ c ∈ block.name, Text.isWord c = true) {column : Nat}
    (hlow : place.before.length ≤ column)
    (hhigh : column ≤ place.before.length + block.name.length) :
    wordAt text ⟨block.range.start.line, column⟩ = block.name := by
  obtain ⟨count, rfl⟩ := Nat.exists_eq_add_of_le hlow
  have hindex := Text.indexOfColumn_append place.narrow_before (block.name ++ place.after) count
  have hcount : Text.indexOfColumn (block.name ++ place.after) count ≤ count :=
    Text.indexOfColumn_le_toNat _ _
  simp only [wordAt, place.line_eq]
  rw [List.append_assoc, hindex, ← List.append_assoc]
  exact wordAround_eq place.not_word_before hword place.not_word_after (Nat.le_add_right _ _)
    (Nat.le_trans (Nat.add_le_add_left hcount _) hhigh)

end NamePlace

/-- A definition request is answered exactly if there is a word at the cursor and it names exactly
one model, type, enum or view block. The range of the answer selects that word, and a request at any
of its columns, the last one included, is answered with the same range. -/
theorem definition_lands_on_word (uri text : Text) (position : Position) :
    ((∃ range, AnswersDefinition uri text position range) ↔
      wordAt text position ≠ [] ∧
        ∃ block, Block.namesakes (wordAt text position) (Text.trimmedLines text) = [block]) ∧
    ∀ range, AnswersDefinition uri text position range →
      range.Selects (Text.lines text) (wordAt text position) ∧
      ∀ column, range.start.character ≤ column → column ≤ range.stop.character →
        AnswersDefinition uri text ⟨range.start.line, column⟩ range := by
  constructor
  · simp only [answersDefinition_iff]
    constructor
    · rintro ⟨_, block, ⟨hword, hnamesakes⟩, -⟩
      exact ⟨hword, block, hnamesakes⟩
    · rintro ⟨hword, block, hnamesakes⟩
      exact ⟨_, block, ⟨hword, hnamesakes⟩, rfl⟩
  · intro range hanswer
    obtain ⟨block, ⟨hword, hnamesakes⟩, rfl⟩ := answersDefinition_iff.1 hanswer
    obtain ⟨hscan, hname⟩ := mem_scan_of_namesakes hnamesakes
    obtain ⟨place⟩ := exists_namePlace hscan
    have hrun : ∀ c ∈ block.name, Text.isWord c = true := by
      rw [hname]
      exact fun c hc => isWord_of_mem_wordAround hc
    constructor
    · rw [place.range_eq, ← hname]
      exact Range.selects_onLine place.line_eq
    · intro column hlow hhigh
      rw [place.range_eq] at hlow hhigh ⊢
      have hagain : wordAt text ⟨block.range.start.line, column⟩ = wordAt text position :=
        (place.wordAt_eq hrun hlow hhigh).trans hname
      refine answersDefinition_iff.2 ⟨block, ?_, place.range_eq⟩
      simp only [Range.onLine]
      rw [hagain]
      exact ⟨hword, hnamesakes⟩

/-- A block of an indented header line below a field of its type; the cursor behind the first unit
of the type's name. -/
theorem definition_from_field_type :
    let text := "model Post \x7b\n  author 𝒜b\n\x7d\n\tmodel 𝒜b \x7b\n\t\x7d".toList
    let range := Range.onLine 3 7 9
    AnswersDefinition "file:///a".toList text ⟨1, 10⟩ range ∧
      range.Selects (Text.lines text) "𝒜b".toList ∧
      AnswersDefinition "file:///a".toList text ⟨3, 9⟩ range := by
  intro text range
  have hanswer : AnswersDefinition "file:///a".toList text ⟨1, 10⟩ range :=
    answersDefinition_iff.2 ⟨⟨.model, ⟨⟨3, 0⟩, ⟨4, 1⟩⟩, ⟨⟨3, 6⟩, ⟨3, 8⟩⟩, "𝒜b".toList⟩,
      by decide +kernel, by decide +kernel⟩
  obtain ⟨hselects, hagain⟩ := (definition_lands_on_word _ text ⟨1, 10⟩).2 range hanswer
  have hword : wordAt text ⟨1, 10⟩ = "𝒜b".toList := by decide +kernel
  rw [hword] at hselects
  exact ⟨hanswer, hselects, hagain 9 (by decide) (by decide)⟩

end SchemaAssist
