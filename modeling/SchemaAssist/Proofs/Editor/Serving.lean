import SchemaAssist.Editor.Serving
import SchemaAssist.Proofs.Cursor.RelationLists
import SchemaAssist.Proofs.Editor.Reading

/-!
# The answers, step by step

Taken step by step, the block of a word, its hover text, the context of a cursor and the items
offered there are what their plain forms say (`gives_blockForWord?`, `gives_hoverText?`,
`gives_context`, `gives_items`).
-/

namespace SchemaAssist

/-- At most one run of word characters ends in a text, and with the text, exactly if nothing stands
behind the first run. -/
theorem wordEnds_iff (number : Nat) (text : Text) :
    wordEnds number text = [] ∨ wordEnds number text = [number + text.length] ↔
      (text.dropWhile (!Text.isWord ·)).all Text.isWord = true := by
  induction text generalizing number with
  | nil => simp [wordEnds]
  | cons c text ih =>
    rw [List.length_cons, ← Nat.add_assoc, Nat.add_right_comm]
    cases hc : Text.isWord c with
    | false => simpa [wordEnds, hc] using ih (number + 1)
    | true =>
      cases text with
      | nil => simp [wordEnds, hc]
      | cons d text =>
        cases hd : Text.isWord d with
        | true => simpa [wordEnds, hc, hd] using ih (number + 1)
        | false => simp [wordEnds, hc, hd]

namespace Run

variable {fault : Failure → Prop} {noted : LogEntry → Prop}

theorem gives_currentLine (raw : List Text) (number : Nat) :
    Gives fault noted (currentLine raw number) (Text.lineOf raw number) := by
  unfold currentLine
  split
  · next hlt => exact gives_need (Text.getElem?_eq_some_lineOf hlt)
  · next hge =>
    rw [Text.lineOf_eq_nil (Nat.le_of_not_lt hge)]
    exact gives_pure []

-- ---------------------------------------------------------------------------
-- The block of a word
-- ---------------------------------------------------------------------------

theorem gives_blockForWord? (text : Text) (position : Position) :
    Gives fault (Recovery (Text.trimmedLines text)) (blockForWord? text position)
      (SchemaAssist.blockForWord? text position) := by
  refine (gives_currentLine (Text.lines text) position.line).bind ?_
  unfold SchemaAssist.blockForWord? wordAt
  cases hword : wordAround (Text.lineOf (Text.lines text) position.line)
    (Text.indexOfColumn (Text.lineOf (Text.lines text) position.line) position.character) with
  | nil => simpa [Text.lineAt, hword] using gives_pure none
  | cons c word => simpa [Text.lineAt, hword] using gives_blockNamed? (c :: word) _

theorem gives_hoverLines (lines : List Text) (block : Block) :
    Gives fault noted (hoverLines lines block) (Hover.summary lines block) := by
  refine (gives_fieldIndex lines block none).bind ?_
  unfold Hover.summary
  cases block.kind with
  | enum => exact (gives_fieldNames lines block none).bind (gives_pure _)
  | generator | datasource | model | type | view => exact gives_pure _

theorem gives_hoverText? (text : Text) (position : Position) :
    Gives fault (Recovery (Text.trimmedLines text)) (hoverText? text position)
      (Request.hoverText? text position) := by
  refine (gives_blockForWord? text position).bind ?_
  unfold Request.hoverText?
  cases SchemaAssist.blockForWord? text position with
  | none => exact gives_pure none
  | some block => exact (gives_hoverLines (Text.trimmedLines text) block).bind (gives_pure _)

-- ---------------------------------------------------------------------------
-- Lists
-- ---------------------------------------------------------------------------

theorem gives_bracketPair (opening closing : Char) :
    Gives fault noted (bracketPair [opening, closing]) ⟨opening, closing⟩ :=
  (gives_need rfl).bind ((gives_need rfl).bind (gives_pure _))

theorem gives_insideList (line : Text) (column : Nat) :
    Gives fault noted (insideList line column) (insidePair line column .square) :=
  (gives_bracketPair '[' ']').bind (gives_pure _)

theorem gives_insideFieldArgument (line : Text) (column : Nat) :
    Gives fault noted (insideFieldArgument line column)
      (SchemaAssist.insideFieldArgument line column) :=
  (gives_bracketPair '(' ')').bind (gives_pure _)

theorem gives_winner (winner : RelationList) (property : Text) : Gives fault noted
    (do return decide ((← need .outOfRange [winner.name].head?) = property))
    (decide (winner.name = property)) := by
  have hhead : [winner.name].head? = some winner.name := rfl
  exact (gives_need hhead).bind (gives_pure _)

theorem gives_insideRelationList (line : Text) (words : List Text) (list : RelationList)
    (column : Nat) :
    Gives fault noted (insideRelationList line words list.name column)
      (SchemaAssist.insideRelationList line words list.name column) := by
  refine (gives_insideList line column).bind ?_
  rw [SchemaAssist.insideRelationList, RelationList.ofName?_eq_some_iff.2 rfl]
  cases insidePair line column .square with
  | false => exact gives_pure false
  | true =>
    have hnames : RelationList.fields.name ≠ RelationList.references.name := by decide
    generalize hfields : lastMention RelationList.fields.name words = fields
    generalize hreferences : lastMention RelationList.references.name words = references
    have hmax : [fields, references].max? = some (max fields references) := rfl
    simp only [List.map_cons, List.map_nil, hfields, hreferences, Bool.true_and]
    refine (gives_need hmax).bind ?_
    rcases Nat.lt_trichotomy fields references with hlt | rfl | hlt
    · have hvalue : decide (lastMention list.other.name words < lastMention list.name words) =
          decide (RelationList.references.name = list.name) := by
        cases list <;>
          simp [RelationList.other, hfields, hreferences, hnames.symm, hlt, Nat.le_of_lt hlt]
      rw [hvalue, Nat.max_eq_right (Nat.le_of_lt hlt)]
      simpa [Nat.ne_of_lt hlt, Nat.ne_zero_of_lt hlt] using gives_winner .references list.name
    · have hvalue : decide (lastMention list.other.name words < lastMention list.name words) =
          false := by
        cases list <;> simp [RelationList.other, hfields, hreferences]
      rw [hvalue]
      simpa using gives_pure false
    · have hvalue : decide (lastMention list.other.name words < lastMention list.name words) =
          decide (RelationList.fields.name = list.name) := by
        cases list <;>
          simp [RelationList.other, hfields, hreferences, hnames, hlt, Nat.le_of_lt hlt]
      rw [hvalue, Nat.max_eq_left (Nat.le_of_lt hlt)]
      simpa [Nat.ne_of_lt hlt, Nat.ne_zero_of_lt hlt] using gives_winner .fields list.name

-- ---------------------------------------------------------------------------
-- The context of a cursor
-- ---------------------------------------------------------------------------

theorem gives_onFirstWord (line : Text) (column : Nat) :
    Gives fault noted (onFirstWord line column) (SchemaAssist.onFirstWord line column) := by
  unfold onFirstWord SchemaAssist.onFirstWord
  have hends := wordEnds_iff 0 (Text.beforeColumn line column)
  cases (Text.trim line).isEmpty with
  | true => exact gives_pure true
  | false =>
    rw [Bool.false_or]
    match hfound : wordEnds 0 (Text.beforeColumn line column) with
    | [] =>
      rw [hends.1 (.inl hfound)]
      simpa [hfound] using gives_pure true
    | [stop] =>
      have hvalue : ((Text.beforeColumn line column).dropWhile (!Text.isWord ·)).all Text.isWord =
          decide (stop = (Text.beforeColumn line column).length) := by
        rw [Bool.eq_iff_iff, ← hends, hfound]
        simp
      have hhead : Gives fault noted (need .outOfRange (some stop)) stop := gives_need rfl
      rw [hvalue]
      simpa [hfound] using
        hhead.map fun first => decide (first = (Text.beforeColumn line column).length)
    | first :: second :: rest =>
      have hvalue : ((Text.beforeColumn line column).dropWhile (!Text.isWord ·)).all Text.isWord =
          false := by
        rw [← Bool.not_eq_true, ← hends, hfound]
        simp
      rw [hvalue]
      simpa [hfound] using gives_pure false

theorem gives_pathBefore (line : Text) (column : Nat) :
    Gives fault noted (pathBefore line column) (Context.pathBefore line column) := by
  unfold pathBefore Context.pathBefore
  cases hwords : wordsBefore line column with
  | nil => exact gives_pure []
  | cons word words =>
    have hlast := List.getLast?_eq_some_getLast (List.cons_ne_nil word words)
    rw [hlast]
    exact (gives_need hlast).bind (gives_pure _)

theorem gives_listContext? (line : Text) (column : Nat) :
    Gives fault noted (listContext? line column) (Context.ofList? line column) := by
  refine (gives_insideList line column).bind ?_
  unfold Context.ofList?
  dsimp only
  cases insidePair line column .square with
  | false => exact gives_pure none
  | true =>
    refine (gives_pathBefore line column).bind ?_
    cases (Context.pathBefore line column).isEmpty with
    | false => exact gives_pure _
    | true =>
      refine (gives_insideRelationList line _ .fields column).bind ?_
      cases SchemaAssist.insideRelationList line (wordsBefore line column)
        RelationList.fields.name column with
      | true => exact gives_pure _
      | false =>
        refine (gives_insideRelationList line _ .references column).bind ?_
        cases SchemaAssist.insideRelationList line (wordsBefore line column)
          RelationList.references.name column <;> exact gives_pure _

theorem gives_fieldLineContext (text : Text) (position : Position) :
    Gives fault noted (fieldLineContext text (Text.lineAt text position.line) position)
      (Context.ofFieldLine text position) := by
  unfold fieldLineContext Context.ofFieldLine
  dsimp only
  generalize Text.lineAt text position.line = line
  cases isBlockAttribute (Text.trim line) with
  | true => exact gives_pure _
  | false =>
    refine (gives_onFirstWord line position.character).bind ?_
    cases SchemaAssist.onFirstWord line position.character with
    | true => exact gives_pure _
    | false =>
      cases afterFieldAndType position text (wordsBefore line position.character) <;>
        exact gives_pure _

theorem gives_bodyContext (kind : Kind) (text : Text) (position : Position) :
    Gives fault noted (bodyContext kind text (Text.lineAt text position.line) position)
      (Context.inBody kind text position) := by
  have hline : Gives fault noted (fieldLineContext text (Text.lineAt text position.line) position)
      (Context.ofFieldLine text position) := gives_fieldLineContext text position
  unfold bodyContext Context.inBody
  dsimp only
  generalize Text.lineAt text position.line = line at hline ⊢
  cases insideQuotes line position.character with
  | true => exact gives_pure _
  | false =>
    refine (gives_insideFieldArgument line position.character).bind ?_
    cases SchemaAssist.insideFieldArgument line position.character with
    | true => exact gives_pure _
    | false =>
      refine (gives_listContext? line position.character).bind ?_
      cases Context.ofList? line position.character with
      | some context => exact gives_pure context
      | none =>
        cases kind with
        | datasource | generator | enum => exact gives_pure _
        | model | type | view => exact hline

theorem gives_context (text : Text) (position : Position) :
    Gives fault (Recovery (Text.trimmedLines text)) (context text position)
      (Context.detect text position) := by
  refine (gives_currentLine (Text.lines text) position.line).bind ?_
  refine (gives_blockAt? position.line (Text.trimmedLines text)).bind ?_
  unfold Context.detect
  cases Block.at? position.line (Text.trimmedLines text) with
  | none => exact gives_pure _
  | some block =>
    dsimp only
    split
    · exact gives_pure _
    · exact gives_bodyContext block.kind text position

-- ---------------------------------------------------------------------------
-- Completion items
-- ---------------------------------------------------------------------------

theorem gives_ownFields (lines : List Text) (position : Position) :
    Gives fault (Recovery lines) (ownFields lines position)
      (Completion.ownFields lines position) := by
  refine (gives_blockAt? position.line lines).bind ?_
  unfold Completion.ownFields
  cases Block.at? position.line lines with
  | none => exact gives_pure []
  | some block => exact gives_fieldNames lines block (some position.line)

theorem gives_referencedFields (lines : List Text) (line : Text) :
    Gives fault (Recovery lines) (referencedFields lines line)
      (Completion.referencedFields lines line) := by
  unfold referencedFields Completion.referencedFields SchemaAssist.fieldType?
  rcases Text.words line with _ | ⟨_, _ | ⟨type, rest⟩⟩
  · exact gives_pure []
  · exact gives_pure []
  · refine (gives_need rfl).bind ?_
    simp only [List.getElem?_cons_succ, List.getElem?_cons_zero, Option.map_some]
    cases relationTarget type with
    | nil => exact gives_pure []
    | cons c target =>
      dsimp only
      refine (gives_blockNamed? (c :: target) lines).bind ?_
      cases Block.named? (c :: target) lines with
      | none => exact gives_pure []
      | some block => exact gives_fieldNames lines block none

theorem gives_compositeFields (lines : List Text) (line : Text) (position : Position) :
    Gives fault (Recovery lines) (compositeFields lines line position)
      (Completion.compositeFields lines line position) := by
  refine (gives_blockAt? position.line lines).bind ?_
  refine (gives_pathBefore line position.character).bind ?_
  unfold Completion.compositeFields
  cases Block.at? position.line lines with
  | none => exact gives_pure []
  | some block =>
    cases Context.pathBefore line position.character with
    | nil => exact gives_pure []
    | cons field path =>
      exact (gives_fieldIndex lines block (some position.line)).bind
        (gives_pathFields lines (field :: path) _)

theorem gives_items (text : Text) (position : Position) :
    Gives fault (Recovery (Text.trimmedLines text)) (items text position)
      (Completion.items text position) := by
  refine (gives_context text position).bind ?_
  refine (gives_currentLine (Text.lines text) position.line).bind ?_
  unfold Completion.items
  cases Context.detect text position with
  | blockProperty =>
    exact (gives_blockAt? position.line (Text.trimmedLines text)).bind (gives_pure _)
  | relationFields => exact (gives_ownFields (Text.trimmedLines text) position).bind (gives_pure _)
  | relationReferences =>
    exact (gives_referencedFields (Text.trimmedLines text) _).bind (gives_pure _)
  | compositePath =>
    exact (gives_compositeFields (Text.trimmedLines text) _ position).bind (gives_pure _)
  | topLevel | fieldType | fieldAttribute | blockAttribute => exact gives_pure _
  | string | fieldArgument | fieldName | enumValue => exact gives_pure []

end Run
end SchemaAssist
