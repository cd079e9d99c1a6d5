import SchemaAssist.Proofs.Block.SameRole
import SchemaAssist.Proofs.Cursor.Keystroke
import SchemaAssist.Proofs.Cursor.RelationLists
import SchemaAssist.Proofs.Editor.NamePlace
import SchemaAssist.Proofs.Field.DottedPath
import SchemaAssist.Proofs.Text.Words

/-!
# Typing inside a relation list

A cursor has the context of a relation list if its line is inside a block and it is behind a text
that `InsideList` tells (`detect_eq_context_iff`). A character that belongs to a word changes
neither but for one thing: the word that is being typed can come to mention the other property,
which is then in force (`typing_keeps_list_iff`).
-/

namespace SchemaAssist

-- ---------------------------------------------------------------------------
-- The context of a list
-- ---------------------------------------------------------------------------

namespace RelationList

def context : RelationList → Context
  | .fields => .relationFields
  | .references => .relationReferences

/-- Behind that text a cursor inside a block is in that list. -/
structure InsideList (list : RelationList) (before : Text) : Prop where
  unnested : Unnested before
  bracket_open : before.count ']' < before.count '['
  no_path : ∀ word ∈ (Text.words before).getLast?, dottedPath word = []
  inForce : list.InForce (Text.words before)

theorem context_ne_topLevel (list : RelationList) : list.context ≠ .topLevel := by
  cases list <;> decide

end RelationList

namespace Context
variable {text : Text} {position : Position} {list : RelationList} {kind : Kind}

theorem pathBefore_eq_nil_iff {line : Text} {column : Nat} :
    pathBefore line column = [] ↔
      ∀ word ∈ (Text.words (Text.beforeColumn line column)).getLast?, dottedPath word = [] := by
  rw [pathBefore, wordsBefore]
  split
  · next word hword => simp [hword]
  · next hnone => simp [hnone]

theorem ofList?_eq_context_iff {line : Text} {column : Nat} :
    ofList? line column = some list.context ↔ insidePair line column .square = true ∧
      pathBefore line column = [] ∧
      insideRelationList line (wordsBefore line column) list.name column = true := by
  have hother : insideRelationList line (wordsBefore line column) list.name column = true →
      insideRelationList line (wordsBefore line column) list.other.name column = false := by
    intro h
    refine Bool.eq_false_iff.2 fun h' => ?_
    exact (insideRelationList_name_iff.1 h).2.not_other (insideRelationList_name_iff.1 h').2
  simp only [ofList?]
  cases list <;> simp only [RelationList.context, RelationList.other] at hother ⊢ <;> grind

theorem ofKind_ne_context : ofKind kind text position ≠ list.context := by
  have hfield : ofFieldLine text position ≠ list.context := by
    simp only [ofFieldLine]
    cases list <;> simp only [RelationList.context] <;> grind
  cases kind with
  | datasource | generator | enum => cases list <;> simp [ofKind, RelationList.context]
  | model | type | view => exact hfield

theorem unnested_of_inBody_eq_context (h : inBody kind text position = list.context) :
    Unnested (lineBefore text position) := by
  cases hquotes : insideQuotes (Text.lineAt text position.line) position.character with
  | true =>
    simp only [inBody, hquotes, if_true] at h
    cases list <;> contradiction
  | false =>
    cases hcalls : insideFieldArgument (Text.lineAt text position.line) position.character with
    | true =>
      simp only [inBody, hquotes, hcalls, Bool.false_eq_true, if_false, if_true] at h
      cases list <;> contradiction
    | false =>
      simp only [insideFieldArgument, decide_eq_false_iff_not] at hcalls
      rw [lineBefore]
      exact ⟨by simpa [insideQuotes] using hquotes, by omega⟩

theorem inBody_eq_context_iff :
    inBody kind text position = list.context ↔ list.InsideList (lineBefore text position) := by
  constructor
  · intro h
    have hunnested := unnested_of_inBody_eq_context h
    rw [inBody_of_unnested hunnested] at h
    cases hlist : ofList? (Text.lineAt text position.line) position.character with
    | none =>
      rw [hlist] at h
      exact absurd h ofKind_ne_context
    | some context =>
      rw [hlist] at h
      cases h
      obtain ⟨hopen, hpath, hinside⟩ := ofList?_eq_context_iff.1 hlist
      obtain ⟨-, hforce⟩ := insideRelationList_name_iff.1 hinside
      exact ⟨hunnested, of_decide_eq_true hopen, pathBefore_eq_nil_iff.1 hpath, hforce⟩
  · intro h
    have hlist : ofList? (Text.lineAt text position.line) position.character = some list.context :=
      ofList?_eq_context_iff.2 ⟨decide_eq_true h.bracket_open, pathBefore_eq_nil_iff.2 h.no_path,
        insideRelationList_name_iff.2 ⟨h.bracket_open, h.inForce⟩⟩
    rw [inBody_of_unnested h.unnested, hlist]
    rfl

theorem detect_eq_context_iff :
    detect text position = list.context ↔
      ∃ block ∈ Block.scan (Text.trimmedLines text), block.BodyCovers position.line ∧
        list.InsideList (lineBefore text position) := by
  constructor
  · intro h
    cases hat : Block.at? position.line (Text.trimmedLines text) with
    | none =>
      simp only [detect, hat] at h
      exact absurd h.symm list.context_ne_topLevel
    | some block =>
      obtain ⟨hblock, hstart, hstop⟩ := covering?_scan_eq_some_iff.1 hat
      have hline : position.line ≠ block.range.start.line := by
        intro hline
        simp only [detect, hat, if_pos hline] at h
        exact list.context_ne_topLevel h.symm
      rw [detect_eq_inBody hat hline, inBody_eq_context_iff] at h
      have hbelow := Nat.lt_of_le_of_ne (Int.ofNat_le.1 hstart) hline.symm
      exact ⟨block, hblock, ⟨hbelow, Int.ofNat_le.1 hstop⟩, h⟩
  · rintro ⟨block, hblock, hcovers, hinside⟩
    rw [detect_of_bodyCovers hblock hcovers, inBody_eq_context_iff]
    exact hinside

end Context

-- ---------------------------------------------------------------------------
-- The word that is being typed
-- ---------------------------------------------------------------------------

namespace RelationList
variable {list : RelationList} {before : Text} {c : Char}

theorem isSpace_of_mem_name (h : c ∈ list.name) : Text.isSpace c = false :=
  Text.isSpace_eq_false_of_all (by cases list <;> decide) c h

theorem name_ne_nil (list : RelationList) : list.name ≠ [] := by cases list <;> decide

theorem InForce.last_run {stem run : Text} (hstem : ∀ d ∈ stem.getLast?, Text.isSpace d = true)
    (hrun : ∀ d ∈ run, Text.isSpace d = false) (h : list.InForce (Text.words (stem ++ run))) :
    list.InForce (Text.words stem ++ [run]) := by
  by_cases hne : run = []
  · rw [hne, List.append_nil] at h
    rw [hne, inForce_concat]
    exact .inr ⟨fun property hname => property.name_ne_nil (List.infix_nil.1 hname), h⟩
  · rwa [Text.words_append_run hstem hne hrun] at h

/-- A character that goes on with the last word takes the list away if it completes the name of the
other property. -/
theorem InForce.concat_iff (h : list.InForce (Text.words before)) (hc : Text.isSpace c = false) :
    list.InForce (Text.words (before ++ [c])) ↔ ¬ list.other.name <:+ before ++ [c] := by
  obtain ⟨stem, run, rfl, hstem, hrun⟩ := Text.exists_stem_append_run before
  have hforce := h.last_run hstem hrun
  rw [Text.words_append_run_concat hstem hrun hc, List.append_assoc,
    Text.isSuffix_append_iff hstem (fun d hd => isSpace_of_mem_name hd), inForce_concat]
  rw [inForce_concat, forall_not_infix_iff] at hforce
  constructor
  · rintro (⟨-, hother⟩ | ⟨hnone, -⟩) hsuffix
    · exact hother hsuffix.isInfix
    · exact hnone list.other hsuffix.isInfix
  · intro hsuffix
    have hrun_other : ¬ list.other.name <:+: run := by
      rcases hforce with ⟨-, hother⟩ | ⟨⟨-, hother⟩, -⟩ <;> exact hother
    have hother : ¬ list.other.name <:+: run ++ [c] := by
      rw [List.infix_concat_iff, not_or]
      exact ⟨hsuffix, hrun_other⟩
    by_cases hlist : list.name <:+: run ++ [c]
    · exact .inl ⟨hlist, hother⟩
    · refine .inr ⟨forall_not_infix_iff.2 ⟨hlist, hother⟩, ?_⟩
      rcases hforce with ⟨hrun_list, -⟩ | ⟨-, hearlier⟩
      · exact absurd (hrun_list.trans (List.prefix_append run [c]).isInfix) hlist
      · exact hearlier

theorem count_concat_of_isWord (before : Text) (hc : Text.isWord c = true) :
    ∀ d ∈ ['"', '(', ')', '[', ']'], (before ++ [c]).count d = before.count d := by
  intro d hd
  have hapart : ['"', '(', ')', '[', ']'].all (!Text.isWord ·) = true := by decide +kernel
  have hword : Text.isWord d = false := by simpa using List.all_eq_true.1 hapart d hd
  simp [Text.ne_of_isWord hc hword]

theorem InsideList.concat_iff (h : list.InsideList before) (hc : Text.isWord c = true) :
    list.InsideList (before ++ [c]) ↔ ¬ list.other.name <:+ before ++ [c] := by
  have hspace := Text.isSpace_eq_false_of_isWord hc
  constructor
  · exact fun h' => (h.inForce.concat_iff hspace).1 h'.inForce
  · intro hsuffix
    have hcount := count_concat_of_isWord before hc
    constructor
    case unnested =>
      constructor
      · rw [hcount '"' (by simp)]
        exact h.unnested.quotes_even
      · rw [hcount '(' (by simp), hcount ')' (by simp)]
        exact h.unnested.calls_closed
    case bracket_open =>
      rw [hcount '[' (by simp), hcount ']' (by simp)]
      exact h.bracket_open
    case no_path =>
      intro word hword
      obtain ⟨stem, run, rfl, hstem, hrun⟩ := Text.exists_stem_append_run before
      rw [Text.words_append_run_concat hstem hrun hspace, List.getLast?_concat] at hword
      cases hword
      exact dottedPath_concat_of_ne (Text.ne_of_isWord hc isWord_dot) run
    case inForce => exact (h.inForce.concat_iff hspace).2 hsuffix

end RelationList

-- ---------------------------------------------------------------------------
-- The block around the cursor
-- ---------------------------------------------------------------------------

section
variable {text : Text} {position : Position} {c : Char}

theorem not_break_of_isWord (hc : Text.isWord c = true) : ¬ (c = '\r' ∨ c = '\n') :=
  not_or.2 ⟨Text.ne_of_isWord hc (by decide +kernel), Text.ne_of_isWord hc (by decide +kernel)⟩

theorem Block.BodyCovers.lt_length {block : Block} {lines : List Text} {line : Nat}
    (h : block.BodyCovers line) (hblock : block ∈ Block.scan lines) : line < lines.length :=
  Nat.lt_of_le_of_lt h.le_stop (stop_lt_length_of_mem_scan hblock)

theorem trimmedLines_typed (hc : ¬ (c = '\r' ∨ c = '\n'))
    (hline : position.line < (Text.lines text).length) :
    Text.trimmedLines (typed text position c) = (Text.trimmedLines text).set position.line
      (Text.trim (lineBefore text position ++ c :: lineBehind text position)) := by
  rw [Text.trimmedLines, lines_typed hc hline, List.map_set]
  rfl

theorem exists_bodyCovers_of_map_eq {blocks others : List Block} {line : Nat}
    (h : others.map Block.withoutStopColumn = blocks.map Block.withoutStopColumn) {block : Block}
    (hblock : block ∈ blocks) (hcovers : block.BodyCovers line) :
    ∃ other ∈ others, other.BodyCovers line := by
  have hmem : block.withoutStopColumn ∈ others.map Block.withoutStopColumn :=
    h ▸ List.mem_map_of_mem hblock
  obtain ⟨other, hother, heq⟩ := List.mem_map.1 hmem
  have hrange := congrArg Block.range heq
  simp only [Block.withoutStopColumn, Range.mk.injEq, Position.mk.injEq, and_true] at hrange
  refine ⟨other, hother, ?_, ?_⟩
  · rw [hrange.1]
    exact hcovers.below_header
  · rw [hrange.2]
    exact hcovers.le_stop

theorem exists_bodyCovers_typed {block : Block} (hblock : block ∈ Block.scan (Text.trimmedLines text))
    (hcovers : block.BodyCovers position.line) (hopen : '[' ∈ lineBefore text position)
    (hc : Text.isWord c = true) :
    ∃ other ∈ Block.scan (Text.trimmedLines (typed text position c)),
      other.BodyCovers position.line := by
  have hline := hcovers.lt_length hblock
  have hnone := Header.ofLine?_eq_none_inside hblock hcovers.below_header hcovers.le_stop
  have hrole : SameRole (Text.trim (lineBefore text position ++ c :: lineBehind text position))
      (Text.lineOf (Text.trimmedLines text) position.line) := by
    rw [lineOf_trimmedLines, ← lineBefore_append_lineBehind] at hnone ⊢
    exact sameRole_trim_insert hopen (Text.ne_of_isWord hc (by decide +kernel)) hnone
  have hblocks := scan_set_sameRole hline hrole
  rw [← trimmedLines_typed (not_break_of_isWord hc) (by simpa [Text.trimmedLines] using hline)]
    at hblocks
  exact exists_bodyCovers_of_map_eq hblocks hblock hcovers

end

/-- Inside the list of a property, a character that belongs to a word leaves the cursor inside that
list unless it completes the name of the other property, be it as the end of a longer name. -/
theorem typing_keeps_list_iff {text : Text} {position : Position} {list : RelationList} {c : Char}
    (h : Context.detect text position = list.context) (hc : Text.isWord c = true) :
    Context.detect (typed text position c) (behindTyped text position c) = list.context ↔
      ¬ list.other.name <:+ lineBefore text position ++ [c] := by
  obtain ⟨block, hblock, hcovers, hinside⟩ := Context.detect_eq_context_iff.1 h
  have hopen : '[' ∈ lineBefore text position :=
    List.count_pos_iff.1 (Nat.zero_lt_of_lt hinside.bracket_open)
  have hblock' := exists_bodyCovers_typed hblock hcovers hopen hc
  have hline : position.line < (Text.lines text).length := by
    simpa [Text.trimmedLines] using hcovers.lt_length hblock
  rw [Context.detect_eq_context_iff, lineBefore_typed (not_break_of_isWord hc) hline,
    hinside.concat_iff hc]
  constructor
  · rintro ⟨-, -, -, hsuffix⟩
    exact hsuffix
  · intro hsuffix
    obtain ⟨other, hother, hcovers'⟩ := hblock'
    exact ⟨other, hother, hcovers', hsuffix⟩

/-- A letter of two units behind all but the last letter of the other name, with more on the line
behind the cursor. -/
theorem letter_after_part_of_name :
    let text := "type T \x7b\r\n\x7d\nmodel A \x7b\n".toList ++
      "  b B @relation(fields: [𝒜d], references: [field, c])\n\x7d".toList
    let position : Position := ⟨3, 49⟩
    Context.detect text position = RelationList.references.context ∧ Text.isWord '𝒜' = true ∧
      Context.detect (typed text position '𝒜') (behindTyped text position '𝒜') =
        RelationList.references.context := by
  intro text position
  have hcontext : Context.detect text position = RelationList.references.context := by decide
  have hword : Text.isWord '𝒜' = true := by decide +kernel
  exact ⟨hcontext, hword, (typing_keeps_list_iff hcontext hword).2 (by decide)⟩

/-- The name of a field that is typed inside the list of references is taken for the other
property. -/
theorem completed_name_changes_list :
    let text := "model A \x7b\n  b B @relation(references: [field\n\x7d".toList
    let position : Position := ⟨1, 34⟩
    Context.detect text position = .relationReferences ∧ Text.isWord 's' = true ∧
      Context.detect (typed text position 's') (behindTyped text position 's') = .relationFields := by
  decide +kernel

end SchemaAssist
