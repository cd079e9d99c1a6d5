import SchemaAssist.Facts
import SchemaAssist.Proofs.Editor.Responses
import SchemaAssist.Proofs.Text.JoinedLines

/-!
# How line breaks are spelled

Every answer reads a text through its lines only: one lemma for each function says that texts with
the same lines are the same to it, up to the response to a request (`respond_eq_of_lines`). Spelling
all breaks as line feeds keeps the lines (`unifyBreaks_eq_joinLines`), and with them every answer
(`answers_unifyBreaks`).
-/

namespace SchemaAssist

namespace Text

theorem unifyBreaks_eq_joinLines (text : Text) : unifyBreaks text = joinLines (lines text) := by
  fun_induction unifyBreaks text with
  | case1 => rfl
  | case2 text ih => rw [lines, joinLines_cons (lines_ne_nil text), ih, List.nil_append]
  | case3 c text hc ih =>
    by_cases hbreak : c = '\r' ∨ c = '\n'
    · rw [lines.eq_3 _ _ (by simpa using hc), if_pos hbreak, joinLines_cons (lines_ne_nil text), ih]
      rcases hbreak with rfl | rfl <;> simp
    · obtain ⟨line, rest, hlines⟩ := List.exists_cons_of_ne_nil (lines_ne_nil text)
      have hkept : c ≠ '\r' := fun hr => hbreak (.inl hr)
      rw [lines.eq_3 _ _ (by simpa using hc), if_neg hbreak, if_neg hkept, ih, hlines]
      cases rest <;> simp [joinLines, List.intercalate_cons_cons]

end Text

section
variable {text other : Text} (h : Text.lines text = Text.lines other)
include h

theorem trimmedLines_eq_of_lines : Text.trimmedLines text = Text.trimmedLines other :=
  congrArg (List.map Text.trim) h

theorem lineAt_eq_of_lines (number : Nat) : Text.lineAt text number = Text.lineAt other number :=
  congrArg (Text.lineOf · number) h

theorem wordAt_eq_of_lines (position : Position) : wordAt text position = wordAt other position := by
  simp only [wordAt, lineAt_eq_of_lines h]

theorem symbolBefore?_eq_of_lines (position : Position) :
    symbolBefore? text position = symbolBefore? other position := by
  rw [symbolBefore?, symbolBefore?, lineAt_eq_of_lines h]

theorem blockForWord?_eq_of_lines (position : Position) :
    blockForWord? text position = blockForWord? other position := by
  rw [blockForWord?, blockForWord?, wordAt_eq_of_lines h, trimmedLines_eq_of_lines h]

theorem definitionRange?_eq_of_lines : definitionRange? text = definitionRange? other := by
  funext position
  rw [definitionRange?, definitionRange?, blockForWord?_eq_of_lines h, h]

theorem hoverText?_eq_of_lines : Request.hoverText? text = Request.hoverText? other := by
  funext position
  rw [Request.hoverText?, Request.hoverText?, blockForWord?_eq_of_lines h,
    trimmedLines_eq_of_lines h]

theorem afterFieldAndType_eq_of_lines (position : Position) (words : List Text) :
    afterFieldAndType position text words = afterFieldAndType position other words := by
  rw [afterFieldAndType, afterFieldAndType, symbolBefore?_eq_of_lines h]

theorem inBody_eq_of_lines (kind : Kind) (position : Position) :
    Context.inBody kind text position = Context.inBody kind other position := by
  have hfield : Context.ofFieldLine text position = Context.ofFieldLine other position := by
    simp only [Context.ofFieldLine, lineAt_eq_of_lines h, afterFieldAndType_eq_of_lines h]
  simp only [Context.inBody, lineAt_eq_of_lines h, hfield]

theorem detect_eq_of_lines : Context.detect text = Context.detect other := by
  funext position
  simp only [Context.detect, trimmedLines_eq_of_lines h, inBody_eq_of_lines h]

theorem items_eq_of_lines : Completion.items text = Completion.items other := by
  funext position
  simp only [Completion.items, detect_eq_of_lines h, trimmedLines_eq_of_lines h,
    lineAt_eq_of_lines h]

theorem legacyKeyRange?_eq_of_lines : legacyKeyRange? text = legacyKeyRange? other := by
  simp only [legacyKeyRange?, trimmedLines_eq_of_lines h, lineAt_eq_of_lines h]

theorem ofDocument_eq_of_lines : Range.ofDocument text = Range.ofDocument other := by
  rw [Range.ofDocument, Range.ofDocument, h]

theorem answer_eq_of_lines (uri : Text) (request : Request) :
    request.answer uri text = request.answer uri other := by
  cases request with
  | symbols => rw [Request.answer, Request.answer, trimmedLines_eq_of_lines h, h]
  | definition line character =>
    rw [Request.answer, Request.answer, definitionRange?_eq_of_lines h]
  | hover line character => rw [Request.answer, Request.answer, hoverText?_eq_of_lines h]
  | completion line character => rw [Request.answer, Request.answer, items_eq_of_lines h]

/-- Texts with the same lines get the same response to every request. -/
theorem respond_eq_of_lines (uri : Text) (request : Request) :
    request.respond uri (some text) = request.respond uri (some other) := by
  rw [Request.respond_eq, Request.respond_eq, answer_eq_of_lines h]

end

/-- How the breaks of a text are spelled makes no difference to any response, to the context of any
cursor, to where the legacy key is found and to the range of the document: with every break a line
feed, all of them stay as they are. -/
theorem answers_unifyBreaks (text : Text) :
    Text.unifyBreaks text = Text.joinLines (Text.lines text) ∧
    (∀ uri request, Request.respond uri (some (Text.unifyBreaks text)) request =
      Request.respond uri (some text) request) ∧
    (∀ position, Context.detect (Text.unifyBreaks text) position = Context.detect text position) ∧
    legacyKeyRange? (Text.unifyBreaks text) = legacyKeyRange? text ∧
    Range.ofDocument (Text.unifyBreaks text) = Range.ofDocument text := by
  have hlines := Text.lines_unifyBreaks text
  refine ⟨Text.unifyBreaks_eq_joinLines text, respond_eq_of_lines hlines, ?_,
    legacyKeyRange?_eq_of_lines hlines, ofDocument_eq_of_lines hlines⟩
  exact fun position => congrFun (detect_eq_of_lines hlines) position

end SchemaAssist
