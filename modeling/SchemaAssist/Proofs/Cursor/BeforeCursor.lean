import SchemaAssist.Proofs.Cursor.Word
import SchemaAssist.Proofs.Text.Selection
import SchemaAssist.Cursor.Line

/-!
# What a cursor is told by

The questions about a cursor are answered from the part of its line in front of it
(`sameAnswers_of_beforeColumn_eq`), also the one that looks at the whole line first: of a blank line
nothing but whitespace can stand in front of a cursor (`onFirstWord_eq`). A column within some text
is decoded there, whatever stands behind (`beforeColumn_append`), so that makes no difference to any
answer (`answers_read_before_cursor`).
-/

namespace SchemaAssist

namespace Text

theorem indexOfColumn_append_of_le {front : Text} {column : Int} (h : column ≤ width front)
    (rest : Text) : indexOfColumn (front ++ rest) column = indexOfColumn front column := by
  induction front generalizing column with
  | nil => rw [indexOfColumn_of_nonpos h, indexOfColumn_of_nonpos h]
  | cons c front ih =>
    by_cases hpos : 0 < column
    · have hwidth : column - units c ≤ width front := by
        rw [width] at h
        omega
      rw [List.cons_append, indexOfColumn_cons hpos, indexOfColumn_cons hpos, ih hwidth]
    · rw [indexOfColumn_of_nonpos (Int.not_lt.1 hpos), indexOfColumn_of_nonpos (Int.not_lt.1 hpos)]

/-- A column within a text cuts it at the same place whatever follows, also where the column points
between the two units of a character. -/
theorem beforeColumn_append {front : Text} {column : Nat} (h : column ≤ width front) (rest : Text) :
    beforeColumn (front ++ rest) column = beforeColumn front column := by
  rw [beforeColumn, indexOfColumn_append_of_le (Int.ofNat_le.2 h),
    List.take_append_of_le_length (indexOfColumn_le front column), beforeColumn]

end Text

/-- That the line is not blank need not be asked: what stands in front of a cursor tells. -/
theorem onFirstWord_eq (line : Text) (column : Nat) :
    onFirstWord line column =
      ((Text.beforeColumn line column).dropWhile (!Text.isWord ·)).all Text.isWord := by
  rw [onFirstWord]
  cases hblank : (Text.trim line).isEmpty with
  | false => rfl
  | true =>
    have hline : Text.Blank line := Text.trim_eq_nil_iff.1 (List.isEmpty_iff.1 hblank)
    have hnone : (Text.beforeColumn line column).dropWhile (!Text.isWord ·) = [] := by
      refine List.dropWhile_eq_nil_iff.2 fun c hc => ?_
      simp [Text.isWord_eq_false_of_isSpace (hline c (List.mem_of_mem_take hc))]
    rw [hnone]
    rfl

/-- Every question about a cursor at that column has one answer on the two lines. The question that
is asked of a document is asked of any two that have the lines in the same place. -/
structure SameAnswers (column : Nat) (line other : Text) : Prop where
  words : wordsBefore line column = wordsBefore other column
  pair : ∀ pair, insidePair line column pair = insidePair other column pair
  fieldArgument : insideFieldArgument line column = insideFieldArgument other column
  quotes : insideQuotes line column = insideQuotes other column
  relationList : ∀ words property,
    insideRelationList line words property column = insideRelationList other words property column
  firstWord : onFirstWord line column = onFirstWord other column
  fieldAndType : ∀ text text' number words, Text.lineAt text number = line →
    Text.lineAt text' number = other →
    afterFieldAndType ⟨number, column⟩ text words = afterFieldAndType ⟨number, column⟩ text' words

theorem sameAnswers_of_beforeColumn_eq {column : Nat} {line other : Text}
    (h : Text.beforeColumn line column = Text.beforeColumn other column) :
    SameAnswers column line other where
  words := by rw [wordsBefore, wordsBefore, h]
  pair pair := by rw [insidePair, insidePair, h]
  fieldArgument := by rw [insideFieldArgument, insideFieldArgument, h]
  quotes := by rw [insideQuotes, insideQuotes, h]
  relationList words property := by
    rw [insideRelationList, insideRelationList, insidePair, insidePair, h]
  firstWord := by rw [onFirstWord_eq, onFirstWord_eq, h]
  fieldAndType text text' number words hline hother := by
    have hsymbol : symbolBefore? text ⟨number, column⟩ = symbolBefore? text' ⟨number, column⟩ := by
      rw [symbolBefore?, symbolBefore?, hline, hother, h]
    rw [afterFieldAndType, afterFieldAndType, hsymbol]

/-- Behind a text that the column of a cursor does not reach beyond, anything may stand: every
question about the cursor is answered the same. -/
theorem answers_read_before_cursor {front : Text} {column : Nat} (h : column ≤ Text.width front)
    (rest other : Text) : SameAnswers column (front ++ rest) (front ++ other) := by
  refine sameAnswers_of_beforeColumn_eq ?_
  rw [Text.beforeColumn_append h, Text.beforeColumn_append h]

/-- A cursor between the two units of a letter, with more behind it on the line of one document and
nothing in the other. -/
theorem same_answers_within_letter :
    let front := "n A\t𝒜".toList
    let text := "model A \x7b\n".toList ++ (front ++ "b @id(c".toList) ++ "\n\x7d".toList
    let other := "view V \x7b\r\n".toList ++ (front ++ [])
    5 ≤ Text.width front ∧ SameAnswers 5 (front ++ "b @id(c".toList) (front ++ []) ∧
      afterFieldAndType ⟨1, 5⟩ text [['n'], ['A']] = afterFieldAndType ⟨1, 5⟩ other [['n'], ['A']] := by
  intro front text other
  have hcolumn : 5 ≤ Text.width front := by decide
  have hsame := answers_read_before_cursor hcolumn "b @id(c".toList []
  have hline : Text.lineAt text 1 = front ++ "b @id(c".toList := by decide
  have hother : Text.lineAt other 1 = front ++ [] := by decide
  exact ⟨hcolumn, hsame, hsame.fieldAndType text other 1 _ hline hother⟩

end SchemaAssist
