import SchemaAssist.Proofs.Cursor.Context
import SchemaAssist.Proofs.Cursor.Word
import SchemaAssist.Proofs.Text.Words

/-!
# Places on a field line

A field line is typed from the left: a name, a type, then attributes. `FieldPlace` reads from the
text in front of a cursor which of them it is at. Below the header of a model, type or view the
context is told in agreement with that, whatever follows the cursor (`detect_of_fieldPlace`).
-/

namespace SchemaAssist

structure NamedField where
  indent : Text
  name : Text
  gap : Text
  blank_indent : Text.Blank indent
  name_ne_nil : name ≠ []
  isWord_of_mem_name : ∀ c ∈ name, Text.isWord c = true
  gap_ne_nil : gap ≠ []
  blank_gap : Text.Blank gap

def NamedField.text (field : NamedField) : Text := field.indent ++ field.name ++ field.gap

/-- What a cursor behind that text is at. A type may be empty yet, and is complete once whitespace
stands behind it. -/
inductive FieldPlace : Text → Context → Prop
  | inName {indent name : Text} (blank_indent : Text.Blank indent)
      (isWord_of_mem_name : ∀ c ∈ name, Text.isWord c = true) :
      FieldPlace (indent ++ name) .fieldName
  | inType (field : NamedField) {type : Text} (not_space : ∀ c ∈ type, Text.isSpace c = false)
      (no_at : type.getLast? ≠ some '@') : FieldPlace (field.text ++ type) .fieldType
  | behindType (field : NamedField) {type gap rest : Text} (type_ne_nil : type ≠ [])
      (not_space : ∀ c ∈ type, Text.isSpace c = false) (gap_ne_nil : gap ≠ [])
      (blank_gap : Text.Blank gap) :
      FieldPlace (field.text ++ type ++ gap ++ rest) .fieldAttribute

-- ---------------------------------------------------------------------------
-- The first word
-- ---------------------------------------------------------------------------

theorem Text.Blank.dropWhile_not_word {indent : Text} (h : Blank indent) (rest : Text) :
    (indent ++ rest).dropWhile (!isWord ·) = rest.dropWhile (!isWord ·) :=
  List.dropWhile_append_of_pos fun c hc => by simp [isWord_eq_false_of_isSpace (h c hc)]

theorem onFirstWord_of_word {line indent name : Text} {column : Nat} (hindent : Text.Blank indent)
    (hname : ∀ c ∈ name, Text.isWord c = true)
    (hbefore : Text.beforeColumn line column = indent ++ name) : onFirstWord line column = true := by
  have hword : (name.dropWhile (!Text.isWord ·)).all Text.isWord = true :=
    List.all_eq_true.2 fun c hc => hname c ((List.dropWhile_suffix _).subset hc)
  simp [onFirstWord, hbefore, hindent.dropWhile_not_word, hword]

namespace NamedField

theorem words_text_append (field : NamedField) (rest : Text) :
    Text.words (field.text ++ rest) = field.name :: Text.words rest := by
  obtain ⟨indent, name, gap, hindent, hne, hword, hgap, hblank⟩ := field
  have hname : ∀ c ∈ name, Text.isSpace c = false := fun c hc =>
    Text.isSpace_eq_false_of_isWord (hword c hc)
  simp only [text, List.append_assoc]
  rw [Text.words_append_of_blank hindent, Text.words_append_gap hne hname hgap hblank]

theorem onFirstWord_eq_false (field : NamedField) {line rest : Text} {column : Nat}
    (hbefore : Text.beforeColumn line column = field.text ++ rest) :
    onFirstWord line column = false := by
  obtain ⟨indent, name, gap, hindent, hne, hword, hgap, hblank⟩ := field
  obtain ⟨c, name, rfl⟩ := List.exists_cons_of_ne_nil hne
  obtain ⟨d, gap, rfl⟩ := List.exists_cons_of_ne_nil hgap
  have hc : Text.isWord c = true := hword c (by simp)
  have hd : Text.isWord d = false := Text.isWord_eq_false_of_isSpace (hblank d (by simp))
  have htrim : Text.trim line ≠ [] := by
    intro hnil
    have hmem : c ∈ line := by
      refine List.mem_of_mem_take (i := Text.indexOfColumn line column) ?_
      rw [← Text.beforeColumn, hbefore]
      simp [text]
    have hspace := Text.trim_eq_nil_iff.1 hnil c hmem
    simp [Text.isSpace_eq_false_of_isWord hc] at hspace
  -- The word is followed by whitespace, so more than it is left from its start on.
  simp [onFirstWord, htrim, hbefore, text, hindent.dropWhile_not_word, hc, hd]

end NamedField

-- ---------------------------------------------------------------------------
-- The words behind it
-- ---------------------------------------------------------------------------

section
variable {text : Text} {position : Position} {field : NamedField}

theorem symbolBefore?_of_append {before behind : Text} {c : Char}
    (hbefore : lineBefore text position = before ++ behind) (hlast : behind.getLast? = some c) :
    symbolBefore? text position = some c := by
  rw [symbolBefore?, ← lineBefore, hbefore, List.getLast?_append, hlast]
  rfl

theorem afterFieldAndType_of_type {type : Text}
    (hbefore : lineBefore text position = field.text ++ type)
    (hfree : ∀ c ∈ type, Text.isSpace c = false) (hat : type.getLast? ≠ some '@') :
    afterFieldAndType position text (Text.words (field.text ++ type)) = false := by
  rw [field.words_text_append]
  cases hlast : type.getLast? with
  | none =>
    obtain rfl := List.getLast?_eq_none_iff.1 hlast
    rfl
  | some c =>
    have hmem := List.mem_of_getLast? hlast
    have hc : Text.isSpace c = false := hfree c hmem
    have hne : c ≠ '@' := by simpa [hlast] using hat
    simp [Text.words_eq_singleton (List.ne_nil_of_mem hmem) hfree, afterFieldAndType,
      symbolBefore?_of_append hbefore hlast, hc, hne]

theorem afterFieldAndType_of_attributes {type gap rest : Text}
    (hbefore : lineBefore text position = field.text ++ type ++ gap ++ rest) (hne : type ≠ [])
    (hfree : ∀ c ∈ type, Text.isSpace c = false) (hgap : gap ≠ []) (hblank : Text.Blank gap) :
    afterFieldAndType position text (Text.words (field.text ++ type ++ gap ++ rest)) = true := by
  have hwords : Text.words (field.text ++ type ++ gap ++ rest) =
      field.name :: type :: Text.words rest := by
    simp only [List.append_assoc]
    rw [field.words_text_append, Text.words_append_gap hne hfree hgap hblank]
  rw [hwords]
  cases hrest : Text.words rest with
  | cons word more => rfl
  | nil =>
    -- Only whitespace follows the type, and some of it stands in front of the cursor.
    have hspace := hblank.append (Text.words_eq_nil_iff.1 hrest)
    cases hlast : (gap ++ rest).getLast? with
    | none => simp [hgap] at hlast
    | some c =>
      rw [List.append_assoc _ gap rest] at hbefore
      simp [afterFieldAndType, symbolBefore?_of_append hbefore hlast,
        hspace c (List.mem_of_getLast? hlast)]

end

-- ---------------------------------------------------------------------------
-- The context
-- ---------------------------------------------------------------------------

namespace Context

theorem ofFieldLine_of_fieldPlace {text : Text} {position : Position} {context : Context}
    (hattribute : isBlockAttribute (Text.trim (Text.lineAt text position.line)) = false)
    (hplace : FieldPlace (lineBefore text position) context) :
    ofFieldLine text position = context := by
  generalize hbefore : lineBefore text position = before at hplace
  cases hplace with
  | inName hindent hname =>
    simp [ofFieldLine, hattribute, onFirstWord_of_word hindent hname hbefore]
  | inType field hfree hat =>
    have hwords : wordsBefore (Text.lineAt text position.line) position.character = _ :=
      congrArg Text.words hbefore
    simp [ofFieldLine, hattribute, field.onFirstWord_eq_false hbefore, hwords,
      afterFieldAndType_of_type hbefore hfree hat]
  | @behindType field type gap rest hne hfree hgap hblank =>
    have hwords : wordsBefore (Text.lineAt text position.line) position.character = _ :=
      congrArg Text.words hbefore
    have hbehind : lineBefore text position = field.text ++ (type ++ gap ++ rest) := by
      simpa using hbefore
    have hfirst : onFirstWord (Text.lineAt text position.line) position.character = false :=
      field.onFirstWord_eq_false hbehind
    rw [ofFieldLine, hattribute, hfirst, hwords,
      afterFieldAndType_of_attributes hbefore hne hfree hgap hblank]
    rfl

/-- Below the header of a model, type or view, where the line is no block attribute and the text in
front of the cursor opens no string, call or list, that text alone tells the context: a word at
most, behind whitespace or not, is a name; behind a name and whitespace comes the type; and behind
the type and whitespace come attributes. -/
theorem detect_of_fieldPlace {text : Text} {position : Position} {block : Block} {context : Context}
    (hblock : block ∈ Block.scan (Text.trimmedLines text))
    (hcovers : block.BodyCovers position.line) (hkind : block.kind ∈ [.model, .type, .view])
    (hattribute : isBlockAttribute (Text.trim (Text.lineAt text position.line)) = false)
    (hquote : '"' ∉ lineBefore text position) (hcall : '(' ∉ lineBefore text position)
    (hlist : '[' ∉ lineBefore text position)
    (hplace : FieldPlace (lineBefore text position) context) :
    detect text position = context := by
  have hnone : ofList? (Text.lineAt text position.line) position.character = none :=
    ofList?_of_not_mem hlist
  have hfield : ofKind block.kind text position = ofFieldLine text position := by
    revert hkind
    cases block.kind <;> simp [ofKind]
  rw [detect_of_bodyCovers hblock hcovers, inBody_of_unnested (.of_not_mem hquote hcall), hnone,
    Option.getD_none, hfield, ofFieldLine_of_fieldPlace hattribute hplace]

/-- A line of a view with a tab in front of it, an em space in its gap and a letter of two units in
its name, which the first of the cursors stands inside. -/
theorem contexts_on_indented_line :
    let text := "view V \x7b\n\t𝒜b \u2003Int] @x\n\x7d".toList
    detect text ⟨1, 2⟩ = .fieldName ∧ detect text ⟨1, 10⟩ = .fieldType ∧
      detect text ⟨1, 12⟩ = .fieldAttribute := by
  intro text
  let block : Block := ⟨.view, ⟨⟨0, 0⟩, ⟨2, 1⟩⟩, ⟨⟨0, 5⟩, ⟨0, 6⟩⟩, ['V']⟩
  have hblock : block ∈ Block.scan (Text.trimmedLines text) := by decide +kernel
  have hattribute : isBlockAttribute (Text.trim (Text.lineAt text 1)) = false := by decide +kernel
  have hfree : ∀ c ∈ "Int]".toList, Text.isSpace c = false := fun c hc =>
    Bool.eq_false_iff.2 (List.any_eq_false.1 (by decide) c hc)
  let field : NamedField := ⟨['\t'], "𝒜b".toList, " \u2003".toList, by decide, by decide,
    List.all_eq_true.1 (by decide +kernel), by decide, by decide⟩
  have hname : lineBefore text ⟨1, 2⟩ = ['\t'] ++ "𝒜".toList := by decide +kernel
  have htype : lineBefore text ⟨1, 10⟩ = field.text ++ "Int]".toList := by decide +kernel
  have hbehind : lineBefore text ⟨1, 12⟩ = field.text ++ "Int]".toList ++ [' '] ++ ['@'] := by
    decide +kernel
  refine ⟨detect_of_fieldPlace hblock ⟨by decide, by decide⟩ (by decide) hattribute ?_ ?_ ?_
      (hname ▸ .inName (by decide) (List.all_eq_true.1 (by decide +kernel))),
    detect_of_fieldPlace hblock ⟨by decide, by decide⟩ (by decide) hattribute ?_ ?_ ?_
      (htype ▸ .inType field hfree (by decide)),
    detect_of_fieldPlace hblock ⟨by decide, by decide⟩ (by decide) hattribute ?_ ?_ ?_
      (hbehind ▸ .behindType field (by decide) hfree (by decide) (by decide))⟩
  all_goals decide +kernel

end Context
end SchemaAssist
