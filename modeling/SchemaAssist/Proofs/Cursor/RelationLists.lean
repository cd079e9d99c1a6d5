import Mathlib.Data.List.Induction
import SchemaAssist.Cursor.Line
import SchemaAssist.Proofs.Text.Trimming

/-!
# The relation list that a cursor is in

Inside brackets the property that is mentioned last is in force, and a word that mentions both
decides for neither. The places of the two last mentions are compared for that. Read from the last
word backwards it is one question for each word (`inForce_concat`), answered by the first word that
mentions either (`insideRelationList_iff_inForce`).
-/

namespace SchemaAssist

namespace RelationList

/-- The last of the words that mention a property mentions this one and not the other. -/
def InForce (list : RelationList) (words : List Text) : Prop :=
  ∃ earlier word later, words = earlier ++ word :: later ∧
    list.name <:+: word ∧ ¬ list.other.name <:+: word ∧
    ∀ behind ∈ later, ∀ property : RelationList, ¬ property.name <:+: behind

variable {list : RelationList} {words : List Text} {word : Text}

theorem ofName?_eq_some_iff {name : Text} : ofName? name = some list ↔ list.name = name := by
  constructor
  · intro h
    simpa using List.find?_some h
  · rintro rfl
    cases list <;> decide

theorem other_other (list : RelationList) : list.other.other = list := by cases list <;> rfl

theorem forall_not_infix_iff :
    (∀ property : RelationList, ¬ property.name <:+: word) ↔
      ¬ list.name <:+: word ∧ ¬ list.other.name <:+: word := by
  constructor
  · exact fun h => ⟨h list, h list.other⟩
  · rintro ⟨hlist, hother⟩ property
    cases list <;> cases property <;> assumption

theorem inForce_concat :
    list.InForce (words ++ [word]) ↔
      list.name <:+: word ∧ ¬ list.other.name <:+: word ∨
      (∀ property : RelationList, ¬ property.name <:+: word) ∧ list.InForce words := by
  constructor
  · rintro ⟨earlier, decisive, later, hwords, hlist, hother, hbehind⟩
    rcases List.eq_nil_or_concat' later with rfl | ⟨later, last, rfl⟩
    · obtain ⟨-, hlast⟩ := List.append_inj' hwords rfl
      cases hlast
      exact .inl ⟨hlist, hother⟩
    · rw [← List.cons_append, ← List.append_assoc] at hwords
      obtain ⟨hfront, hlast⟩ := List.append_inj' hwords rfl
      cases hlast
      refine .inr ⟨hbehind word (by simp), earlier, decisive, later, hfront, hlist, hother, ?_⟩
      exact fun behind hmem => hbehind behind (List.mem_append_left _ hmem)
  · rintro (⟨hlist, hother⟩ | ⟨hnone, earlier, decisive, later, rfl, hlist, hother, hbehind⟩)
    · exact ⟨words, word, [], rfl, hlist, hother, by simp⟩
    · refine ⟨earlier, decisive, later ++ [word], by simp, hlist, hother, ?_⟩
      intro behind hmem
      rcases List.mem_append.1 hmem with hmem | hmem
      · exact hbehind behind hmem
      · rwa [List.mem_singleton.1 hmem]

theorem not_inForce_nil : ¬ list.InForce [] := by
  rintro ⟨earlier, word, later, hwords, -⟩
  simp at hwords

end RelationList

theorem lastMention_concat (property : Text) (words : List Text) (word : Text) :
    lastMention property (words ++ [word]) =
      if Text.mentions property word then words.length + 1 else lastMention property words := by
  induction words with
  | nil => rfl
  | cons first words ih =>
    rw [List.cons_append, lastMention, ih]
    by_cases h : Text.mentions property word
    · simp [h]
    · simp [h, lastMention]

theorem lastMention_le_length (property : Text) (words : List Text) :
    lastMention property words ≤ words.length := by
  induction words using List.reverseRecOn with
  | nil => exact Nat.le_refl 0
  | append_singleton words word ih =>
    rw [lastMention_concat, List.length_append, List.length_singleton]
    split
    · exact Nat.le_refl _
    · exact Nat.le_succ_of_le ih

/-- Comparing the places of the last mentions asks the words from the last one backwards. -/
theorem lastMention_lt_iff_inForce {list : RelationList} {words : List Text} :
    lastMention list.other.name words < lastMention list.name words ↔ list.InForce words := by
  induction words using List.reverseRecOn with
  | nil => exact iff_of_false (Nat.lt_irrefl 0) RelationList.not_inForce_nil
  | append_singleton words word ih =>
    have hlength := lastMention_le_length list.name words
    have hlength' := lastMention_le_length list.other.name words
    rw [lastMention_concat, lastMention_concat, RelationList.inForce_concat,
      RelationList.forall_not_infix_iff, ← ih, ← Text.mentions_iff, ← Text.mentions_iff]
    by_cases hmine : Text.mentions list.name word
    · by_cases hother : Text.mentions list.other.name word
      · simp [hmine, hother]
      · simpa [hmine, hother] using Nat.lt_succ_of_le hlength'
    · by_cases hother : Text.mentions list.other.name word
      · simpa [hmine, hother] using Nat.le_succ_of_le hlength
      · simp [hmine, hother]

theorem RelationList.InForce.not_other {list : RelationList} {words : List Text}
    (h : list.InForce words) : ¬ list.other.InForce words := by
  intro hother
  have hlt := lastMention_lt_iff_inForce.2 h
  have hgt := lastMention_lt_iff_inForce.2 hother
  rw [list.other_other] at hgt
  exact Nat.lt_asymm hlt hgt

theorem insideRelationList_name_iff {line : Text} {words : List Text} {column : Nat}
    {list : RelationList} :
    insideRelationList line words list.name column = true ↔
      (Text.beforeColumn line column).count ']' < (Text.beforeColumn line column).count '[' ∧
        list.InForce words := by
  simp only [insideRelationList, RelationList.ofName?_eq_some_iff.2 rfl, Bool.and_eq_true,
    decide_eq_true_iff, lastMention_lt_iff_inForce]
  exact and_congr_left' decide_eq_true_iff

theorem exists_name_of_insideRelationList {line property : Text} {words : List Text} {column : Nat}
    (h : insideRelationList line words property column = true) :
    ∃ list : RelationList, list.name = property := by
  cases hname : RelationList.ofName? property with
  | none => simp [insideRelationList, hname] at h
  | some list => exact ⟨list, RelationList.ofName?_eq_some_iff.1 hname⟩

/-- A cursor is inside the list of a property if more brackets are opened than closed in front of it
and the property is the one in force. It is not inside both lists, and inside no list of another
property. -/
theorem insideRelationList_iff_inForce (line : Text) (words : List Text) (property : Text)
    (column : Nat) :
    (insideRelationList line words property column = true ↔
      (Text.beforeColumn line column).count ']' < (Text.beforeColumn line column).count '[' ∧
        ∃ list : RelationList, list.name = property ∧ list.InForce words) ∧
    ¬ (insideRelationList line words RelationList.fields.name column = true ∧
      insideRelationList line words RelationList.references.name column = true) ∧
    (property ∉ [RelationList.fields.name, RelationList.references.name] →
      insideRelationList line words property column = false) := by
  refine ⟨⟨fun h => ?_, ?_⟩, ?_, fun hother => ?_⟩
  · obtain ⟨list, rfl⟩ := exists_name_of_insideRelationList h
    obtain ⟨hopen, hforce⟩ := insideRelationList_name_iff.1 h
    exact ⟨hopen, list, rfl, hforce⟩
  · rintro ⟨hopen, list, rfl, hforce⟩
    exact insideRelationList_name_iff.2 ⟨hopen, hforce⟩
  · rintro ⟨hfields, hreferences⟩
    exact (insideRelationList_name_iff.1 hfields).2.not_other
      (insideRelationList_name_iff.1 hreferences).2
  · refine Bool.eq_false_iff.2 fun h => hother ?_
    obtain ⟨list, rfl⟩ := exists_name_of_insideRelationList h
    cases list
    · exact List.mem_cons_self
    · exact List.mem_cons_of_mem _ List.mem_cons_self

/-- A list of names behind another list. -/
theorem inside_second_list :
    let line := "b B @relation(references: [id], fields: [a".toList
    let words := wordsBefore line 42
    insideRelationList line words RelationList.fields.name 42 = true ∧
      insideRelationList line words "map".toList 42 = false := by
  intro line words
  have hopen : (Text.beforeColumn line 42).count ']' < (Text.beforeColumn line 42).count '[' := by
    decide
  have hwords : words = ["b".toList, "B".toList, "@relation(references:".toList, "[id],".toList] ++
      "fields:".toList :: ["[a".toList] := by decide
  have hbehind : ∀ behind ∈ ["[a".toList], ∀ property : RelationList,
      ¬ property.name <:+: behind := by
    intro behind hmem property
    rw [List.mem_singleton.1 hmem]
    cases property <;> decide
  have hother : ¬ RelationList.references.name <:+: "fields:".toList := by
    rw [← Text.mentions_iff]
    decide
  have hforce : RelationList.fields.InForce words :=
    ⟨_, _, _, hwords, by decide, hother, hbehind⟩
  obtain ⟨hinside, -, -⟩ :=
    insideRelationList_iff_inForce line words RelationList.fields.name 42
  obtain ⟨-, -, houtside⟩ := insideRelationList_iff_inForce line words "map".toList 42
  exact ⟨hinside.2 ⟨hopen, .fields, rfl, hforce⟩, houtside (by decide)⟩

end SchemaAssist
