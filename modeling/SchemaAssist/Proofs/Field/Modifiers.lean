import SchemaAssist.Field.Path
import SchemaAssist.Proofs.Text.Trimming

/-!
# Types without their modifiers

A path through composite types and the target of a relation take the modifiers off a type in ways of
their own. On a type that ends in no line break, a path takes off all that stands from the first
place on from which there is nothing but modifiers (`beforeModifiers_compositeName`). The two names
are the same unless the type ends in two optional markers, of which only the relation takes off both
(`compositeName_eq_relationTarget_iff`).
-/

namespace SchemaAssist

def modifierEndings : List Text := [[], ['?'], listMarker, listMarker ++ ['?']]

/-- From the end of `name` on a type holds modifiers and nothing else, and from no earlier place. -/
structure BeforeModifiers (type name : Text) : Prop where
  ending : ∃ ending ∈ modifierEndings, type = name ++ ending
  first : ∀ front, ∀ ending ∈ modifierEndings, type = front ++ ending → name.length ≤ front.length

theorem not_mark_suffix_list (front : Text) : ¬ ['?'] <:+ front ++ listMarker := by
  rw [List.singleton_suffix_iff_getLast?_eq_some]
  simp [listMarker]

theorem not_list_suffix_mark (front : Text) : ¬ listMarker <:+ front ++ ['?'] := by
  intro h
  have hend : [']'] <:+ front ++ ['?'] := List.IsSuffix.trans ⟨['['], rfl⟩ h
  simp at hend

theorem not_marks_suffix {front : Text} (h : ¬ ['?'] <:+ front) :
    ¬ ['?', '?'] <:+ front ∧ ¬ ['?', '?'] <:+ front ++ ['?'] :=
  ⟨fun hmarks => h (List.IsSuffix.trans ⟨['?'], rfl⟩ hmarks),
    fun hmarks => h (List.suffix_append_self_iff.1 hmarks)⟩

variable {type : Text}

theorem compositeName_eq (h : ¬ ['\n'] <:+ type) :
    compositeName type = Text.dropEnding listMarker (Text.dropEnding ['?'] type) := by
  simp [compositeName, Text.dropEnding_of_not_suffix h]

theorem beforeModifiers_compositeName (h : ¬ ['\n'] <:+ type) :
    BeforeModifiers type (compositeName type) where
  ending := by
    rw [compositeName_eq h]
    rcases Text.append_dropEnding_cases ['?'] type with hmark | hmark <;>
      rcases Text.append_dropEnding_cases listMarker (Text.dropEnding ['?'] type) with hlist | hlist
    · refine ⟨listMarker ++ ['?'], by simp [modifierEndings], ?_⟩
      rw [← List.append_assoc, ← hlist]
      exact hmark
    · refine ⟨['?'], by simp [modifierEndings], ?_⟩
      rw [← hlist]
      exact hmark
    · refine ⟨listMarker, by simp [modifierEndings], ?_⟩
      rw [← hlist]
      exact hmark
    · refine ⟨[], by simp [modifierEndings], ?_⟩
      rw [List.append_nil, ← hlist]
      exact hmark
  first := by
    intro front ending hending htype
    rw [compositeName_eq h]
    have hlist := (Text.dropEnding_prefix listMarker (Text.dropEnding ['?'] type)).length_le
    have hmark := (Text.dropEnding_prefix ['?'] type).length_le
    simp only [modifierEndings, List.mem_cons, List.not_mem_nil, or_false] at hending
    rcases hending with rfl | rfl | rfl | rfl
    · rw [List.append_nil] at htype
      exact htype ▸ Nat.le_trans hlist hmark
    · rwa [htype, Text.dropEnding_append] at hlist ⊢
    · rw [htype, Text.dropEnding_of_not_suffix (not_mark_suffix_list front),
        Text.dropEnding_append]
    · rw [htype, ← List.append_assoc, Text.dropEnding_append, Text.dropEnding_append]

theorem compositeName_eq_relationTarget_iff (h : ¬ ['\n'] <:+ type) :
    compositeName type = relationTarget type ↔ ¬ ['?', '?'] <:+ type := by
  rw [compositeName_eq h, relationTarget]
  constructor
  · -- Of two markers the path keeps one; the relation keeps none, and may take off more.
    rintro heq ⟨front, rfl⟩
    rw [List.append_cons, Text.dropEnding_append,
      Text.dropEnding_of_not_suffix (not_list_suffix_mark front), Text.dropEndWhile_concat,
      Text.dropEndWhile_concat] at heq
    have hlist := (Text.dropEnding_prefix listMarker (Text.dropEndWhile (· == '?') front)).length_le
    have hmark := (Text.dropEndWhile_prefix (· == '?') front).length_le
    have hlength := congrArg List.length heq
    simp only [List.length_append, List.length_singleton] at hlength
    omega
  · intro hmarks
    rw [Text.dropEndWhile_eq_dropEnding hmarks]

theorem modifiers_taken_off {base ending : Text} (hending : ending ∈ modifierEndings)
    (hmark : ¬ ['?'] <:+ base) (hlist : ¬ listMarker <:+ base) :
    Text.dropEnding listMarker (Text.dropEnding ['?'] (base ++ ending)) = base ∧
      ¬ ['?', '?'] <:+ base ++ ending := by
  simp only [modifierEndings, List.mem_cons, List.not_mem_nil, or_false] at hending
  rcases hending with rfl | rfl | rfl | rfl
  · rw [List.append_nil, Text.dropEnding_of_not_suffix hmark, Text.dropEnding_of_not_suffix hlist]
    exact ⟨rfl, (not_marks_suffix hmark).1⟩
  · rw [Text.dropEnding_append, Text.dropEnding_of_not_suffix hlist]
    exact ⟨rfl, (not_marks_suffix hmark).2⟩
  · have hnone := not_mark_suffix_list base
    rw [Text.dropEnding_of_not_suffix hnone, Text.dropEnding_append]
    exact ⟨rfl, (not_marks_suffix hnone).1⟩
  · rw [← List.append_assoc, Text.dropEnding_append, Text.dropEnding_append]
    exact ⟨rfl, (not_marks_suffix (not_mark_suffix_list base)).2⟩

/-- A type without whitespace is left with the same name by a path and by a relation, unless it ends
in two optional markers; a path takes off what stands from the first place on from which there are
only modifiers. A name that ends in no modifier is what both leave of it with any of them. -/
theorem modifiers_taken_off_alike (hspace : ∀ c ∈ type, Text.isSpace c = false) :
    BeforeModifiers type (compositeName type) ∧
    (compositeName type = relationTarget type ↔ ¬ ['?', '?'] <:+ type) ∧
    ∀ base, ∀ ending ∈ modifierEndings, type = base ++ ending →
      ¬ ['?'] <:+ base → ¬ listMarker <:+ base →
      compositeName type = base ∧ relationTarget type = base := by
  have hbreak : ¬ ['\n'] <:+ type := by
    intro h
    have hspaced := hspace '\n' (h.subset (List.mem_singleton.2 rfl))
    contradiction
  have hiff := compositeName_eq_relationTarget_iff hbreak
  refine ⟨beforeModifiers_compositeName hbreak, hiff, ?_⟩
  intro base ending hending htype hmark hlist
  obtain ⟨hbase, hmarks⟩ := modifiers_taken_off hending hmark hlist
  rw [← htype] at hbase hmarks
  have hname : compositeName type = base := (compositeName_eq hbreak).trans hbase
  exact ⟨hname, (hiff.2 hmarks).symm.trans hname⟩

/-- Markers that stand further inside stay. -/
theorem modifiers_taken_off_once :
    let type := "Geo?[][]?".toList
    (∀ c ∈ type, Text.isSpace c = false) ∧ ¬ ['?', '?'] <:+ type ∧
      compositeName type = relationTarget type ∧
      BeforeModifiers type "Geo?[]".toList := by
  intro type
  have hspace : ∀ c ∈ type, Text.isSpace c = false := Text.isSpace_eq_false_of_all (by decide)
  have hmarks : ¬ ['?', '?'] <:+ type := by decide
  obtain ⟨hbefore, hiff, -⟩ := modifiers_taken_off_alike hspace
  have hname : compositeName type = "Geo?[]".toList := by decide
  exact ⟨hspace, hmarks, hiff.2 hmarks, hname ▸ hbefore⟩

end SchemaAssist
