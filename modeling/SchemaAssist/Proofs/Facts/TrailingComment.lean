import SchemaAssist.Proofs.Facts.PreviewFeatures
import SchemaAssist.Proofs.Facts.ProviderPlaces

/-!
# Facts behind which a comment is written

A list runs to the last bracket of its line and a value to the last quote, and a comment behind them
is part of the line. So a comment does no harm exactly if it has no such mark of its own
(`comment_keeps_facts_iff`): with one, the features are gone (`featuresOf_append`) and the provider
is another (`exists_beforeLast?_trailing`).
-/

namespace SchemaAssist

def commented (line comment : Text) : Text := line ++ (" // ".toList ++ comment)

theorem mem_comment_iff {c : Char} (hspace : c ≠ ' ') (hslash : c ≠ '/') {comment : Text} :
    c ∈ " // ".toList ++ comment ↔ c ∈ comment := by
  have hsign : c ∉ " // ".toList := by simp [hspace, hslash]
  rw [List.mem_append, or_iff_right hsign]

-- ---------------------------------------------------------------------------
-- Preview features
-- ---------------------------------------------------------------------------

/-- The list is looked for on a line that ends behind it, and there is none above. -/
structure ListTakenFrom (line : Text) (before : List Text) : Prop where
  written : ∃ inside, line = "previewFeatures = [".toList ++ inside ++ [']']
  first : previewList? (Text.joinLines before) = none

theorem featuresOf_append {list tail : Text} {names names' : List Text}
    (h : featuresOf list = .ok (some names)) (htail : tail ≠ []) :
    featuresOf (list ++ tail) ≠ .ok (some names') := by
  obtain ⟨strings, hlist⟩ := exists_encodesArray_of_featuresOf h
  intro hlonger
  obtain ⟨strings', hlonger⟩ := exists_encodesArray_of_featuresOf hlonger
  have hnone := Text.JsonStrings.decode?_append hlist htail
  rw [Text.JsonStrings.decode?_eq_some_iff.2 hlonger] at hnone
  contradiction

theorem previewFeatures_of_list_line {before after : List Text} {ends cut : Text}
    (inside trailing : Text) (hbefore : previewList? (Text.joinLines before) = none)
    (hjoined : ∀ line, Text.joinLines (line :: after) = line ++ ends)
    (hcut : beforeLast? ']' (fun _ => true) (inside ++ ']' :: (trailing ++ ends)) = some cut) :
    previewFeatures
        (before ++ ("previewFeatures = [".toList ++ inside ++ [']'] ++ trailing) :: after) =
      featuresOf ('[' :: (cut ++ [']'])) := by
  have hwritten := listAtKey?_written (inside ++ ']' :: (trailing ++ ends))
  rw [hcut, Option.map_some] at hwritten
  refine previewFeatures_of_listAtKey? hbefore (Eq.trans ?_ hwritten)
  rw [hjoined]
  simp only [List.append_assoc, List.cons_append, List.nil_append]

theorem previewFeatures_commented_iff {before after names : List Text} {line comment : Text}
    (hline : '\n' ∉ line) (hcomment : '\n' ∉ comment) (htaken : ListTakenFrom line before)
    (h : previewFeatures (before ++ line :: after) = .ok (some names)) :
    previewFeatures (before ++ commented line comment :: after) = .ok (some names) ↔
      ']' ∉ comment := by
  obtain ⟨⟨inside, rfl⟩, hbefore⟩ := htaken
  obtain ⟨ends, hjoined, hends⟩ := Text.exists_ends_joinLines after
  have hinside : '\n' ∉ inside := fun hmem => hline (by simp [hmem])
  let trailing := " // ".toList ++ comment
  have hbreak : '\n' ∉ trailing := mt (mem_comment_iff (by decide) (by decide)).1 hcomment
  have hmark : ']' ∈ trailing ↔ ']' ∈ comment := mem_comment_iff (by decide) (by decide)
  have hkept : ∀ behind, ']' ∉ behind →
      beforeLast? ']' (fun _ => true) (inside ++ ']' :: (behind ++ ends)) = some inside :=
    fun behind hnot =>
      beforeLast?_append (by decide) hinside rfl (beforeLast?_of_not_mem hnot hends)
  have hlist : featuresOf ('[' :: (inside ++ [']'])) = .ok (some names) := by
    have hplain :=
      previewFeatures_of_list_line inside [] hbefore hjoined (hkept [] List.not_mem_nil)
    rw [List.append_nil, h] at hplain
    exact hplain.symm
  constructor
  · intro hsame hmem
    -- The cut is moved, so the list goes on behind its end.
    have hmoved : ∃ later, beforeLast? ']' (fun _ => true) (inside ++ ']' :: (trailing ++ ends)) =
        some (inside ++ ']' :: later) :=
      exists_beforeLast?_trailing (by decide) hinside hbreak (fun _ _ => rfl) (hmark.2 hmem)
    obtain ⟨later, hlater⟩ := hmoved
    have hlonger := previewFeatures_of_list_line inside trailing hbefore hjoined hlater
    refine featuresOf_append hlist (List.concat_ne_nil ']' later) (Eq.trans ?_ hsame)
    exact Eq.trans (by simp) hlonger.symm
  · intro hnot
    rw [← hlist]
    exact previewFeatures_of_list_line inside trailing hbefore hjoined
      (hkept trailing (mt hmark.1 hnot))

-- ---------------------------------------------------------------------------
-- The provider
-- ---------------------------------------------------------------------------

/-- The value is that of a line which ends behind it, and this line is the place that is taken. -/
structure ProviderTakenFrom (line : Text) (before after : List Text) (value : Text) : Prop where
  written : line = "provider = \"".toList ++ value ++ ['"']
  taken : Provider.place? (Text.joinLines (before ++ line :: after)) =
    some (Text.joinLines (line :: after))

namespace Provider

theorem datasourceProvider?_eq_some_iff {lines : List Text} {place value : Text}
    (h : place? (Text.joinLines lines) = some place) :
    datasourceProvider? lines = some value ↔ value? place = some value ∧ value ≠ [] := by
  rw [datasourceProvider?, search?_eq_bind, h, Option.bind_some, Option.filter_eq_some_iff]
  simp

theorem exists_below_of_value? {value : Text} {after : List Text}
    (h : value? (Text.joinLines (("provider = \"".toList ++ value ++ ['"']) :: after)) =
      some value) : after ≠ [] ∧ '}' ∈ Text.joinLines after := by
  obtain ⟨ends, hjoined, -⟩ := Text.exists_ends_joinLines after
  rw [hjoined, List.append_assoc, List.append_assoc, value?_written] at h
  obtain ⟨-, rest, hrest, hcloses⟩ := eq_append_of_beforeLast? h
  have hends : rest = ends := by simpa using hrest.symm
  by_cases hafter : after = []
  · subst hafter
    have hnone : ends = [] := by simpa [Text.joinLines_singleton] using hjoined []
    rw [hends, hnone] at hcloses
    contradiction
  · have hbelow : ends = '\n' :: Text.joinLines after := by
      simpa [Text.joinLines_cons hafter] using (hjoined []).symm
    rw [hends, hbelow, ← List.nil_append ('\n' :: _), closesLater_append_break] at hcloses
    exact ⟨hafter, by simpa using hcloses⟩

theorem closesLater_trailing {trailing more : Text} (htrailing : '}' ∉ trailing)
    (hmore : '}' ∈ more) :
    ∀ tail, tail <:+ trailing → closesLater (tail ++ '\n' :: more) = true := by
  intro tail htail
  have hhead : tail.head? ≠ some '}' := fun hhead =>
    htrailing (htail.subset (List.mem_of_mem_head? hhead))
  rw [closesLater_append_break]
  simp [hhead, hmore]

/-- A value with something behind it on its line is cut at the last quote there that is accepted. -/
theorem value?_trailing {after : List Text} (hafter : after ≠ []) (value trailing : Text) :
    value? (Text.joinLines (("provider = \"".toList ++ value ++ ['"'] ++ trailing) :: after)) =
      beforeLast? '"' closesLater (value ++ '"' :: (trailing ++ '\n' :: Text.joinLines after)) := by
  rw [← value?_written, Text.joinLines_cons hafter]
  simp only [List.append_assoc, List.cons_append, List.nil_append]

theorem place?_of_changed_line {before after : List Text} {line line' : Text} (hline : '\n' ∉ line)
    (hline' : '\n' ∉ line') (hafter : after ≠ []) (hbelow : '}' ∈ Text.joinLines after)
    (hvalue : hasValue (Text.joinLines (line' :: after)) = true)
    (h : place? (Text.joinLines (before ++ line :: after)) =
      some (Text.joinLines (line :: after))) :
    place? (Text.joinLines (before ++ line' :: after)) =
      some (Text.joinLines (line' :: after)) := by
  have hbefore : before ≠ [] := by
    rintro rfl
    exact absurd (length_lt_of_mem_places (List.mem_of_find?_eq_some h)) (Nat.lt_irrefl _)
  have hmem : ∀ first, '}' ∈ Text.joinLines (first :: after) := fun first => by
    simp [Text.joinLines_cons hafter, hbelow]
  have htaken : hasValue (Text.joinLines (line :: after)) = true := List.find?_some h
  rw [Text.joinLines_append hbefore (List.cons_ne_nil _ _)] at h ⊢
  refine place?_append_break htaken hvalue ?_ ?_ h
  · rw [Text.joinLines_cons hafter, Text.joinLines_cons hafter, secondLine?_line_append hline,
      secondLine?_line_append hline']
  · exact iff_of_true (hmem line) (hmem line')

end Provider

theorem datasourceProvider?_commented_iff {before after : List Text} {line value comment : Text}
    (hline : '\n' ∉ line) (hcomment : '\n' ∉ comment) (hbrace : '}' ∉ comment)
    (htaken : ProviderTakenFrom line before after value)
    (h : datasourceProvider? (before ++ line :: after) = some value) :
    datasourceProvider? (before ++ commented line comment :: after) = some value ↔
      '"' ∉ comment := by
  obtain ⟨rfl, hplace⟩ := htaken
  obtain ⟨hvalue, hne⟩ := (Provider.datasourceProvider?_eq_some_iff hplace).1 h
  obtain ⟨hafter, hbelow⟩ := Provider.exists_below_of_value? hvalue
  have hinside : '\n' ∉ value := fun hmem => hline (by simp [hmem])
  let trailing := " // ".toList ++ comment
  have hbreak : '\n' ∉ trailing := mt (mem_comment_iff (by decide) (by decide)).1 hcomment
  have hopen : '}' ∉ trailing := mt (mem_comment_iff (by decide) (by decide)).1 hbrace
  have hmark : '"' ∈ trailing ↔ '"' ∈ comment := mem_comment_iff (by decide) (by decide)
  let line' := "provider = \"".toList ++ value ++ ['"'] ++ trailing
  have haccepts := Provider.closesLater_trailing hopen hbelow
  have hcut := Provider.value?_trailing hafter value trailing
  have hline' : '\n' ∉ line' := by
    rw [List.mem_append, not_or]
    exact ⟨hline, hbreak⟩
  have hvalue' : Provider.hasValue (Text.joinLines (line' :: after)) = true := by
    rw [Provider.hasValue, hcut]
    exact isSome_beforeLast?_append (by decide) hinside (haccepts trailing List.suffix_rfl)
  have hplace' := Provider.place?_of_changed_line hline hline' hafter hbelow hvalue' hplace
  rw [commented, Provider.datasourceProvider?_eq_some_iff hplace', and_iff_left hne, hcut,
    beforeLast?_trailing_iff (by decide) hinside hbreak haccepts (by simp), hmark]

-- ---------------------------------------------------------------------------
-- Either fact
-- ---------------------------------------------------------------------------

/-- A comment behind the list or the value leaves the fact as it is exactly if the mark that ends
the list or the value is not in the comment. -/
theorem comment_keeps_facts_iff {before after : List Text} {line comment : Text}
    (hline : '\n' ∉ line) (hcomment : '\n' ∉ comment) (hbrace : '}' ∉ comment) :
    (∀ names, ListTakenFrom line before →
      previewFeatures (before ++ line :: after) = .ok (some names) →
      (previewFeatures (before ++ commented line comment :: after) = .ok (some names) ↔
        ']' ∉ comment)) ∧
    ∀ value, ProviderTakenFrom line before after value →
      datasourceProvider? (before ++ line :: after) = some value →
      (datasourceProvider? (before ++ commented line comment :: after) = some value ↔
        '"' ∉ comment) :=
  ⟨fun _ => previewFeatures_commented_iff hline hcomment,
    fun _ => datasourceProvider?_commented_iff hline hcomment hbrace⟩

/-- The marks of the list do no harm behind a value, and those of a value none behind the list. -/
theorem marks_of_other_fact_are_harmless :
    let list := "previewFeatures = [\"views\"]".toList
    let provider := "provider = \"sqlite\"".toList
    let header := "datasource db \x7b".toList
    previewFeatures [header, commented list "as in \"5.0\"".toList, ['}']] =
        .ok (some ["views".toList]) ∧
      datasourceProvider? [header, commented provider "see [1]".toList, ['}']] =
        some "sqlite".toList := by
  intro list provider header
  have hlist : ListTakenFrom list [header] := ⟨⟨"\"views\"".toList, rfl⟩, by decide +kernel⟩
  have hprovider : ProviderTakenFrom provider [header] [['}']] "sqlite".toList :=
    ⟨rfl, by decide +kernel⟩
  constructor
  · refine ((comment_keeps_facts_iff ?_ ?_ ?_).1 _ hlist ?_).2 ?_ <;> decide +kernel
  · refine ((comment_keeps_facts_iff ?_ ?_ ?_).2 _ hprovider ?_).2 ?_ <;> decide +kernel

/-- A bracket in the comment takes the list away, and a quote moves the end of the value. -/
theorem marks_in_comment_change_facts :
    let list := "previewFeatures = [\"views\"]".toList
    let provider := "provider = \"sqlite\"".toList
    let header := "datasource db \x7b".toList
    (ListTakenFrom list [] ∧ previewFeatures [list] = .ok (some ["views".toList]) ∧
      previewFeatures [commented list "see [1]".toList] = .ok none) ∧
    ProviderTakenFrom provider [header] [['}']] "sqlite".toList ∧
      datasourceProvider? [header, provider, ['}']] = some "sqlite".toList ∧
      datasourceProvider? [header, commented provider "or \"mysql\"".toList, ['}']] =
        some "sqlite\" // or \"mysql".toList := by
  intro list provider header
  refine ⟨⟨⟨⟨"\"views\"".toList, rfl⟩, rfl⟩, ?_, ?_⟩, ⟨rfl, ?_⟩, ?_, ?_⟩ <;> decide +kernel

end SchemaAssist
