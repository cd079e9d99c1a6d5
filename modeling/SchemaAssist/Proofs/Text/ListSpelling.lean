import SchemaAssist.Proofs.Text.Trimming
import SchemaAssist.Text.Lines

/-!
# How a bracketed list is spelled

A value of a list may stand bare, between quotes, or in front of a dot, with whitespace around it.
Each of the three is undone by a step of its own, which leaves the other two alone
(`listValue_text`), so a list that mixes them is read back (`listValues_of_items`).
-/

namespace SchemaAssist.Text

inductive ValueSpelling
  | bare
  | quoted
  | dotted
  deriving DecidableEq, Repr

def ValueSpelling.text (value : Text) : ValueSpelling → Text
  | .bare => value
  | .quoted => '"' :: (value ++ ['"'])
  | .dotted => value ++ ['.']

/-- A value between two commas. It has none of the marks that a list is cut at, and nothing at its
ends that would be taken off. -/
structure ListItem where
  gap : Text
  value : Text
  spelling : ValueSpelling
  filler : Text
  blank_gap : Blank gap := by decide
  value_ne_nil : value ≠ [] := by decide
  trim_value : trim value = value := by decide
  comma_not_mem : ',' ∉ value := by decide
  bracket_not_mem : ']' ∉ value := by decide
  quote_not_mem : '"' ∉ value := by decide
  not_dot_suffix : ¬ ['.'] <:+ value := by decide
  blank_filler : Blank filler := by decide

def ListItem.text (item : ListItem) : Text := item.gap ++ item.spelling.text item.value ++ item.filler

theorem dropQuotes_append {front : Text} (h : '"' ∉ front) (count : Nat) (rest : Text) :
    dropQuotes count (front ++ rest) = front ++ dropQuotes count rest := by
  induction front with
  | nil => rfl
  | cons c front ih =>
    obtain ⟨hc, hfront⟩ : '"' ≠ c ∧ '"' ∉ front := by simpa using h
    cases count with
    | zero => rw [dropQuotes, dropQuotes]
    | succ count => rw [List.cons_append, dropQuotes, if_neg hc.symm, ih hfront, List.cons_append]

theorem dropQuotes_of_not_mem {text : Text} (h : '"' ∉ text) (count : Nat) :
    dropQuotes count text = text := by
  have hnil : dropQuotes count [] = [] := by cases count <;> rfl
  simpa [hnil] using dropQuotes_append h count []

theorem dropQuotes_quoted {value : Text} (h : '"' ∉ value) :
    dropQuotes 2 ('"' :: (value ++ ['"'])) = value := by
  have hvalue := dropQuotes_append h 1 ['"']
  simpa [dropQuotes] using hvalue

theorem ValueSpelling.trim_text {value : Text} (hne : value ≠ []) (htrim : trim value = value)
    (spelling : ValueSpelling) : trim (spelling.text value) = spelling.text value := by
  cases spelling with
  | bare => exact htrim
  | quoted => exact trim_eq_self_of_ends (by decide) (by decide) value
  | dotted =>
    obtain ⟨c, rest, rfl⟩ := List.exists_cons_of_ne_nil hne
    exact trim_eq_self_of_ends (isSpace_head htrim) (by decide) rest

theorem listValue_text (item : ListItem) : listValue item.text = item.value := by
  obtain ⟨gap, value, spelling, filler, hgap, hne, htrim, -, -, hquote, hdot, hfiller⟩ := item
  rw [listValue, ListItem.text,
    trim_append_append hgap (spelling.trim_text hne htrim) hfiller]
  cases spelling with
  | bare => rw [ValueSpelling.text, dropQuotes_of_not_mem hquote, dropEnding_of_not_suffix hdot]
  | quoted => rw [ValueSpelling.text, dropQuotes_quoted hquote, dropEnding_of_not_suffix hdot]
  | dotted =>
    have hmarks : '"' ∉ value ++ ['.'] := by simp [hquote]
    rw [ValueSpelling.text, dropQuotes_of_not_mem hmarks, dropEnding_append]

theorem ListItem.text_ne_nil (item : ListItem) : item.text ≠ [] := by
  have hspelled : item.spelling.text item.value ≠ [] := by
    cases item.spelling <;> simp [ValueSpelling.text, item.value_ne_nil]
  simp [ListItem.text, hspelled]

theorem ListItem.not_mem_text (item : ListItem) {c : Char} (hspace : isSpace c = false)
    (hquote : c ≠ '"') (hdot : c ≠ '.') (hvalue : c ∉ item.value) : c ∉ item.text := by
  have hspelled : c ∉ item.spelling.text item.value := by
    cases item.spelling <;> simp [ValueSpelling.text, hquote, hdot, hvalue]
  simp [ListItem.text, hspelled, item.blank_gap.not_mem hspace, item.blank_filler.not_mem hspace]

theorem not_mem_intercalate {c d : Char} (hcd : c ≠ d) {texts : List Text}
    (h : ∀ text ∈ texts, c ∉ text) : c ∉ List.intercalate [d] texts := by
  induction texts with
  | nil => simp
  | cons text texts ih =>
    obtain ⟨htext, htexts⟩ := List.forall_mem_cons.1 h
    cases texts with
    | nil => simpa using htext
    | cons next texts =>
      rw [List.intercalate_cons_cons]
      simp [htext, hcd, ih htexts]

theorem bracketed?_append {before inside : Text} (hbefore : '[' ∉ before) (hne : inside ≠ [])
    (hinside : ']' ∉ inside) (after : Text) :
    bracketed? (before ++ '[' :: (inside ++ ']' :: after)) = some inside := by
  induction before with
  | nil =>
    have hkept : ∀ c ∈ inside, (c != ']') = true := fun c hc =>
      bne_iff_ne.2 fun he => hinside (he ▸ hc)
    have hcut : (inside ++ ']' :: after).takeWhile (· != ']') = inside := by
      rw [List.takeWhile_append_of_pos hkept, List.takeWhile_cons_of_neg (by simp), List.append_nil]
    have hclosed : (inside ++ ']' :: after).dropWhile (· != ']') ≠ [] := by
      rw [List.dropWhile_append_of_pos hkept, List.dropWhile_cons_of_neg (by simp)]
      exact List.cons_ne_nil _ _
    rw [List.nil_append, bracketed?, hcut, if_pos ⟨rfl, hne, hclosed⟩]
  | cons c before ih =>
    obtain ⟨hc, hbelow⟩ : '[' ≠ c ∧ '[' ∉ before := by simpa using hbefore
    rw [List.cons_append, bracketed?, if_neg fun h => hc h.1.symm, ih hbelow]

/-- Of a list in any mix of spellings, its values are read back in order. -/
theorem listValues_of_items {items : List ListItem} (hitems : items ≠ []) {before : Text}
    (hbefore : '[' ∉ before) (after : Text) :
    listValues (before ++
        '[' :: (List.intercalate [','] (items.map ListItem.text) ++ ']' :: after)) =
      items.map ListItem.value := by
  have hbracket : ']' ∉ List.intercalate [','] (items.map ListItem.text) :=
    not_mem_intercalate (by decide) (List.forall_mem_map.2 fun item _ =>
      item.not_mem_text (by decide) (by decide) (by decide) item.bracket_not_mem)
  have hcomma : ∀ text ∈ items.map ListItem.text, ',' ∉ text := List.forall_mem_map.2
    fun item _ => item.not_mem_text (by decide) (by decide) (by decide) item.comma_not_mem
  have hsplit : (List.intercalate [','] (items.map ListItem.text)).splitOn ',' =
      items.map ListItem.text := List.splitOn_intercalate ',' hcomma (by simpa using hitems)
  -- Brackets around nothing are passed over, but every item has a character.
  have hne : List.intercalate [','] (items.map ListItem.text) ≠ [] := by
    intro hnil
    have hmem : [] ∈ items.map ListItem.text := by rw [← hsplit, hnil]; simp
    obtain ⟨item, -, htext⟩ := List.mem_map.1 hmem
    exact item.text_ne_nil htext
  rw [listValues, bracketed?_append hbefore hne hbracket]
  calc ((List.intercalate [','] (items.map ListItem.text)).splitOn ',').map listValue
    _ = items.map (listValue ∘ ListItem.text) := by rw [hsplit, List.map_map]
    _ = items.map ListItem.value := List.map_congr_left fun item _ => listValue_text item

/-- Every spelling, whitespace of several kinds, a bracket and a space within a value, and another
list behind. -/
theorem listValues_of_mixed_spellings :
    '[' ∉ "@@index(".toList ∧
      listValues "@@index([ email ,\"first [name\"\n,\taddress.city.], [x])".toList =
        ["email".toList, "first [name".toList, "address.city".toList] := by
  let email : ListItem := { gap := [' '], value := "email".toList, spelling := .bare, filler := [' '] }
  let name : ListItem :=
    { gap := [], value := "first [name".toList, spelling := .quoted, filler := ['\n'] }
  let city : ListItem :=
    { gap := ['\t'], value := "address.city".toList, spelling := .dotted, filler := [] }
  have hbefore : '[' ∉ "@@index(".toList := by decide
  exact ⟨hbefore, listValues_of_items (List.cons_ne_nil email [name, city]) hbefore ", [x])".toList⟩

end SchemaAssist.Text
