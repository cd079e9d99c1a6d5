import SchemaAssist.Facts
import SchemaAssist.Proofs.Text.JoinedLines

/-!
# What an assignment is followed by

`assigned?` reads one spelling only, and `beforeLast?` cuts a line at the last mark that is
accepted.
-/

namespace SchemaAssist

theorem Text.afterSpace?_eq_some_iff {text rest : Text} :
    Text.afterSpace? text = some rest ↔ ∃ c, Text.isSpace c = true ∧ text = c :: rest := by
  cases text with
  | nil => simp [Text.afterSpace?]
  | cons c text =>
    rw [Text.afterSpace?]
    split
    · next hc =>
      simp only [Option.some.injEq, List.cons.injEq]
      constructor
      · intro h
        exact ⟨c, hc, rfl, h⟩
      · rintro ⟨_, -, -, h⟩
        exact h
    · next hc =>
      simp only [reduceCtorEq, List.cons.injEq, false_iff, not_exists, not_and]
      rintro _ hspace rfl
      exact absurd hspace hc

theorem assigned?_eq_some_iff {key text rest : Text} :
    assigned? key text = some rest ↔
      ∃ before after, Text.isSpace before = true ∧ Text.isSpace after = true ∧
        text = key ++ before :: '=' :: after :: rest := by
  simp only [assigned?, Option.bind_eq_bind, Option.bind_eq_some_iff, Text.after?_eq_some_iff,
    Text.afterSpace?_eq_some_iff]
  constructor
  · rintro ⟨_, rfl, _, ⟨before, hbefore, rfl⟩, _, rfl, after, hafter, rfl⟩
    exact ⟨before, after, hbefore, hafter, rfl⟩
  · rintro ⟨before, after, hbefore, hafter, rfl⟩
    exact ⟨_, rfl, _, ⟨before, hbefore, rfl⟩, _, rfl, after, hafter, rfl⟩

theorem isPrefix_of_assigned? {key text rest : Text} (h : assigned? key text = some rest) :
    key <+: text := by
  obtain ⟨before, after, -, -, rfl⟩ := assigned?_eq_some_iff.1 h
  exact List.prefix_append ..

def assignedBehind? (key : Text) (mark : Char) (text : Text) : Option Text :=
  (assigned? key text).bind (Text.after? [mark])

theorem assignedBehind?_eq_some_iff {key text rest : Text} {mark : Char} :
    assignedBehind? key mark text = some rest ↔
      ∃ before after, Text.isSpace before = true ∧ Text.isSpace after = true ∧
        text = key ++ before :: '=' :: after :: mark :: rest := by
  simp only [assignedBehind?, Option.bind_eq_some_iff, Text.after?_eq_some_iff,
    assigned?_eq_some_iff, List.singleton_append]
  constructor
  · rintro ⟨_, ⟨before, after, hbefore, hafter, rfl⟩, rfl⟩
    exact ⟨before, after, hbefore, hafter, rfl⟩
  · rintro ⟨before, after, hbefore, hafter, rfl⟩
    exact ⟨_, ⟨before, after, hbefore, hafter, rfl⟩, rfl⟩

theorem assignedBehind?_append_break {key more : Text} {mark : Char} (hkey : '\n' ∉ key)
    (hmark : mark ≠ '\n') (hmore : more.head? ≠ some '=' ∧ more.head? ≠ some mark) (text : Text) :
    assignedBehind? key mark (text ++ '\n' :: more) =
      (assignedBehind? key mark text).map (· ++ '\n' :: more) := by
  refine Option.ext fun rest => ?_
  simp only [Option.map_eq_some_iff, assignedBehind?_eq_some_iff]
  constructor
  · rintro ⟨before, after, hbefore, hafter, htext⟩
    -- The text is read off part by part; what starts behind the break is none of these two.
    obtain ⟨text, rfl, hline⟩ := Text.exists_of_append_break_eq hkey htext
    cases text with
    | nil => cases hline; simp at hmore
    | cons c text =>
    obtain ⟨rfl, hsign⟩ := List.cons.inj hline
    cases text with
    | nil => simp at hsign
    | cons c text =>
    obtain ⟨rfl, hspace⟩ := List.cons.inj hsign
    cases text with
    | nil => cases hspace; simp at hmore
    | cons c text =>
    obtain ⟨rfl, hopening⟩ := List.cons.inj hspace
    cases text with
    | nil => exact absurd (List.cons.inj hopening).1 hmark
    | cons c text =>
    obtain ⟨rfl, rfl⟩ := List.cons.inj hopening
    exact ⟨text, ⟨_, _, hbefore, hafter, rfl⟩, rfl⟩
  · rintro ⟨inner, ⟨before, after, hbefore, hafter, rfl⟩, rfl⟩
    exact ⟨before, after, hbefore, hafter, by simp⟩

section
variable {mark : Char} {accepts : Text → Bool}

theorem eq_append_of_beforeLast? {text before : Text}
    (h : beforeLast? mark accepts text = some before) :
    '\n' ∉ before ∧ ∃ rest, text = before ++ mark :: rest ∧ accepts rest = true := by
  fun_induction beforeLast? mark accepts text generalizing before with
  | case1 => contradiction
  | case2 => contradiction
  | case3 c text hc inner hinner ih =>
    cases h
    obtain ⟨hbreak, rest, rfl, haccepts⟩ := ih hinner
    exact ⟨by simp [Ne.symm hc, hbreak], rest, rfl, haccepts⟩
  | case4 c text hc hnone hcut ih =>
    cases h
    obtain ⟨rfl, haccepts⟩ := hcut
    exact ⟨by simp, text, rfl, haccepts⟩
  | case5 => contradiction

variable (hmark : mark ≠ '\n')
include hmark

theorem beforeLast?_append {before rest : Text} (hbefore : '\n' ∉ before)
    (haccepts : accepts rest = true) (hlast : beforeLast? mark accepts rest = none) :
    beforeLast? mark accepts (before ++ mark :: rest) = some before := by
  induction before with
  | nil => rw [List.nil_append, beforeLast?, if_neg hmark, hlast]; exact if_pos ⟨rfl, haccepts⟩
  | cons c before ih =>
    obtain ⟨hc, hbefore⟩ := List.ne_and_not_mem_of_not_mem_cons hbefore
    rw [List.cons_append, beforeLast?, if_neg hc.symm, ih hbefore]

theorem isSome_beforeLast?_append {before rest : Text} (hbefore : '\n' ∉ before)
    (haccepts : accepts rest = true) :
    (beforeLast? mark accepts (before ++ mark :: rest)).isSome = true := by
  induction before with
  | nil =>
    rw [List.nil_append, beforeLast?, if_neg hmark]
    cases beforeLast? mark accepts rest with
    | some later => rfl
    | none => rw [if_pos ⟨rfl, haccepts⟩]; rfl
  | cons c before ih =>
    obtain ⟨hc, hbefore⟩ := List.ne_and_not_mem_of_not_mem_cons hbefore
    obtain ⟨later, hlater⟩ := Option.isSome_iff_exists.1 (ih hbefore)
    rw [List.cons_append, beforeLast?, if_neg hc.symm, hlater]
    rfl

omit hmark in
theorem beforeLast?_append_of_some {front text later : Text} (hfront : '\n' ∉ front)
    (h : beforeLast? mark accepts text = some later) :
    beforeLast? mark accepts (front ++ text) = some (front ++ later) := by
  induction front with
  | nil => exact h
  | cons c front ih =>
    obtain ⟨hc, hfront⟩ := List.ne_and_not_mem_of_not_mem_cons hfront
    rw [List.cons_append, beforeLast?, if_neg hc.symm, ih hfront, List.cons_append]

omit hmark in
theorem beforeLast?_append_break (text more : Text) :
    beforeLast? mark accepts (text ++ '\n' :: more) =
      beforeLast? mark (fun tail => accepts (tail ++ '\n' :: more)) text := by
  induction text with
  | nil => simp [beforeLast?]
  | cons c text ih => rw [List.cons_append, beforeLast?, beforeLast?, ih]

omit hmark in
theorem beforeLast?_of_not_mem {line rest : Text} (hline : mark ∉ line)
    (hrest : ∀ c ∈ rest.head?, c = '\n') : beforeLast? mark accepts (line ++ rest) = none := by
  induction line with
  | nil =>
    cases rest with
    | nil => rfl
    | cons c rest => rw [List.nil_append, beforeLast?, if_pos (hrest c rfl)]
  | cons c line ih =>
    obtain ⟨hc, hline⟩ := List.ne_and_not_mem_of_not_mem_cons hline
    rw [List.cons_append, beforeLast?, ih hline]
    split
    · rfl
    · exact if_neg fun h => hc h.1.symm

section
variable {before trailing ends : Text} (hbefore : '\n' ∉ before) (htrailing : '\n' ∉ trailing)
  (haccepts : ∀ tail, tail <:+ trailing → accepts (tail ++ ends) = true)
include hbefore htrailing haccepts

/-- A mark in what trails another one moves the cut, if each that could be there would be
accepted. -/
theorem exists_beforeLast?_trailing (hmem : mark ∈ trailing) :
    ∃ later, beforeLast? mark accepts (before ++ mark :: (trailing ++ ends)) =
      some (before ++ mark :: later) := by
  obtain ⟨front, tail, rfl⟩ := List.append_of_mem hmem
  rw [List.mem_append, not_or] at htrailing
  have hlater : (beforeLast? mark accepts (front ++ mark :: (tail ++ ends))).isSome = true :=
    isSome_beforeLast?_append hmark htrailing.1
      (haccepts tail ((List.suffix_cons mark tail).trans (List.suffix_append ..)))
  obtain ⟨later, hlater⟩ := Option.isSome_iff_exists.1 hlater
  have hbehind : '\n' ∉ before ++ [mark] := by simp [hbefore, hmark.symm]
  exact ⟨later, by simpa using beforeLast?_append_of_some hbehind hlater⟩

theorem beforeLast?_trailing_iff (hends : ∀ c ∈ ends.head?, c = '\n') :
    beforeLast? mark accepts (before ++ mark :: (trailing ++ ends)) = some before ↔
      mark ∉ trailing := by
  constructor
  · intro hcut hmem
    obtain ⟨later, hlater⟩ := exists_beforeLast?_trailing hmark hbefore htrailing haccepts hmem
    simp [hcut] at hlater
  · intro hmem
    exact beforeLast?_append hmark hbefore (haccepts trailing List.suffix_rfl)
      (beforeLast?_of_not_mem hmem hends)

end

end

end SchemaAssist
