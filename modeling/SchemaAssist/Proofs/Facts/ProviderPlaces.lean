import Mathlib.Data.List.Forall2
import SchemaAssist.Proofs.Facts.Provider

/-!
# The places at which a provider is looked for

The search tries one place after the other and takes the value at the first that has one
(`search?_eq_bind`). Which places there are above a line does not depend on what stands behind the
start of that line (`exists_places_append_break`). So a line may be changed, and the provider that
is found on it is still looked for there, as long as it has a value (`place?_append_break`).
-/

namespace SchemaAssist

namespace Provider

-- ---------------------------------------------------------------------------
-- Places
-- ---------------------------------------------------------------------------

/-- The second nonblank line of a body, if there is one, and then the first, each with all that
follows it. -/
def placesIn (body : Text) : List Text :=
  (secondLine? (Text.trimStart body)).toList ++ [Text.trimStart body]

def places : Text → List Text
  | [] => []
  | c :: text =>
    ((Text.after? "datasource".toList (c :: text)).elim [] fun rest =>
      (bodies rest).flatMap placesIn) ++ places text

def hasValue (place : Text) : Bool := (value? place).isSome

def place? (text : Text) : Option Text := (places text).find? hasValue

theorem findSome?_eq_bind (list : List Text) :
    list.findSome? value? = (list.find? hasValue).bind value? := by
  induction list with
  | nil => rfl
  | cons place list ih =>
    cases hvalue : value? place with
    | none =>
      rw [List.findSome?_cons_of_isNone, List.find?_cons_of_neg, ih] <;> simp [hasValue, hvalue]
    | some value =>
      rw [List.findSome?_cons_of_isSome, List.find?_cons_of_pos] <;> simp [hasValue, hvalue]

theorem inBody?_eq_findSome? (body : Text) : inBody? body = (placesIn body).findSome? value? := by
  rw [inBody?, placesIn]
  cases secondLine? (Text.trimStart body) with
  | none => simp
  | some second => cases hvalue : value? second <;> simp [hvalue]

theorem findSome?_inBody? (list : List Text) :
    list.findSome? inBody? = (list.flatMap placesIn).findSome? value? := by
  induction list with
  | nil => rfl
  | cons body list ih =>
    rw [List.findSome?_cons, List.flatMap_cons, List.findSome?_append, ← inBody?_eq_findSome?, ← ih]
    cases inBody? body <;> rfl

theorem search?_eq_findSome? (text : Text) : search? text = (places text).findSome? value? := by
  induction text with
  | nil => rfl
  | cons c text ih =>
    rw [search?, places, List.findSome?_append, ← ih]
    cases Text.after? "datasource".toList (c :: text) with
    | none => rfl
    | some rest =>
      rw [Option.bind_some, Option.elim_some, ← findSome?_inBody?]
      cases (bodies rest).findSome? inBody? <;> rfl

theorem search?_eq_bind (text : Text) : search? text = (place? text).bind value? := by
  rw [search?_eq_findSome?, findSome?_eq_bind, place?]

-- ---------------------------------------------------------------------------
-- Above a line
-- ---------------------------------------------------------------------------

/-- Places of two texts, the one ending in `x` and the other in `y`: they are at the start of the
two, or the same text stands before these, or they are one place that is shorter than `x`. -/
inductive Alike (x y : Text) : Text → Text → Prop
  | here : Alike x y x y
  | above (front : Text) : Alike x y (front ++ '\n' :: x) (front ++ '\n' :: y)
  | behind {place : Text} (h : place.length < x.length) : Alike x y place place

theorem Alike.eq_of_eq {x y place place' : Text} (h : Alike x y place place') (heq : place = x) :
    place' = y := by
  cases h with
  | here => rfl
  | above front =>
    have hlength := congrArg List.length heq
    rw [List.length_append, List.length_cons] at hlength
    omega
  | behind hlt => exact absurd hlt (heq ▸ Nat.lt_irrefl _)

/-- Two texts that can stand behind the same lines: neither starts with whitespace, and behind their
first lines they are the same. -/
structure SameBehind (x y : Text) : Prop where
  nonblank : ∀ c ∈ x.head?, Text.isSpace c = false
  nonblank' : ∀ c ∈ y.head?, Text.isSpace c = false
  second : secondLine? x = secondLine? y

theorem length_lt_of_secondLine? {text second : Text} (h : secondLine? text = some second) :
    second.length < text.length := by
  rw [secondLine?] at h
  split at h
  · contradiction
  · next c rest hrest =>
    cases h
    have hdrop := (List.dropWhile_suffix (l := text) (· != '\n')).length_le
    rw [hrest, List.length_cons] at hdrop
    exact Nat.lt_of_le_of_lt (Text.trimStart_suffix rest).length_le hdrop

theorem secondLine?_append_break (front : Text) :
    (∀ more, secondLine? (front ++ '\n' :: more) = some (Text.trimStart more)) ∨
      ∃ below, ∀ more,
        secondLine? (front ++ '\n' :: more) = some (Text.trimStart (below ++ '\n' :: more)) := by
  by_cases hbreak : '\n' ∈ front
  · obtain ⟨line, below, rfl, hline⟩ := List.eq_append_cons_of_mem hbreak
    refine .inr ⟨below, fun more => ?_⟩
    rw [List.append_assoc, List.cons_append, secondLine?_line_append hline]
  · exact .inl fun more => secondLine?_line_append hbreak more

section
variable {x y : Text} (h : SameBehind x y)
include h

theorem Alike.trimStart {place place' : Text} (halike : Alike x y place place') :
    Alike x y (Text.trimStart place) (Text.trimStart place') := by
  have hx := Text.trimStart_eq_self_iff.2 h.nonblank
  have hy := Text.trimStart_eq_self_iff.2 h.nonblank'
  cases halike with
  | here =>
    rw [hx, hy]
    exact .here
  | above front =>
    by_cases hblank : Text.Blank front
    · have hfront : Text.Blank (front ++ ['\n']) :=
        hblank.append (show Text.Blank ['\n'] by decide)
      rw [List.append_cons front '\n' x, List.append_cons front '\n' y,
        Text.trimStart_append hfront, Text.trimStart_append hfront, hx, hy]
      exact .here
    · rw [Text.trimStart_append_of_not_blank hblank, Text.trimStart_append_of_not_blank hblank]
      exact .above _
  | behind hlt => exact .behind (Nat.lt_of_le_of_lt (Text.trimStart_suffix _).length_le hlt)

theorem Alike.secondLine? {place place' : Text} (halike : Alike x y place place') :
    List.Forall₂ (Alike x y) (secondLine? place).toList (secondLine? place').toList := by
  cases halike with
  | here =>
    rw [← h.second]
    cases hsecond : Provider.secondLine? x with
    | none => exact .nil
    | some second => exact .cons (.behind (length_lt_of_secondLine? hsecond)) .nil
  | above front =>
    rcases secondLine?_append_break front with hbehind | ⟨below, hbehind⟩
    · rw [hbehind, hbehind]
      exact .cons (Alike.here.trimStart h) .nil
    · rw [hbehind, hbehind]
      exact .cons ((Alike.above below).trimStart h) .nil
  | behind hlt =>
    cases hsecond : Provider.secondLine? place with
    | none => exact .nil
    | some second =>
      exact .cons (.behind (Nat.lt_trans (length_lt_of_secondLine? hsecond) hlt)) .nil

theorem Alike.placesIn {body body' : Text} (halike : Alike x y body body') :
    List.Forall₂ (Alike x y) (placesIn body) (placesIn body') := by
  have hfirst := halike.trimStart h
  exact List.rel_append (hfirst.secondLine? h) (.cons hfirst .nil)

end

theorem bodies_append {front : Text} (h : '\n' ∈ front) (more : Text) :
    bodies (front ++ more) = (bodies front).map (· ++ more) := by
  fun_induction bodies front with
  | case1 => simp at h
  | case2 text => rfl
  | case3 text => rfl
  | case4 text ih =>
    rw [List.map_append, ← ih (by simpa using h)]
    rfl
  | case5 c text hbreak hbody hbody' ih =>
    have htext : '\n' ∈ text := (List.mem_cons.1 h).resolve_left fun heq => hbreak heq.symm
    obtain ⟨d, text, rfl⟩ := List.exists_cons_of_ne_nil (List.ne_nil_of_mem htext)
    rw [← ih htext]
    exact bodies.eq_5 c (d :: text ++ more) hbreak (by simpa using hbody) (by simpa using hbody')

theorem suffix_of_mem_bodies {body front : Text} (h : body ∈ bodies front) : body <:+ front := by
  fun_induction bodies front with
  | case1 => cases h
  | case2 => cases h
  | case3 text =>
    rw [List.mem_singleton.1 h]
    exact (List.suffix_cons _ _).trans (List.suffix_cons _ _)
  | case4 text ih =>
    rcases List.mem_append.1 h with hlater | hbody
    · exact (ih hlater).trans (List.suffix_cons _ _)
    · rw [List.mem_singleton.1 hbody]
      exact (List.suffix_cons _ _).trans (List.suffix_cons _ _)
  | case5 c text _ _ _ ih => exact (ih h).trans (List.suffix_cons c text)

section
variable {x y : Text} (h : SameBehind x y)
include h

theorem forall₂_flatMap_placesIn (rest : Text) :
    List.Forall₂ (Alike x y) ((bodies (rest ++ '\n' :: x)).flatMap placesIn)
      ((bodies (rest ++ '\n' :: y)).flatMap placesIn) := by
  have hbreak : '\n' ∈ rest ++ ['\n'] := by simp
  have hbodies : List.Forall₂ (Alike x y) (bodies (rest ++ '\n' :: x))
      (bodies (rest ++ '\n' :: y)) := by
    rw [List.append_cons rest '\n' x, List.append_cons rest '\n' y, bodies_append hbreak,
      bodies_append hbreak, List.forall₂_map_left_iff, List.forall₂_map_right_iff,
      List.forall₂_same]
    intro body hbody
    -- A body reaches to the end of what stands above, and so to the break there.
    rcases List.suffix_concat_iff.1 (suffix_of_mem_bodies hbody) with rfl | ⟨inner, rfl, -⟩
    · exact .here
    · simpa using Alike.above inner
  exact List.rel_flatMap hbodies fun _ _ halike => halike.placesIn h

theorem exists_places_append_break (front : Text) :
    ∃ above above', places (front ++ '\n' :: x) = above ++ places x ∧
      places (front ++ '\n' :: y) = above' ++ places y ∧
      List.Forall₂ (Alike x y) above above' := by
  induction front with
  | nil => exact ⟨[], [], rfl, rfl, .nil⟩
  | cons c front ih =>
    obtain ⟨above, above', habove, habove', halike⟩ := ih
    simp only [List.cons_append, places]
    rw [← List.cons_append, ← List.cons_append, Text.after?_append_break (by decide),
      Text.after?_append_break (by decide), habove, habove']
    cases Text.after? "datasource".toList (c :: front) with
    | none => exact ⟨above, above', rfl, rfl, halike⟩
    | some rest =>
      exact ⟨_, _, (List.append_assoc ..).symm, (List.append_assoc ..).symm,
        List.rel_append (forall₂_flatMap_placesIn h rest) halike⟩

end

-- ---------------------------------------------------------------------------
-- The place that is taken
-- ---------------------------------------------------------------------------

theorem length_le_of_mem_placesIn {body place : Text} (h : place ∈ placesIn body) :
    place.length ≤ body.length := by
  have hfirst := (Text.trimStart_suffix body).length_le
  rcases List.mem_append.1 h with hsecond | hplace
  · have hlt := length_lt_of_secondLine? (Option.mem_toList.1 hsecond)
    exact Nat.le_of_lt (Nat.lt_of_lt_of_le hlt hfirst)
  · rwa [List.mem_singleton.1 hplace]

theorem length_lt_of_mem_places {text place : Text} (h : place ∈ places text) :
    place.length < text.length := by
  induction text with
  | nil => cases h
  | cons c text ih =>
    rcases List.mem_append.1 h with hhere | hlater
    · cases hafter : Text.after? "datasource".toList (c :: text) with
      | none =>
        rw [hafter] at hhere
        cases hhere
      | some rest =>
        rw [hafter, Option.elim_some, List.mem_flatMap] at hhere
        obtain ⟨body, hbody, hplace⟩ := hhere
        have hmention := congrArg List.length (Text.after?_eq_some_iff.1 hafter)
        have hlength : "datasource".toList.length = 10 := by decide
        have hle := (suffix_of_mem_bodies hbody).length_le
        have hle' := length_le_of_mem_placesIn hplace
        rw [List.length_append, hlength] at hmention
        omega
    · exact Nat.lt_succ_of_lt (ih hlater)

theorem closesLater_append_break (tail more : Text) :
    closesLater (tail ++ '\n' :: more) =
      (tail.head? != some '}' && (tail.contains '}' || more.contains '}')) := by
  cases tail with
  | nil => simp [closesLater]
  | cons c tail =>
    by_cases hc : c = '}'
    · simp [closesLater, hc]
    · have hhead : (some c != some '}') = (c != '}') := rfl
      simp [closesLater, hhead, Ne.symm hc]

section
variable {x y : Text} (hx : hasValue x = true) (hy : hasValue y = true)
include hx

theorem exists_eq_of_hasValue : ∃ rest, x = 'p' :: rest := by
  obtain ⟨value, hvalue⟩ := Option.isSome_iff_exists.1 hx
  obtain ⟨before, after, rest, -, -, rfl, -⟩ := value?_eq_some_iff.1 hvalue
  exact ⟨_, rfl⟩

include hy

theorem sameBehind_of_hasValue (hsecond : secondLine? x = secondLine? y) :
    SameBehind x y := by
  obtain ⟨rest, rfl⟩ := exists_eq_of_hasValue hx
  obtain ⟨rest', rfl⟩ := exists_eq_of_hasValue hy
  have hletter : Text.isSpace 'p' = false := by decide
  exact ⟨by simpa using hletter, by simpa using hletter, hsecond⟩

theorem Alike.hasValue (hbrace : '}' ∈ x ↔ '}' ∈ y) {place place' : Text}
    (halike : Alike x y place place') : hasValue place = hasValue place' := by
  cases halike with
  | here => rw [hx, hy]
  | above front =>
    obtain ⟨rest, rfl⟩ := exists_eq_of_hasValue hx
    obtain ⟨rest', rfl⟩ := exists_eq_of_hasValue hy
    have hcontains : ('p' :: rest).contains '}' = ('p' :: rest').contains '}' := by
      rwa [Bool.eq_iff_iff, List.contains_iff_mem, List.contains_iff_mem]
    rw [Provider.hasValue, Provider.hasValue, value?_append_break (by simp),
      value?_append_break (by simp)]
    simp only [closesLater_append_break, hcontains]
  | behind => rfl

theorem find?_alike (hbrace : '}' ∈ x ↔ '}' ∈ y) {above above' : List Text}
    (halike : List.Forall₂ (Alike x y) above above')
    (h : above.find? hasValue = some x) : above'.find? hasValue = some y := by
  induction halike with
  | nil => cases h
  | @cons place place' above above' hplace _ ih =>
    have hsame := hplace.hasValue hx hy hbrace
    by_cases hvalue : hasValue place = true
    · rw [List.find?_cons_of_pos hvalue] at h
      rw [List.find?_cons_of_pos (hsame ▸ hvalue), hplace.eq_of_eq (Option.some.inj h)]
    · rw [List.find?_cons_of_neg hvalue] at h
      rw [List.find?_cons_of_neg (hsame ▸ hvalue)]
      exact ih h

/-- The place that is taken stays taken if its line is changed into one that has a value, where the
lines behind it stay and still hold a closing brace, or still hold none. -/
theorem place?_append_break (hsecond : secondLine? x = secondLine? y)
    (hbrace : '}' ∈ x ↔ '}' ∈ y) {front : Text} (h : place? (front ++ '\n' :: x) = some x) :
    place? (front ++ '\n' :: y) = some y := by
  obtain ⟨above, above', habove, habove', halike⟩ :=
    exists_places_append_break (sameBehind_of_hasValue hx hy hsecond) front
  rw [place?, habove, List.find?_append, Option.or_eq_some_iff] at h
  rw [place?, habove', List.find?_append, Option.or_eq_some_iff]
  rcases h with hfound | ⟨-, hbelow⟩
  · exact .inl (find?_alike hx hy hbrace halike hfound)
  · exact absurd (length_lt_of_mem_places (List.mem_of_find?_eq_some hbelow)) (Nat.lt_irrefl _)

end

end Provider
end SchemaAssist
