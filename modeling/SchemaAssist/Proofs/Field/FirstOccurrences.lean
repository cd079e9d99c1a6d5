import SchemaAssist.Field.Index
import SchemaAssist.Proofs.Lists.Ordered

/-!
# Uses of types and first occurrences

The index gathers the declarations of a block by their types. Every type has one entry, and taken
apart again the entries are the declarations, each of them once (`perm_usesOf`).

Both sides of the index are made of the declarations that come first with their type or with their
name. `firsts` lists them, in the order of the declarations; `usesOf_eq_map_firsts` and
`typesOf_eq_map_firsts` read the index from them.
-/

namespace SchemaAssist

def TypeUse.uses (use : TypeUse) : List (Text × Nat) := use.lines.map (use.type, ·)

namespace FieldIndex

theorem pairwise_usesOf (declared : List Declaration) :
    (usesOf declared).Pairwise (·.type ≠ ·.type) := by
  induction declared with
  | nil => exact .nil
  | cons first rest ih =>
    refine .cons ?_ (ih.sublist List.filter_sublist)
    intro use huse
    exact Ne.symm (of_decide_eq_true (List.mem_filter.1 huse).2)

def linesUsing (type : Text) (entries : List TypeUse) : List Nat :=
  match entries.find? (·.type = type) with
  | some use => use.lines
  | none => []

theorem perm_linesUsing {entries : List TypeUse} (h : entries.Pairwise (·.type ≠ ·.type))
    (type : Text) :
    ((linesUsing type entries).map (type, ·) ++
      (entries.filter (·.type ≠ type)).flatMap TypeUse.uses).Perm
      (entries.flatMap TypeUse.uses) := by
  induction entries with
  | nil => exact .refl _
  | cons use entries ih =>
    obtain ⟨hfirst, hrest⟩ := List.pairwise_cons.1 h
    by_cases htype : use.type = type
    · subst htype
      have hothers : entries.filter (·.type ≠ use.type) = entries :=
        List.filter_eq_self.2 fun other hother => decide_eq_true (Ne.symm (hfirst other hother))
      rw [linesUsing, List.find?_cons_of_pos (by simp), List.filter_cons_of_neg (by simp), hothers]
      exact .refl _
    · rw [linesUsing, List.find?_cons_of_neg (by simpa using htype), ← linesUsing,
        List.filter_cons_of_pos (by simpa using htype), List.flatMap_cons, List.flatMap_cons]
      exact (List.perm_append_comm_assoc _ _ _).trans ((ih hrest).append_left _)

theorem perm_usesOf (declared : List Declaration) :
    ((usesOf declared).flatMap TypeUse.uses).Perm (declared.map fun d => (d.type, d.line)) := by
  induction declared with
  | nil => exact .refl _
  | cons first rest ih =>
    have hrest := (perm_linesUsing (pairwise_usesOf rest) first.type).trans ih
    exact hrest.cons (first.type, first.line)

end FieldIndex

def firsts (key : Declaration → Text) : List Declaration → List Declaration
  | [] => []
  | first :: rest => first :: (firsts key rest).filter (key · ≠ key first)

section
variable {key : Declaration → Text} {declared : List Declaration}

theorem sublist_firsts (key : Declaration → Text) (declared : List Declaration) :
    (firsts key declared).Sublist declared := by
  induction declared with
  | nil => exact .slnil
  | cons first rest ih => exact (List.filter_sublist.trans ih).cons_cons first

theorem pairwise_key_firsts (key : Declaration → Text) (declared : List Declaration) :
    (firsts key declared).Pairwise (key · ≠ key ·) := by
  induction declared with
  | nil => exact .nil
  | cons first rest ih =>
    refine .cons ?_ (ih.sublist List.filter_sublist)
    intro later hlater
    exact Ne.symm (of_decide_eq_true (List.mem_filter.1 hlater).2)

theorem exists_mem_firsts (key : Declaration → Text) {d : Declaration} (h : d ∈ declared) :
    ∃ first ∈ firsts key declared, key first = key d := by
  induction declared with
  | nil => cases h
  | cons head rest ih =>
    rcases List.mem_cons.1 h with rfl | hrest
    · exact ⟨d, List.mem_cons_self .., rfl⟩
    · obtain ⟨first, hfirst, hkey⟩ := ih hrest
      by_cases hhead : key first = key head
      · exact ⟨head, List.mem_cons_self .., hhead.symm.trans hkey⟩
      · exact ⟨first, List.mem_cons_of_mem _ (List.mem_filter.2 ⟨hfirst, decide_eq_true hhead⟩), hkey⟩

theorem line_le_of_mem_firsts (hsorted : declared.Pairwise (·.line < ·.line)) {first : Declaration}
    (hfirst : first ∈ firsts key declared) {d : Declaration} (h : d ∈ declared)
    (hkey : key d = key first) : first.line ≤ d.line := by
  induction declared with
  | nil => cases h
  | cons head rest ih =>
    obtain ⟨hhead, hrest⟩ := List.pairwise_cons.1 hsorted
    rcases List.mem_cons.1 h with rfl | hd <;> rcases List.mem_cons.1 hfirst with rfl | hlater
    · exact Nat.le_refl _
    · exact absurd hkey.symm (of_decide_eq_true (List.mem_filter.1 hlater).2)
    · exact Nat.le_of_lt (hhead d hd)
    · exact ih hrest (List.mem_filter.1 hlater).1 hd

theorem eq_of_line_eq (hsorted : declared.Pairwise (·.line < ·.line)) {d d' : Declaration}
    (h : d ∈ declared) (h' : d' ∈ declared) (hline : d.line = d'.line) : d = d' :=
  eq_of_pairwise_ne (hsorted.imp Nat.ne_of_lt) h h' hline

theorem mem_firsts_iff (hsorted : declared.Pairwise (·.line < ·.line)) {first : Declaration} :
    first ∈ firsts key declared ↔
      first ∈ declared ∧ ∀ d ∈ declared, key d = key first → first.line ≤ d.line := by
  constructor
  · intro hfirst
    exact ⟨(sublist_firsts key declared).subset hfirst,
      fun d hd hkey => line_le_of_mem_firsts hsorted hfirst hd hkey⟩
  · rintro ⟨hmem, hle⟩
    obtain ⟨other, hother, hkey⟩ := exists_mem_firsts key hmem
    have hother_mem := (sublist_firsts key declared).subset hother
    have hline : other.line = first.line :=
      Nat.le_antisymm (line_le_of_mem_firsts hsorted hother hmem hkey.symm)
        (hle other hother_mem hkey)
    rwa [← eq_of_line_eq hsorted hother_mem hmem hline]

end

namespace FieldIndex

def useOf (declared : List Declaration) (first : Declaration) : TypeUse where
  type := first.type
  lines := (declared.filter (·.type = first.type)).map (·.line)
  firstName := first.name

theorem linesUsing_map_useOf (type : Text) (declared : List Declaration) :
    linesUsing type ((firsts (·.type) declared).map (useOf declared)) =
      (declared.filter (·.type = type)).map (·.line) := by
  rw [linesUsing, List.find?_map]
  cases hfind : (firsts (·.type) declared).find? ((·.type = type) ∘ useOf declared) with
  | some first =>
    have htype := List.find?_some hfind
    obtain rfl : first.type = type := of_decide_eq_true htype
    rfl
  | none =>
    -- Without a first declaration of the type there is none at all.
    have hnone : declared.filter (·.type = type) = [] := by
      rw [List.filter_eq_nil_iff]
      intro d hd htype
      obtain ⟨first, hfirst, hkey⟩ := exists_mem_firsts (·.type) hd
      have hother := List.find?_eq_none.1 hfind first hfirst
      exact hother (by simpa [useOf, hkey] using htype)
    rw [hnone]
    rfl

theorem usesOf_eq_map_firsts (declared : List Declaration) :
    usesOf declared = (firsts (·.type) declared).map (useOf declared) := by
  induction declared with
  | nil => rfl
  | cons first rest ih =>
    have hhead : (⟨first.type, first.line :: linesUsing first.type (usesOf rest), first.name⟩ :
        TypeUse) = useOf (first :: rest) first := by
      rw [ih, linesUsing_map_useOf, useOf, List.filter_cons_of_pos (by simp), List.map_cons]
    have htail : (usesOf rest).filter (·.type ≠ first.type) =
        ((firsts (·.type) rest).filter (·.type ≠ first.type)).map (useOf (first :: rest)) := by
      rw [ih, List.filter_map]
      refine List.map_congr_left fun later hlater => ?_
      have hne : later.type ≠ first.type := of_decide_eq_true (List.mem_filter.1 hlater).2
      rw [useOf, useOf, List.filter_cons_of_neg (by simpa using Ne.symm hne)]
    rw [firsts, List.map_cons, ← hhead, ← htail]
    rfl

theorem mem_usesOf_iff {declared : List Declaration} {use : TypeUse} :
    use ∈ usesOf declared ↔ ∃ first ∈ firsts (·.type) declared, useOf declared first = use := by
  rw [usesOf_eq_map_firsts, List.mem_map]

section
variable {declared : List Declaration} {first : Declaration}

theorem mem_lines_useOf {number : Nat} :
    number ∈ (useOf declared first).lines ↔
      ∃ d ∈ declared, d.type = first.type ∧ d.line = number := by
  simp [useOf, and_assoc]

theorem pairwise_lines_useOf (hsorted : declared.Pairwise (·.line < ·.line))
    (first : Declaration) : (useOf declared first).lines.Pairwise (· < ·) :=
  List.pairwise_map.2 (hsorted.sublist List.filter_sublist)

theorem head?_lines_useOf (hsorted : declared.Pairwise (·.line < ·.line))
    (h : first ∈ firsts (·.type) declared) :
    (useOf declared first).lines.head? = some first.line := by
  obtain ⟨hmem, hle⟩ := (mem_firsts_iff hsorted).1 h
  refine head?_eq_some_of_le (pairwise_lines_useOf hsorted first)
    (mem_lines_useOf.2 ⟨first, hmem, rfl, rfl⟩) ?_
  intro number hnumber
  obtain ⟨d, hd, htype, rfl⟩ := mem_lines_useOf.1 hnumber
  exact hle d hd htype

end

theorem typesOf_eq_map_firsts (declared : List Declaration) :
    typesOf declared = (firsts (·.name) declared).map fun first => (first.name, first.type) := by
  induction declared with
  | nil => rfl
  | cons first rest ih =>
    rw [typesOf, firsts, ih, List.filter_map, List.map_cons]
    rfl

end FieldIndex
end SchemaAssist
