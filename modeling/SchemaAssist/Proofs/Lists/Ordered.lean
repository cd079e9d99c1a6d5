import Mathlib.Data.List.Nodup
import Mathlib.Data.List.Sort

/-!
# Lists in order

What a list in strict order, or one without repetitions, is determined by: an element by its key,
the first element by being the least, and the whole list by its elements. Sorting and the removal of
repetitions lead to such lists.
-/

namespace SchemaAssist

variable {α β : Type}

theorem eq_of_pairwise_ne {key : α → β} {list : List α} (h : list.Pairwise (key · ≠ key ·)) {a b : α}
    (ha : a ∈ list) (hb : b ∈ list) (hkey : key a = key b) : a = b := by
  have hnodup : (list.map key).Nodup := List.pairwise_map.2 h
  exact List.inj_on_of_nodup_map hnodup ha hb hkey

theorem head?_eq_some_of_le {numbers : List Nat} (hsorted : numbers.Pairwise (· < ·)) {least : Nat}
    (hmem : least ∈ numbers) (hle : ∀ number ∈ numbers, least ≤ number) :
    numbers.head? = some least := by
  cases numbers with
  | nil => cases hmem
  | cons first rest =>
    rcases List.mem_cons.1 hmem with rfl | hrest
    · rfl
    · have hlt := (List.pairwise_cons.1 hsorted).1 least hrest
      exact absurd (hle first (List.mem_cons_self ..)) (Nat.not_le_of_lt hlt)

theorem eq_of_mem_iff_of_pairwise {r : α → α → Prop} {list other : List α} (h : list.Pairwise r)
    (h' : other.Pairwise r) (hirrefl : ∀ a, ¬ r a a) (hasymm : ∀ a b, r a b → ¬ r b a)
    (hmem : ∀ a, a ∈ list ↔ a ∈ other) : list = other := by
  have : Std.Irrefl r := ⟨hirrefl⟩
  have : Std.Antisymm r := ⟨fun a b hab hba => absurd hba (hasymm a b hab)⟩
  exact h.eq_of_mem_iff h' hmem

/-- Sorting undoes any reordering of a list whose keys increase. -/
theorem mergeSort_eq_of_perm {α : Type} (key : α → Nat) {list sorted : List α}
    (hperm : list.Perm sorted) (hsorted : sorted.Pairwise (key · < key ·)) :
    (list.mergeSort fun a b => decide (key a ≤ key b)) = sorted := by
  have hresult : (list.mergeSort fun a b => decide (key a ≤ key b)).Pairwise (key · ≤ key ·) := by
    have htrans : ∀ a b c : α, decide (key a ≤ key b) = true → decide (key b ≤ key c) = true →
        decide (key a ≤ key c) = true := by
      simpa using fun a b c => Nat.le_trans (n := key a)
    have htotal : ∀ a b : α, (decide (key a ≤ key b) || decide (key b ≤ key a)) = true := by
      simpa using fun a b => Nat.le_total (key a) (key b)
    exact (List.pairwise_mergeSort htrans htotal list).imp of_decide_eq_true
  have hmerged := (List.mergeSort_perm list fun a b => decide (key a ≤ key b)).trans hperm
  refine List.Perm.eq_of_pairwise ?_ hresult (hsorted.imp Nat.le_of_lt) hmerged
  intro a b ha hb hab hba
  exact eq_of_pairwise_ne (hsorted.imp Nat.ne_of_lt) (hmerged.subset ha) hb
    (Nat.le_antisymm hab hba)

theorem pairwise_eraseDups {α : Type} [DecidableEq α] {r : α → α → Prop} :
    (list : List α) → (list.Pairwise fun a b => a = b ∨ r a b) → list.eraseDups.Pairwise r
  | [], _ => .nil
  | first :: rest, h => by
    obtain ⟨hfirst, hrest⟩ := List.pairwise_cons.1 h
    rw [List.eraseDups_cons]
    refine .cons ?_ (pairwise_eraseDups _ (hrest.sublist List.filter_sublist))
    intro other hother
    obtain ⟨hmem, hne⟩ := List.mem_filter.1 (List.mem_eraseDups.1 hother)
    refine (hfirst other hmem).resolve_left ?_
    rintro rfl
    simp at hne
termination_by list => list.length
decreasing_by exact Nat.lt_succ_of_le (List.length_filter_le _ rest)

end SchemaAssist
