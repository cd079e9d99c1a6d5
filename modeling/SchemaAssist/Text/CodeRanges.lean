/-!
# Sets of code points

A set is written as its inclusive ranges in increasing order. `has` stops at the first range that
starts beyond the code point; on increasing ranges that is membership in one of them (`has_iff`).
-/

namespace SchemaAssist.Text

abbrev CodeRanges := List (Nat × Nat)

namespace CodeRanges

def Increasing : CodeRanges → Prop
  | [] => True
  | [range] => range.1 ≤ range.2
  | range :: next :: rest => range.1 ≤ range.2 ∧ range.2 < next.1 ∧ Increasing (next :: rest)

instance decidableIncreasing : (ranges : CodeRanges) → Decidable ranges.Increasing
  | [] => .isTrue trivial
  | [range] => inferInstanceAs (Decidable (range.1 ≤ range.2))
  | range :: next :: rest =>
    have := decidableIncreasing (next :: rest)
    inferInstanceAs (Decidable (range.1 ≤ range.2 ∧ range.2 < next.1 ∧ Increasing (next :: rest)))

def has : CodeRanges → Nat → Bool
  | [], _ => false
  | (first, last) :: rest, code =>
    if code < first then false else decide (code ≤ last) || has rest code

theorem Increasing.tail {range : Nat × Nat} {rest : CodeRanges} (h : Increasing (range :: rest)) :
    Increasing rest := by
  cases rest with
  | nil => trivial
  | cons next rest => exact h.2.2

theorem Increasing.lt {range later : Nat × Nat} {rest : CodeRanges}
    (h : Increasing (range :: rest)) (hm : later ∈ rest) : range.1 < later.1 := by
  induction rest generalizing range with
  | nil => cases hm
  | cons next rest ih =>
    obtain ⟨h₁, h₂, h₃⟩ := h
    rcases List.mem_cons.1 hm with rfl | hm
    · omega
    · have := ih h₃ hm
      omega

theorem has_iff {ranges : CodeRanges} (h : ranges.Increasing) {code : Nat} :
    ranges.has code = true ↔ ∃ range ∈ ranges, range.1 ≤ code ∧ code ≤ range.2 := by
  induction ranges with
  | nil => simp [has]
  | cons range rest ih =>
    obtain ⟨first, last⟩ := range
    rw [has]
    split
    · next hlt =>
      refine ⟨(nomatch ·), ?_⟩
      rintro ⟨other, hm, hle⟩
      rcases List.mem_cons.1 hm with rfl | hm
      · simp only at hle; omega
      · have := h.lt hm
        simp only at this; omega
    · next hge =>
      simp only [Bool.or_eq_true, decide_eq_true_eq, ih h.tail, List.mem_cons, or_and_right,
        exists_or, exists_eq_left]
      exact or_congr ⟨fun hl => ⟨by omega, hl⟩, fun hl => hl.2⟩ Iff.rfl

end CodeRanges
end SchemaAssist.Text
