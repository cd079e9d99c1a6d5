import Mathlib.Data.List.Infix
import SchemaAssist.Cursor.Line

/-!
# Nested calls before a cursor

Read from the left, a line opens calls and closes the innermost one. Where no bracket closes a call
that was never opened, the calls still open are the opening brackets less the closing ones
(`openCalls_add_count`). Whether a cursor is inside a nested call is decided by two totals instead,
so one open call counts as nested as soon as any call was closed before the cursor
(`insideFieldArgument_iff_openCalls`).
-/

namespace SchemaAssist

namespace Text

/-- The calls open behind a character: a closing bracket ends the innermost one. -/
def callsBehind (opened : Nat) (c : Char) : Nat :=
  if c = '(' then opened + 1 else if c = ')' then opened - 1 else opened

def openCalls (text : Text) : Nat := text.foldl callsBehind 0

/-- From the start of the text on, no more calls are closed than opened. -/
def ClosesOnlyOpened (text : Text) : Prop :=
  ∀ lead, lead <+: text → lead.count ')' ≤ lead.count '('

instance (text : Text) : Decidable (ClosesOnlyOpened text) :=
  decidable_of_iff (∀ lead ∈ text.inits, lead.count ')' ≤ lead.count '(') <| by
    simp only [List.mem_inits, ClosesOnlyOpened]

theorem callsBehind_add_count {opened : Nat} {c : Char} (h : [c].count ')' ≤ opened + [c].count '(') :
    callsBehind opened c + [c].count ')' = opened + [c].count '(' := by
  by_cases hopening : c = '('
  · subst hopening
    rfl
  · by_cases hclosing : c = ')'
    · subst hclosing
      exact Nat.sub_add_cancel h
    · simp [callsBehind, hopening, hclosing]

theorem foldl_callsBehind_add_count (opened : Nat) {text : Text}
    (h : ∀ lead, lead <+: text → lead.count ')' ≤ opened + lead.count '(') :
    text.foldl callsBehind opened + text.count ')' = opened + text.count '(' := by
  induction text generalizing opened with
  | nil => rfl
  | cons c text ih =>
    have hfirst := callsBehind_add_count (h [c] (List.prefix_append [c] text))
    have hrest : ∀ lead, lead <+: text →
        lead.count ')' ≤ callsBehind opened c + lead.count '(' := by
      intro lead hlead
      have hlonger := h (c :: lead) ((List.prefix_cons_inj c).2 hlead)
      rw [← List.singleton_append, List.count_append, List.count_append] at hlonger
      omega
    have hall := ih (callsBehind opened c) hrest
    rw [List.foldl_cons, ← List.singleton_append, List.count_append, List.count_append]
    omega

theorem openCalls_add_count {text : Text} (h : ClosesOnlyOpened text) :
    openCalls text + text.count ')' = text.count '(' := by
  have hall := foldl_callsBehind_add_count 0 fun lead hlead => by
    rw [Nat.zero_add]
    exact h lead hlead
  rwa [Nat.zero_add] at hall

end Text

/-- Where only opened calls are closed before the cursor, the calls open there are the brackets
opened less those closed. The cursor counts as inside a nested call if two calls are open, and also
if one is open and another was closed before. That is wrong of the latter only: the depth decides
exactly at the other cursors. -/
theorem insideFieldArgument_iff_openCalls (line : Text) (column : Nat)
    (hcloses : Text.ClosesOnlyOpened (Text.beforeColumn line column)) :
    let before := Text.beforeColumn line column
    let depth : Int := before.count '(' - before.count ')'
    depth = Text.openCalls before ∧
    (insideFieldArgument line column = true ↔ 2 ≤ depth ∨ depth = 1 ∧ ')' ∈ before) ∧
    ((insideFieldArgument line column = true ↔ 2 ≤ depth) ↔ ¬ (depth = 1 ∧ ')' ∈ before)) := by
  intro before depth
  have hopen : Text.openCalls before + before.count ')' = before.count '(' :=
    Text.openCalls_add_count hcloses
  have hdepth : depth = Text.openCalls before := by omega
  have htotals : insideFieldArgument line column = true ↔
      2 ≤ before.count '(' ∧ before.count ')' < before.count '(' := decide_eq_true_iff
  have hinside : insideFieldArgument line column = true ↔ 2 ≤ depth ∨ depth = 1 ∧ ')' ∈ before := by
    rw [htotals, ← List.count_pos_iff]
    omega
  refine ⟨hdepth, hinside, ?_⟩
  rw [hinside]
  constructor
  · rintro hiff ⟨hone, hmem⟩
    have htwo := hiff.1 (.inr ⟨hone, hmem⟩)
    omega
  · intro hnot
    exact or_iff_left hnot

/-- A call nested in the second attribute of a line. -/
theorem nested_behind_closed_attribute :
    let line := "id Int @map(\"k\") @default(now(".toList
    Text.ClosesOnlyOpened (Text.beforeColumn line 30) ∧ insideFieldArgument line 30 = true := by
  intro line
  have hcloses : Text.ClosesOnlyOpened (Text.beforeColumn line 30) := by decide +kernel
  obtain ⟨-, hinside, -⟩ := insideFieldArgument_iff_openCalls line 30 hcloses
  exact ⟨hcloses, hinside.2 (.inl (by decide +kernel))⟩

/-- The arguments of the second attribute of a line count as nested, because the first is closed. -/
theorem closed_attribute_counts_as_nested :
    let line := "id Int @id(map: \"pk\") @default(".toList
    let before := Text.beforeColumn line 31
    Text.ClosesOnlyOpened before ∧
      ¬ (insideFieldArgument line 31 = true ↔
        (2 : Int) ≤ (before.count '(' : Int) - before.count ')') := by decide +kernel

end SchemaAssist
