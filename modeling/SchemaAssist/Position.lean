/-!
# Positions and ranges

Lines and columns count from zero. Positions are ordered by line and then by column. A range is
plain data here; `Ordered` says that its start does not come after its end.
-/

namespace SchemaAssist

structure Position where
  line : Nat
  character : Nat
deriving DecidableEq

namespace Position

def le (p q : Position) : Prop := p.line < q.line ∨ p.line = q.line ∧ p.character ≤ q.character

instance : LE Position := ⟨le⟩

instance (p q : Position) : Decidable (p ≤ q) :=
  inferInstanceAs (Decidable (p.line < q.line ∨ p.line = q.line ∧ p.character ≤ q.character))

theorem le_def {p q : Position} :
    p ≤ q ↔ p.line < q.line ∨ p.line = q.line ∧ p.character ≤ q.character := Iff.rfl

theorem le_trans {p q r : Position} (h₁ : p ≤ q) (h₂ : q ≤ r) : p ≤ r := by
  rw [le_def] at *; omega

end Position

structure Range where
  start : Position
  stop : Position
deriving DecidableEq

namespace Range

def Ordered (range : Range) : Prop := range.start ≤ range.stop

instance (range : Range) : Decidable range.Ordered :=
  inferInstanceAs (Decidable (range.start ≤ range.stop))

def Contains (outer inner : Range) : Prop := outer.start ≤ inner.start ∧ inner.stop ≤ outer.stop

instance (outer inner : Range) : Decidable (outer.Contains inner) :=
  inferInstanceAs (Decidable (outer.start ≤ inner.start ∧ inner.stop ≤ outer.stop))

/-- The lines from the start's to the end's, both included. -/
def CoversLine (range : Range) (line : Int) : Prop :=
  (range.start.line : Int) ≤ line ∧ line ≤ (range.stop.line : Int)

instance (range : Range) (line : Int) : Decidable (range.CoversLine line) :=
  inferInstanceAs (Decidable ((range.start.line : Int) ≤ line ∧ line ≤ (range.stop.line : Int)))

def onLine (line first last : Nat) : Range := ⟨⟨line, first⟩, ⟨line, last⟩⟩

theorem ordered_onLine {line first last : Nat} (h : first ≤ last) :
    (onLine line first last).Ordered := Position.le_def.2 (.inr ⟨rfl, h⟩)

end Range
end SchemaAssist
