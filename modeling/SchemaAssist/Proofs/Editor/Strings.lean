import SchemaAssist.Editor.Completion
import SchemaAssist.Proofs.Cursor.Context

/-!
# Completion inside strings

Below the header of a block a cursor inside a string is offered nothing. Whether there is such a
block is asked first: on a header line, between blocks and in a block that no line closes yet, the
keywords of blocks are offered inside a string as anywhere else (`items_inside_string`).
-/

namespace SchemaAssist

/-- An odd number of double quotes stands before the cursor. -/
def InsideString (text : Text) (position : Position) : Prop :=
  (Text.beforeColumn (Text.lineAt text position.line) position.character).count '"' % 2 = 1

instance (text : Text) (position : Position) : Decidable (InsideString text position) :=
  inferInstanceAs (Decidable (_ = _))

/-- The line is below the header of a block and not below its last line. -/
def InBody (lines : List Text) (line : Nat) : Prop :=
  ∃ block ∈ Block.scan lines, block.range.start.line < line ∧ line ≤ block.range.stop.line

instance (lines : List Text) (line : Nat) : Decidable (InBody lines line) :=
  List.decidableBEx
    (fun block : Block => block.range.start.line < line ∧ line ≤ block.range.stop.line)
    (Block.scan lines)

namespace Completion

def keywordItems : List Item := offer .keyword "Block".toList (Kind.all.map Kind.keyword)

variable {text : Text} {position : Position}

theorem detect_of_inBody (hbody : InBody (Text.trimmedLines text) position.line)
    (hstring : InsideString text position) : Context.detect text position = .string := by
  obtain ⟨block, hblock, hstart, hstop⟩ := hbody
  have hquotes : insideQuotes (Text.lineAt text position.line) position.character = true :=
    beq_iff_eq.2 hstring
  rw [Context.detect_of_bodyCovers hblock ⟨hstart, hstop⟩]
  exact if_pos hquotes

theorem detect_of_not_inBody (hbody : ¬ InBody (Text.trimmedLines text) position.line) :
    Context.detect text position = .topLevel := by
  rw [Context.detect]
  split
  · rfl
  · next block hat =>
    obtain ⟨hblock, hlow, hhigh⟩ := covering?_scan_eq_some_iff.1 hat
    have hheader : position.line = block.range.start.line := by
      refine Nat.le_antisymm (Nat.le_of_not_lt fun hlt => hbody ?_) (Int.ofNat_le.1 hlow)
      exact ⟨block, hblock, hlt, Int.ofNat_le.1 hhigh⟩
    exact if_pos hheader

theorem items_of_not_inBody (hbody : ¬ InBody (Text.trimmedLines text) position.line) :
    items text position = keywordItems := by
  simp only [items, detect_of_not_inBody hbody]
  rfl

theorem items_of_inBody (hbody : InBody (Text.trimmedLines text) position.line)
    (hstring : InsideString text position) : items text position = [] := by
  simp only [items, detect_of_inBody hbody hstring]

/-- Inside a string nothing is offered exactly if the cursor is below the header of a block that
ends on its line or below it; anywhere else the keywords of blocks are. -/
theorem items_inside_string (hstring : InsideString text position) :
    (items text position = [] ↔ InBody (Text.trimmedLines text) position.line) ∧
    (¬ InBody (Text.trimmedLines text) position.line → items text position = keywordItems) := by
  refine ⟨⟨fun hnone => ?_, fun hbody => items_of_inBody hbody hstring⟩, items_of_not_inBody⟩
  by_contra hbody
  rw [items_of_not_inBody hbody] at hnone
  contradiction

/-- In a block that the next header cuts off, nothing is offered inside a string. -/
theorem nothing_inside_string_of_cut_off_block :
    let text := "model A \x7b\n  @@map(\"us\nmodel B \x7b".toList
    InsideString text ⟨1, 11⟩ ∧ items text ⟨1, 11⟩ = [] := by
  intro text
  have hstring : InsideString text ⟨1, 11⟩ := by decide
  exact ⟨hstring, (items_inside_string hstring).1.2 (by decide)⟩

/-- In a block that nothing ends, the keywords are offered inside a string. -/
theorem keywords_inside_string_of_unclosed_block :
    let text := "model A \x7b\n  @@map(\"us".toList
    InsideString text ⟨1, 11⟩ ∧ items text ⟨1, 11⟩ ≠ [] := by decide

end Completion
end SchemaAssist
