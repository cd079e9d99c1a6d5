import SchemaAssist.Cursor.Context
import SchemaAssist.Proofs.Block.Locating

/-!
# The questions before a context is told

Below the header of a block, strings and nested calls are asked about first, then lists, then the
kind of the block. Each lemma goes one question further: the ones before it have been answered with
no.
-/

namespace SchemaAssist

def lineBefore (text : Text) (position : Position) : Text :=
  Text.beforeColumn (Text.lineAt text position.line) position.character

/-- The line is below the header of the block and not below its last line. -/
structure Block.BodyCovers (block : Block) (line : Nat) : Prop where
  below_header : block.range.start.line < line
  le_stop : line ≤ block.range.stop.line

instance (block : Block) (line : Nat) : Decidable (block.BodyCovers line) :=
  decidable_of_iff (block.range.start.line < line ∧ line ≤ block.range.stop.line)
    ⟨fun ⟨h₁, h₂⟩ => ⟨h₁, h₂⟩, fun ⟨h₁, h₂⟩ => ⟨h₁, h₂⟩⟩

/-- Behind that text neither a string is open nor a call inside a call. -/
structure Unnested (before : Text) : Prop where
  quotes_even : before.count '"' % 2 = 0
  calls_closed : before.count '(' < 2 ∨ before.count '(' ≤ before.count ')'

instance (before : Text) : Decidable (Unnested before) :=
  decidable_of_iff
    (before.count '"' % 2 = 0 ∧ (before.count '(' < 2 ∨ before.count '(' ≤ before.count ')'))
    ⟨fun ⟨h₁, h₂⟩ => ⟨h₁, h₂⟩, fun ⟨h₁, h₂⟩ => ⟨h₁, h₂⟩⟩

theorem Unnested.of_not_mem {before : Text} (hquote : '"' ∉ before) (hcall : '(' ∉ before) :
    Unnested before where
  quotes_even := by simp [List.count_eq_zero.2 hquote]
  calls_closed := by simp [List.count_eq_zero.2 hcall]

theorem Block.BodyCovers.at?_eq {lines : List Text} {block : Block} {line : Nat}
    (h : block.BodyCovers line) (hblock : block ∈ Block.scan lines) :
    Block.at? line lines = some block := by
  refine covering?_scan_eq_some_iff.2 ⟨hblock, ?_, ?_⟩
  · exact Int.ofNat_le.2 (Nat.le_of_lt h.below_header)
  · exact Int.ofNat_le.2 h.le_stop

namespace Context

variable {text : Text} {position : Position} {kind : Kind}

theorem detect_eq_inBody {block : Block}
    (hat : Block.at? position.line (Text.trimmedLines text) = some block)
    (hline : position.line ≠ block.range.start.line) :
    detect text position = inBody block.kind text position := by
  simp only [detect, hat]
  exact if_neg hline

theorem detect_of_bodyCovers {block : Block} (hblock : block ∈ Block.scan (Text.trimmedLines text))
    (hcovers : block.BodyCovers position.line) :
    detect text position = inBody block.kind text position :=
  detect_eq_inBody (hcovers.at?_eq hblock) (Nat.ne_of_gt hcovers.below_header)

def ofKind (kind : Kind) (text : Text) (position : Position) : Context :=
  match kind with
  | .datasource | .generator => .blockProperty
  | .enum => .enumValue
  | .model | .type | .view => ofFieldLine text position

theorem inBody_of_unnested (h : Unnested (lineBefore text position)) :
    inBody kind text position =
      (ofList? (Text.lineAt text position.line) position.character).getD
        (ofKind kind text position) := by
  obtain ⟨hquotes, hcalls⟩ := h
  simp only [lineBefore] at hquotes hcalls
  have hstring : insideQuotes (Text.lineAt text position.line) position.character = false := by
    simp [insideQuotes, hquotes]
  have hcall : insideFieldArgument (Text.lineAt text position.line) position.character = false := by
    simp only [insideFieldArgument, decide_eq_false_iff_not]
    omega
  simp only [inBody, hstring, hcall, Bool.false_eq_true, if_false]
  cases ofList? (Text.lineAt text position.line) position.character with
  | some context => rfl
  | none => cases kind <;> rfl

theorem ofList?_of_path {line : Text} {column : Nat}
    (hopen : (Text.beforeColumn line column).count ']' < (Text.beforeColumn line column).count '[')
    (hpath : pathBefore line column ≠ []) : ofList? line column = some .compositePath := by
  have hinside : insidePair line column .square = true := decide_eq_true hopen
  simp [ofList?, hinside, hpath]

theorem ofList?_of_not_mem {line : Text} {column : Nat} (h : '[' ∉ Text.beforeColumn line column) :
    ofList? line column = none := by
  have hinside : insidePair line column .square = false := by
    simp [insidePair, BracketPair.square, List.count_eq_zero.2 h]
  simp [ofList?, hinside]

end Context
end SchemaAssist
