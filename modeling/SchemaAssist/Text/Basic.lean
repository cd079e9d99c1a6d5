/-!
# Text

A text is the list of its characters; lengths and columns count characters unless a function says
otherwise. Characters are Unicode scalar values, so a text with a lone surrogate is outside this
library. This module holds what is asked of any text: leads, tails and first occurrences.
-/

namespace SchemaAssist

abbrev Text := List Char

namespace Text

def after? : Text → Text → Option Text
  | [], text => some text
  | _ :: _, [] => none
  | c :: lead, d :: text => if c = d then after? lead text else none

theorem after?_eq_some_iff {lead text rest : Text} :
    after? lead text = some rest ↔ text = lead ++ rest := by
  induction lead generalizing text with
  | nil => simp [after?]
  | cons c lead ih =>
    cases text with
    | nil => simp [after?]
    | cons d text =>
      by_cases h : c = d
      · subst h; simp [after?, ih]
      · simp [after?, h, Ne.symm h]

theorem isSome_after? {lead text : Text} :
    (after? lead text).isSome = true ↔ lead <+: text := by
  rw [Option.isSome_iff_exists]
  exact exists_congr fun rest => by rw [after?_eq_some_iff, eq_comm]

def indexOf? (needle : Text) : Text → Option Nat
  | [] => if needle.isEmpty then some 0 else none
  | c :: text =>
    if needle.isPrefixOf (c :: text) then some 0 else (indexOf? needle text).map (· + 1)

def mentions (needle text : Text) : Bool := (indexOf? needle text).isSome

/-- `ending` is taken off once, where the text ends in it. -/
def dropEnding (ending text : Text) : Text :=
  match after? ending.reverse text.reverse with
  | some rest => rest.reverse
  | none => text

theorem dropEnding_append (ending text : Text) : dropEnding ending (text ++ ending) = text := by
  have h : after? ending.reverse (text ++ ending).reverse = some text.reverse :=
    after?_eq_some_iff.2 (by simp)
  rw [dropEnding, h]
  exact List.reverse_reverse text

def takeEndWhile (p : Char → Bool) (text : Text) : Text := (text.reverse.takeWhile p).reverse

def dropEndWhile (p : Char → Bool) (text : Text) : Text := (text.reverse.dropWhile p).reverse

theorem dropEndWhile_append_takeEndWhile (p : Char → Bool) (text : Text) :
    dropEndWhile p text ++ takeEndWhile p text = text := by
  rw [dropEndWhile, takeEndWhile, ← List.reverse_append, List.takeWhile_append_dropWhile,
    List.reverse_reverse]

end Text
end SchemaAssist
