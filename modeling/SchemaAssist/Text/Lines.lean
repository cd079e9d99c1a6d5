import SchemaAssist.Text.Basic
import SchemaAssist.Text.Words

/-!
# Lines

A line ends at a carriage return with a line feed, at either of them alone, or with the text. A
break at the end of the text opens an empty last line, so there is always at least one.

Editors count the columns of a line in UTF-16 code units: a character beyond the basic plane takes
two. A column is decoded to the first character boundary at or after it, and clamps to the length of
the line.

The values of a line are those of its first nonempty `[…]`. A value loses the whitespace around it,
its first two quotes, and the one dot that a half-typed path ends in, in this order.
-/

namespace SchemaAssist.Text

def lines : Text → List Text
  | [] => [[]]
  | '\r' :: '\n' :: text => [] :: lines text
  | c :: text =>
    if c = '\r' ∨ c = '\n' then [] :: lines text
    else
      match lines text with
      | [] => [[c]]
      | line :: rest => (c :: line) :: rest

def trimmedLines (text : Text) : List Text := (lines text).map trim

/-- The line of that number; empty where there is none. -/
def lineOf (lines : List Text) (number : Nat) : Text := lines[number]?.getD []

def lineAt (text : Text) (number : Nat) : Text := lineOf (lines text) number

def lineAtInt (text : Text) : Int → Text
  | .ofNat number => lineAt text number
  | .negSucc _ => []

def unifyBreaks : Text → Text
  | [] => []
  | '\r' :: '\n' :: text => '\n' :: unifyBreaks text
  | c :: text => (if c = '\r' then '\n' else c) :: unifyBreaks text

def joinLines (lines : List Text) : Text := List.intercalate ['\n'] lines

theorem lines_ne_nil (text : Text) : lines text ≠ [] := by
  fun_cases lines text <;> simp_all

theorem lines_cons_of_not_break {d : Char} (hd : ¬ (d = '\r' ∨ d = '\n')) {text line : Text}
    {rest : List Text} (h : lines text = line :: rest) : lines (d :: text) = (d :: line) :: rest := by
  rw [lines.eq_3 _ _ (by simp [not_or.1 hd]), if_neg hd, h]

theorem lines_cons_of_break {d : Char} (hd : d = '\r' ∨ d = '\n') {text : Text}
    (h : d = '\r' → text.head? ≠ some '\n') : lines (d :: text) = [] :: lines text := by
  rw [lines.eq_3 _ _ fun rest hr htext => h hr (by rw [htext]; rfl), if_pos hd]

theorem getElem?_eq_some_lineOf {lines : List Text} {number : Nat} (h : number < lines.length) :
    lines[number]? = some (lineOf lines number) := by
  rw [lineOf, List.getElem?_eq_getElem h]
  rfl

theorem drop_eq_lineOf_cons {lines : List Text} {number : Nat} (h : number < lines.length) :
    lines.drop number = lineOf lines number :: lines.drop (number + 1) := by
  rw [lineOf, List.getElem?_eq_getElem h]
  exact List.drop_eq_getElem_cons h

theorem lineOf_eq_nil {lines : List Text} {number : Nat} (h : lines.length ≤ number) :
    lineOf lines number = [] := by
  rw [lineOf, List.getElem?_eq_none h]
  rfl

theorem lines_unifyBreaks (text : Text) : lines (unifyBreaks text) = lines text := by
  fun_induction unifyBreaks text with
  | case1 => rfl
  | case2 text ih => simp [lines, ih]
  | case3 c text hc ih =>
    by_cases hr : c = '\r'
    · subst hr
      rw [if_pos rfl, lines.eq_3 _ _ (by simp), lines.eq_3 _ _ (by simpa using hc), ih]
      simp
    · rw [if_neg hr, lines.eq_3 _ _ (by simp [hr]), lines.eq_3 _ _ (by simp [hr]), ih]

def units (c : Char) : Nat := if 0xFFFF < c.toNat then 2 else 1

def width : Text → Nat
  | [] => 0
  | c :: text => units c + width text

/-- The index of the character boundary that a column stands for. -/
def indexOfColumn : Text → Int → Nat
  | [], _ => 0
  | c :: line, column => if column ≤ 0 then 0 else indexOfColumn line (column - units c) + 1

def beforeColumn (line : Text) (column : Int) : Text := line.take (indexOfColumn line column)

theorem units_pos (c : Char) : 0 < units c := by
  unfold units
  split <;> decide

theorem indexOfColumn_of_nonpos {line : Text} {column : Int} (h : column ≤ 0) :
    indexOfColumn line column = 0 := by
  cases line with
  | nil => rfl
  | cons c line => simp [indexOfColumn, h]

theorem indexOfColumn_le (line : Text) (column : Int) :
    indexOfColumn line column ≤ line.length := by
  induction line generalizing column with
  | nil => simp [indexOfColumn]
  | cons c line ih =>
    simp only [indexOfColumn]
    split
    · exact Nat.zero_le _
    · simpa using ih _

/-- The inside of the first bracket pair that holds anything. -/
def bracketed? : Text → Option Text
  | [] => none
  | c :: text =>
    let inside := text.takeWhile (· != ']')
    if c = '[' ∧ inside ≠ [] ∧ text.dropWhile (· != ']') ≠ [] then some inside
    else bracketed? text

def dropQuotes : Nat → Text → Text
  | 0, text => text
  | _ + 1, [] => []
  | count + 1, c :: text =>
    if c = '"' then dropQuotes count text else c :: dropQuotes (count + 1) text

def listValue (item : Text) : Text := dropEnding ['.'] (dropQuotes 2 (trim item))

def listValues (line : Text) : List Text :=
  match bracketed? line with
  | none => []
  | some inside => (inside.splitOn ',').map listValue

end SchemaAssist.Text
