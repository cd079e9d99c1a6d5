import SchemaAssist.Position
import SchemaAssist.Proofs.Text.Trimming
import SchemaAssist.Text.Lines

/-!
# What a range selects

A range on one line selects the characters between its two columns. A column either counts the
characters before it or, as editors have it, their code units; `decoded` turns the second into the
first. The two come to the same behind characters of one unit each (`indexOfColumn_append`), so a
range around a word selects it in both only if no character but the last of the word takes two
(`decoded_selects_iff`).
-/

namespace SchemaAssist

namespace Text

def slice (line : Text) (first last : Nat) : Text := (line.take last).drop first

/-- Every character takes one code unit. -/
def Narrow (text : Text) : Prop := ∀ c ∈ text, units c = 1

instance (text : Text) : Decidable text.Narrow := List.decidableBAll (units · = 1) text

theorem slice_append (before text : Text) (count : Nat) :
    slice (before ++ text) before.length (before.length + count) = text.take count := by
  rw [slice, List.take_length_add_append, List.drop_left]

theorem units_eq_one {c : Char} (h : c.toNat ≤ 0xFFFF) : units c = 1 :=
  if_neg (Nat.not_lt_of_le h)

theorem Blank.narrow {text : Text} (h : Blank text) : Narrow text := by
  intro c hc
  have hbasic : ∀ range ∈ spaceRanges, range.2 ≤ 0xFFFF := by decide
  obtain ⟨range, hrange, -, hlast⟩ := (CodeRanges.has_iff spaceRanges_increasing).1 (h c hc)
  exact units_eq_one (Nat.le_trans hlast (hbasic range hrange))

theorem Narrow.append {text other : Text} (h : Narrow text) (h' : Narrow other) :
    Narrow (text ++ other) := by
  intro c hc
  exact (List.mem_append.1 hc).elim (h c) (h' c)

theorem indexOfColumn_cons {c : Char} {line : Text} {column : Int} (h : 0 < column) :
    indexOfColumn (c :: line) column = indexOfColumn line (column - units c) + 1 :=
  if_neg (Int.not_le_of_gt h)

theorem indexOfColumn_le_toNat (line : Text) (column : Int) :
    indexOfColumn line column ≤ column.toNat := by
  induction line generalizing column with
  | nil => exact Nat.zero_le _
  | cons c line ih =>
    by_cases hcolumn : 0 < column
    · have hrest := ih (column - units c)
      have hunits := units_pos c
      rw [indexOfColumn_cons hcolumn]
      omega
    · rw [indexOfColumn_of_nonpos (Int.not_lt.1 hcolumn)]
      exact Nat.zero_le _

theorem indexOfColumn_append {before : Text} (h : Narrow before) (text : Text) (column : Nat) :
    indexOfColumn (before ++ text) (before.length + column : Nat) =
      before.length + indexOfColumn text column := by
  induction before with
  | nil => simp
  | cons c before ih =>
    have hunits : units c = 1 := h c (List.mem_cons_self ..)
    have hpos : (0 : Int) < ((c :: before).length + column : Nat) := by
      rw [List.length_cons]
      omega
    have hback : (((c :: before).length + column : Nat) : Int) - units c =
        (before.length + column : Nat) := by
      rw [hunits, List.length_cons]
      omega
    rw [List.cons_append, indexOfColumn_cons hpos, hback,
      ih fun d hd => h d (List.mem_cons_of_mem c hd), List.length_cons]
    omega

theorem indexOfColumn_length_iff (text rest : Text) :
    indexOfColumn (text ++ rest) text.length = text.length ↔ Narrow text.dropLast := by
  induction text with
  | nil => simp [indexOfColumn_of_nonpos, Narrow]
  | cons c text ih =>
    have hpos : (0 : Int) < (c :: text).length := by
      rw [List.length_cons]
      omega
    rw [List.cons_append, indexOfColumn_cons hpos, List.length_cons]
    cases text with
    | nil =>
      have hunits := units_pos c
      rw [indexOfColumn_of_nonpos (by simp only [List.length_nil]; omega)]
      simp [Narrow]
    | cons d text =>
      have hsplit : Narrow (c :: d :: text).dropLast ↔
          units c = 1 ∧ Narrow (d :: text).dropLast := List.forall_mem_cons
      rw [hsplit, ← ih]
      by_cases hunits : units c = 1
      · have hback : (((d :: text).length + 1 : Nat) : Int) - units c = (d :: text).length := by
          rw [hunits]
          omega
        rw [hback]
        simp [hunits]
      · -- The column falls short by the second unit of the first character.
        have hunits' := units_pos c
        have hshort := indexOfColumn_le_toNat (d :: text ++ rest)
          (((d :: text).length + 1 : Nat) - units c)
        rw [List.length_cons] at hshort ⊢
        constructor
        · intro hindex
          omega
        · exact fun hboth => absurd hboth.1 hunits

end Text

def Position.decoded (raw : List Text) (position : Position) : Position :=
  ⟨position.line, Text.indexOfColumn (Text.lineOf raw position.line) position.character⟩

def Range.decoded (raw : List Text) (range : Range) : Range :=
  ⟨range.start.decoded raw, range.stop.decoded raw⟩

/-- A range on one line, within it, with that text between its columns. Columns count characters. -/
structure Range.Selects (raw : List Text) (range : Range) (text : Text) : Prop where
  one_line : range.stop.line = range.start.line
  within : range.stop.character ≤ (Text.lineOf raw range.start.line).length
  slice_eq : Text.slice (Text.lineOf raw range.start.line) range.start.character
    range.stop.character = text

instance (raw : List Text) (range : Range) (text : Text) : Decidable (range.Selects raw text) :=
  decidable_of_iff (range.stop.line = range.start.line ∧
      range.stop.character ≤ (Text.lineOf raw range.start.line).length ∧
      Text.slice (Text.lineOf raw range.start.line) range.start.character
        range.stop.character = text)
    ⟨fun ⟨h₁, h₂, h₃⟩ => ⟨h₁, h₂, h₃⟩, fun ⟨h₁, h₂, h₃⟩ => ⟨h₁, h₂, h₃⟩⟩

section
variable {raw : List Text} {number : Nat} {before word after : Text}

theorem Range.selects_onLine (h : Text.lineOf raw number = before ++ word ++ after) :
    (onLine number before.length (before.length + word.length)).Selects raw word where
  one_line := rfl
  within := by
    simp only [onLine]
    rw [h, List.length_append, List.length_append]
    exact Nat.le_add_right _ _
  slice_eq := by
    simp only [onLine]
    rw [h, List.append_assoc, Text.slice_append, List.take_left]

theorem Range.decoded_onLine (h : Text.lineOf raw number = before ++ word ++ after)
    (hbefore : Text.Narrow before) :
    (onLine number before.length (before.length + word.length)).decoded raw =
      onLine number before.length
        (before.length + Text.indexOfColumn (word ++ after) word.length) := by
  have hstart : Text.indexOfColumn (before ++ (word ++ after)) before.length = before.length := by
    simpa [Text.indexOfColumn_of_nonpos] using Text.indexOfColumn_append hbefore (word ++ after) 0
  have hstop := Text.indexOfColumn_append hbefore (word ++ after) word.length
  simp only [Range.decoded, Position.decoded, onLine]
  rw [h, List.append_assoc, hstart, hstop]

/-- Behind characters of one unit, a range around a word still selects it with its columns taken for
code units if no character of the word but the last takes two. -/
theorem Range.decoded_selects_iff (h : Text.lineOf raw number = before ++ word ++ after)
    (hbefore : Text.Narrow before) :
    ((onLine number before.length (before.length + word.length)).decoded raw).Selects raw word ↔
      Text.Narrow word.dropLast := by
  rw [Range.decoded_onLine h hbefore, ← Text.indexOfColumn_length_iff word after]
  have hle : Text.indexOfColumn (word ++ after) word.length ≤ word.length :=
    Text.indexOfColumn_le_toNat _ _
  constructor
  · intro hselects
    have hslice := hselects.slice_eq
    simp only [onLine] at hslice
    rw [h, List.append_assoc, Text.slice_append, List.take_append_of_le_length hle] at hslice
    have hlength := congrArg List.length hslice
    rwa [List.length_take, Nat.min_eq_left hle] at hlength
  · intro hindex
    rw [hindex]
    exact Range.selects_onLine h

end
end SchemaAssist
