import SchemaAssist.Text.Basic

/-!
# Arrays of JSON strings

Reads a JSON array all of whose elements are strings; any other text, malformed or not, is refused.
A string is first read as units, raw characters and escaped 16-bit codes, and adjacent surrogate
codes are then joined. A code without its partner stands for no character and is refused.
-/

namespace SchemaAssist.Text.JsonStrings

inductive StringUnit where
  | raw (c : Char)
  | code (value : Nat)
deriving DecidableEq

def hexDigit? (c : Char) : Option Nat :=
  if '0' ≤ c ∧ c ≤ '9' then some (c.toNat - 48)
  else if 'a' ≤ c ∧ c ≤ 'f' then some (c.toNat - 87)
  else if 'A' ≤ c ∧ c ≤ 'F' then some (c.toNat - 55)
  else none

def hexCode? (a b c d : Char) : Option Nat := do
  let a ← hexDigit? a
  let b ← hexDigit? b
  let c ← hexDigit? c
  let d ← hexDigit? d
  return ((a * 16 + b) * 16 + c) * 16 + d

def escape? : Char → Option Char
  | '"' => some '"'
  | '\\' => some '\\'
  | '/' => some '/'
  | 'b' => some '\x08'
  | 'f' => some '\x0c'
  | 'n' => some '\n'
  | 'r' => some '\r'
  | 't' => some '\t'
  | _ => none

def units? : Text → Option (List StringUnit × Text)
  | [] => none
  | '"' :: text => some ([], text)
  | '\\' :: 'u' :: a :: b :: c :: d :: text =>
    (hexCode? a b c d).bind fun value =>
      (units? text).map fun (units, rest) => (.code value :: units, rest)
  | '\\' :: c :: text =>
    (escape? c).bind fun value =>
      (units? text).map fun (units, rest) => (.raw value :: units, rest)
  | c :: text =>
    if c.toNat < 0x20 then none
    else (units? text).map fun (units, rest) => (.raw c :: units, rest)

theorem length_lt_of_units? {text rest : Text} {units : List StringUnit}
    (h : units? text = some (units, rest)) : rest.length < text.length := by
  fun_induction units? text generalizing units rest with
  | case1 => simp at h
  | case2 => simp_all
  | case3 a b c d text ih =>
    simp only [Option.bind_eq_some_iff, Option.map_eq_some_iff, Prod.exists] at h
    obtain ⟨_, _, units', rest', hr, he⟩ := h
    have := ih hr
    simp only [Prod.mk.injEq] at he
    simp only [List.length_cons, ← he.2]
    omega
  | case4 c text _ ih =>
    simp only [Option.bind_eq_some_iff, Option.map_eq_some_iff, Prod.exists] at h
    obtain ⟨_, _, units', rest', hr, he⟩ := h
    have := ih hr
    simp only [Prod.mk.injEq] at he
    simp only [List.length_cons, ← he.2]
    omega
  | case5 => simp at h
  | case6 c text _ _ _ _ ih =>
    simp only [Option.map_eq_some_iff, Prod.exists] at h
    obtain ⟨units', rest', hr, he⟩ := h
    have := ih hr
    simp only [Prod.mk.injEq] at he
    simp only [List.length_cons, ← he.2]
    omega

def isHighSurrogate (value : Nat) : Bool := decide (0xD800 ≤ value ∧ value < 0xDC00)

def isLowSurrogate (value : Nat) : Bool := decide (0xDC00 ≤ value ∧ value < 0xE000)

def characters? : List StringUnit → Option Text
  | [] => some []
  | .raw c :: units => (characters? units).map (c :: ·)
  | .code high :: .code low :: units =>
    if isHighSurrogate high && isLowSurrogate low then
      (characters? units).map
        (Char.ofNat (0x10000 + (high - 0xD800) * 0x400 + (low - 0xDC00)) :: ·)
    else if isHighSurrogate high || isLowSurrogate high then none
    else (characters? (.code low :: units)).map (Char.ofNat high :: ·)
  | .code value :: units =>
    if isHighSurrogate value || isLowSurrogate value then none
    else (characters? units).map (Char.ofNat value :: ·)

def isJsonSpace (c : Char) : Bool := c == ' ' || c == '\t' || c == '\n' || c == '\r'

def skipSpace (text : Text) : Text := text.dropWhile isJsonSpace

theorem length_skipSpace_le (text : Text) : (skipSpace text).length ≤ text.length :=
  (List.dropWhile_sublist _).length_le

def elements? (text : Text) : Option (List Text) :=
  match opened : skipSpace text with
  | '"' :: body =>
    match read : units? body with
    | none => none
    | some (units, rest) =>
      (characters? units).bind fun value =>
        match next : skipSpace rest with
        | [']'] => some [value]
        | ',' :: more =>
          have : more.length < text.length := by
            have h₁ := opened ▸ length_skipSpace_le text
            have h₂ := length_lt_of_units? read
            have h₃ := next ▸ length_skipSpace_le rest
            simp only [List.length_cons] at h₁ h₃
            omega
          (elements? more).map (value :: ·)
        | _ => none
  | _ => none
termination_by text.length

/-- The strings of an array that starts and ends with the text. -/
def decode? : Text → Option (List Text)
  | '[' :: text => if skipSpace text = [']'] then some [] else elements? text
  | _ => none

end SchemaAssist.Text.JsonStrings
