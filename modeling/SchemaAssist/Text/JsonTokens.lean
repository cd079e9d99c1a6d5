import SchemaAssist.Text.JsonStrings

/-!
# JSON tokens

The tokens of a JSON text, up to the first place where none can be read. Of an integer its number of
digits is kept; the values of other tokens are not.
-/

namespace SchemaAssist.Text.JsonTokens

inductive Container where
  | array
  | object
deriving DecidableEq

/-- A scalar is a literal, or a number with a fraction or an exponent. -/
inductive Token where
  | opening (container : Container)
  | closing (container : Container)
  | comma
  | colon
  | string
  | integer (digits : Nat)
  | scalar
deriving DecidableEq

def literals : List Text :=
  ["null".toList, "true".toList, "false".toList, "NaN".toList, "Infinity".toList,
    "-Infinity".toList]

def literal? (text : Text) : Option Text := literals.findSome? (after? · text)

def afterMinus : Text → Text
  | '-' :: text => text
  | text => text

/-- The number of digits of an integer and the text after them; a leading zero stands alone. -/
def integer? : Text → Option (Nat × Text)
  | [] => none
  | c :: text =>
    if c = '0' then some (1, text)
    else if c.isDigit then
      some ((text.takeWhile Char.isDigit).length + 1, text.dropWhile Char.isDigit)
    else none

def afterDigits? : Text → Option Text
  | [] => none
  | c :: text => if c.isDigit then some (text.dropWhile Char.isDigit) else none

def afterFraction? : Text → Option Text
  | '.' :: text => afterDigits? text
  | _ => none

def afterSign : Text → Text
  | c :: text => if c = '+' ∨ c = '-' then text else c :: text
  | [] => []

def afterExponent? : Text → Option Text
  | c :: text => if c = 'e' ∨ c = 'E' then afterDigits? (afterSign text) else none
  | [] => none

/-- A number; the text after it may still begin with a mark that no digit follows. -/
def number? (text : Text) : Option (Token × Text) :=
  (integer? (afterMinus text)).map fun (digits, rest) =>
    match afterFraction? rest with
    | some after => (.scalar, (afterExponent? after).getD after)
    | none =>
      match afterExponent? rest with
      | some after => (.scalar, after)
      | none => (.integer digits, rest)

def token? : Text → Option (Token × Text)
  | [] => none
  | '[' :: text => some (.opening .array, text)
  | ']' :: text => some (.closing .array, text)
  | '\x7b' :: text => some (.opening .object, text)
  | '\x7d' :: text => some (.closing .object, text)
  | ',' :: text => some (.comma, text)
  | ':' :: text => some (.colon, text)
  | '"' :: text => (JsonStrings.units? text).map fun (_, rest) => (.string, rest)
  | text =>
    match literal? text with
    | some rest => some (.scalar, rest)
    | none => number? text

theorem length_lt_of_literal? {text rest : Text} (h : literal? text = some rest) :
    rest.length < text.length := by
  obtain ⟨word, hw, ha⟩ := List.exists_of_findSome?_eq_some h
  have hl : 0 < word.length := by
    simp only [literals, List.mem_cons, List.not_mem_nil, or_false] at hw
    rcases hw with rfl | rfl | rfl | rfl | rfl | rfl <;> decide
  rw [after?_eq_some_iff.1 ha, List.length_append]
  omega

theorem length_afterMinus_le (text : Text) : (afterMinus text).length ≤ text.length := by
  fun_cases afterMinus text <;> simp

theorem length_dropWhile_le (p : Char → Bool) (text : Text) :
    (text.dropWhile p).length ≤ text.length := (List.dropWhile_sublist p).length_le

theorem length_lt_of_integer? {text rest : Text} {digits : Nat}
    (h : integer? text = some (digits, rest)) : rest.length < text.length := by
  fun_cases integer? text with
  | case1 => simp [integer?] at h
  | case2 text =>
    simp only [integer?, if_pos, Option.some.injEq, Prod.mk.injEq] at h
    simp [← h.2]
  | case3 c text hc hd =>
    have := length_dropWhile_le Char.isDigit text
    simp only [integer?, if_neg hc, if_pos hd, Option.some.injEq, Prod.mk.injEq] at h
    rw [← h.2, List.length_cons]
    omega
  | case4 c text hc hd => simp [integer?, hc, hd] at h

theorem length_lt_of_afterDigits? {text rest : Text} (h : afterDigits? text = some rest) :
    rest.length < text.length := by
  fun_cases afterDigits? text with
  | case1 => simp [afterDigits?] at h
  | case2 c text hd =>
    have := length_dropWhile_le Char.isDigit text
    simp only [afterDigits?, if_pos hd, Option.some.injEq] at h
    rw [← h, List.length_cons]
    omega
  | case3 c text hd => simp [afterDigits?, hd] at h

theorem length_lt_of_afterFraction? {text rest : Text} (h : afterFraction? text = some rest) :
    rest.length < text.length := by
  fun_cases afterFraction? text with
  | case1 text => exact Nat.lt_succ_of_lt (length_lt_of_afterDigits? h)
  | case2 => simp_all [afterFraction?]

theorem length_afterSign_le (text : Text) : (afterSign text).length ≤ text.length := by
  fun_cases afterSign text <;> simp

theorem length_lt_of_afterExponent? {text rest : Text} (h : afterExponent? text = some rest) :
    rest.length < text.length := by
  fun_cases afterExponent? text with
  | case1 c text hc =>
    rw [afterExponent?, if_pos hc] at h
    have h₁ := length_lt_of_afterDigits? h
    have h₂ := length_afterSign_le text
    rw [List.length_cons]
    omega
  | case2 c text hc => simp [afterExponent?, hc] at h
  | case3 => simp [afterExponent?] at h

theorem length_lt_of_number? {text rest : Text} {token : Token}
    (h : number? text = some (token, rest)) : rest.length < text.length := by
  simp only [number?, Option.map_eq_some_iff, Prod.exists] at h
  obtain ⟨digits, after, hi, ht⟩ := h
  have h₁ := length_lt_of_integer? hi
  have h₂ := length_afterMinus_le text
  split at ht
  · next fraction hf =>
    have h₃ := length_lt_of_afterFraction? hf
    have h₄ : ((afterExponent? fraction).getD fraction).length ≤ fraction.length := by
      cases he : afterExponent? fraction with
      | none => simp
      | some exponent => exact Nat.le_of_lt (length_lt_of_afterExponent? he)
    simp only [Prod.mk.injEq] at ht
    rw [← ht.2]
    omega
  · split at ht
    · next exponent he =>
      have h₃ := length_lt_of_afterExponent? he
      simp only [Prod.mk.injEq] at ht
      rw [← ht.2]
      omega
    · simp only [Prod.mk.injEq] at ht
      rw [← ht.2]
      omega

theorem length_lt_of_token? {text rest : Text} {token : Token}
    (h : token? text = some (token, rest)) : rest.length < text.length := by
  rw [token?.eq_def] at h
  split at h
  case h_8 text =>
    simp only [Option.map_eq_some_iff, Prod.exists, Prod.mk.injEq] at h
    obtain ⟨units, after, hu, _, rfl⟩ := h
    exact Nat.lt_succ_of_lt (JsonStrings.length_lt_of_units? hu)
  case h_9 =>
    split at h
    · next after hl =>
      simp only [Option.some.injEq, Prod.mk.injEq] at h
      exact h.2 ▸ length_lt_of_literal? hl
    · exact length_lt_of_number? h
  all_goals simp_all

def tokens (text : Text) : List Token :=
  match read : token? (JsonStrings.skipSpace text) with
  | none => []
  | some (token, rest) =>
    have : rest.length < text.length :=
      Nat.lt_of_lt_of_le (length_lt_of_token? read) (JsonStrings.length_skipSpace_le text)
    token :: tokens rest
termination_by text.length

end SchemaAssist.Text.JsonTokens
