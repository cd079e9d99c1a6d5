import Mathlib.Tactic.IntervalCases
import SchemaAssist.Text.JsonStrings

/-!
# Written arrays of JSON strings

The grammar of JSON arrays of strings, with every choice that it leaves to the writer: a character
is written raw, behind a backslash or as a code, an astral one also as a pair of surrogate codes,
and there may be whitespace around each token (`EncodesArray`). The texts that are read are those of
the grammar, whatever the choices, and what is read is what was written (`decode?_eq_some_iff`).
-/

namespace SchemaAssist.Text.JsonStrings

-- ---------------------------------------------------------------------------
-- Grammar
-- ---------------------------------------------------------------------------

def IsHexDigit (c : Char) (value : Nat) : Prop :=
  "0123456789abcdef".toList[value]? = some c ∨ "0123456789ABCDEF".toList[value]? = some c

inductive WritesCode : Text → Nat → Prop
  | digits {a b c d : Char} {w x y z : Nat} (ha : IsHexDigit a w) (hb : IsHexDigit b x)
      (hc : IsHexDigit c y) (hd : IsHexDigit d z) :
      WritesCode ['\\', 'u', a, b, c, d] (w * 0x1000 + x * 0x100 + y * 0x10 + z)

def shortEscapes : List (Char × Char) :=
  [('"', '"'), ('\\', '\\'), ('/', '/'), ('b', '\x08'), ('f', '\x0c'), ('n', '\n'), ('r', '\r'),
    ('t', '\t')]

def highSurrogate (c : Char) : Nat := 0xD800 + (c.toNat - 0x10000) / 0x400

def lowSurrogate (c : Char) : Nat := 0xDC00 + (c.toNat - 0x10000) % 0x400

/-- The ways to write one character of a string. -/
inductive WritesChar : Text → Char → Prop
  | raw {c : Char} (control : 0x20 ≤ c.toNat) (quote : c ≠ '"') (backslash : c ≠ '\\') :
      WritesChar [c] c
  | short {letter c : Char} (escape : (letter, c) ∈ shortEscapes) : WritesChar ['\\', letter] c
  | code {code : Text} {c : Char} (written : WritesCode code c.toNat) : WritesChar code c
  | pair {high low : Text} {c : Char} (astral : 0x10000 ≤ c.toNat)
      (first : WritesCode high (highSurrogate c)) (second : WritesCode low (lowSurrogate c)) :
      WritesChar (high ++ low) c

inductive WritesString : Text → Text → Prop
  | nil : WritesString [] []
  | cons {written rest string : Text} {c : Char} (head : WritesChar written c)
      (tail : WritesString rest string) : WritesString (written ++ rest) (c :: string)

def IsGap (gap : Text) : Prop := ∀ c ∈ gap, c ∈ [' ', '\t', '\n', '\r']

/-- What stands in an array that is not empty, behind its opening bracket or behind a comma. -/
inductive EncodesElements : List Text → Text → Prop
  | last {before after written string : Text} (hbefore : IsGap before) (hafter : IsGap after)
      (body : WritesString written string) :
      EncodesElements [string] (before ++ '"' :: (written ++ '"' :: (after ++ [']'])))
  | cons {before after written string rest : Text} {strings : List Text} (hbefore : IsGap before)
      (hafter : IsGap after) (body : WritesString written string)
      (tail : EncodesElements strings rest) :
      EncodesElements (string :: strings)
        (before ++ '"' :: (written ++ '"' :: (after ++ ',' :: rest)))

/-- The texts that encode an array of strings. -/
inductive EncodesArray : List Text → Text → Prop
  | empty {gap : Text} (hgap : IsGap gap) : EncodesArray [] ('[' :: (gap ++ [']']))
  | elements {strings : List Text} {written : Text} (h : EncodesElements strings written) :
      EncodesArray strings ('[' :: written)

theorem writesString_raw {string : Text}
    (h : string.all (fun c => 0x20 ≤ c.toNat ∧ c ≠ '"' ∧ c ≠ '\\') = true) :
    WritesString string string := by
  induction string with
  | nil => exact .nil
  | cons c string ih =>
    rw [List.all_cons, Bool.and_eq_true, decide_eq_true_iff] at h
    obtain ⟨⟨hcontrol, hquote, hbackslash⟩, hrest⟩ := h
    exact .cons (.raw hcontrol hquote hbackslash) (ih hrest)

theorem exists_inside_of_encodesElements {strings : List Text} {written : Text}
    (h : EncodesElements strings written) : ∃ inside, written = inside ++ [']'] := by
  induction h with
  | @last before after written => exact ⟨before ++ '"' :: (written ++ '"' :: after), by simp⟩
  | @cons before after written _ _ _ _ _ _ _ ih =>
    obtain ⟨inside, rfl⟩ := ih
    exact ⟨before ++ '"' :: (written ++ '"' :: (after ++ ',' :: inside)), by simp⟩

theorem exists_inside_of_encodesArray {strings : List Text} {encoding : Text}
    (h : EncodesArray strings encoding) : ∃ inside, encoding = '[' :: (inside ++ [']']) := by
  cases h with
  | empty hgap => exact ⟨_, rfl⟩
  | elements h =>
    obtain ⟨inside, rfl⟩ := exists_inside_of_encodesElements h
    exact ⟨inside, rfl⟩

-- ---------------------------------------------------------------------------
-- Codes
-- ---------------------------------------------------------------------------

theorem lt_of_isHexDigit {c : Char} {value : Nat} (h : IsHexDigit c value) : value < 16 := by
  rcases h with h | h <;> exact (List.getElem?_eq_some_iff.1 h).1

theorem hexDigit?_of_isHexDigit {c : Char} {value : Nat} (h : IsHexDigit c value) :
    hexDigit? c = some value := by
  have hlt := lt_of_isHexDigit h
  interval_cases value <;> rcases h with h | h <;> cases h <;> rfl

theorem isHexDigit_of_hexDigit? {c : Char} {value : Nat} (h : hexDigit? c = some value) :
    IsHexDigit c value := by
  have hc : Char.ofNat c.toNat = c := Char.ofNat_toNat c
  simp only [hexDigit?, Char.le_def, UInt32.le_iff_toNat_le] at h
  change (if 48 ≤ c.toNat ∧ c.toNat ≤ 57 then some (c.toNat - 48)
    else if 97 ≤ c.toNat ∧ c.toNat ≤ 102 then some (c.toNat - 87)
    else if 65 ≤ c.toNat ∧ c.toNat ≤ 70 then some (c.toNat - 55) else none) = some value at h
  generalize c.toNat = code at h hc
  subst hc
  split at h
  · next hrange =>
    cases h
    left
    obtain ⟨hlow, hhigh⟩ := hrange
    interval_cases code <;> rfl
  · split at h
    · next hrange =>
      cases h
      left
      obtain ⟨hlow, hhigh⟩ := hrange
      interval_cases code <;> rfl
    · split at h
      · next hrange =>
        cases h
        right
        obtain ⟨hlow, hhigh⟩ := hrange
        interval_cases code <;> rfl
      · contradiction

theorem hexDigit?_eq_some_iff {c : Char} {value : Nat} :
    hexDigit? c = some value ↔ IsHexDigit c value :=
  ⟨isHexDigit_of_hexDigit?, hexDigit?_of_isHexDigit⟩

theorem hexCode?_eq_some_iff {a b c d : Char} {value : Nat} :
    hexCode? a b c d = some value ↔ WritesCode ['\\', 'u', a, b, c, d] value := by
  simp only [hexCode?, Option.bind_eq_bind, Option.bind_eq_some_iff, Option.pure_def,
    Option.some.injEq, hexDigit?_eq_some_iff]
  constructor
  · rintro ⟨w, hw, x, hx, y, hy, z, hz, rfl⟩
    convert WritesCode.digits hw hx hy hz using 1
    omega
  · intro h
    cases h with
    | digits hw hx hy hz => exact ⟨_, hw, _, hx, _, hy, _, hz, by omega⟩

theorem WritesCode.lt {written : Text} {value : Nat} (h : WritesCode written value) :
    value < 0x10000 := by
  cases h with
  | digits ha hb hc hd =>
    have hw := lt_of_isHexDigit ha
    have hx := lt_of_isHexDigit hb
    have hy := lt_of_isHexDigit hc
    have hz := lt_of_isHexDigit hd
    omega

theorem toNat_lt_or_lt (c : Char) : c.toNat < 0xD800 ∨ 0xDFFF < c.toNat ∧ c.toNat < 0x110000 :=
  c.valid

theorem toNat_ofNat_of_not_surrogate {value : Nat}
    (h : value < 0xD800 ∨ 0xDFFF < value ∧ value < 0x110000) :
    (Char.ofNat value).toNat = value := by
  have hvalid : value.isValidChar := h
  rw [Char.ofNat, dif_pos hvalid]
  rfl

-- ---------------------------------------------------------------------------
-- What is written is read
-- ---------------------------------------------------------------------------

theorem units?_writesCode {written : Text} {value : Nat} (h : WritesCode written value)
    (text : Text) :
    units? (written ++ text) =
      (units? text).map fun (units, rest) => (.code value :: units, rest) := by
  have hcode := h
  cases h with
  | digits ha hb hc hd =>
    simp only [List.cons_append, List.nil_append]
    rw [units?, hexCode?_eq_some_iff.2 hcode, Option.bind_some]

theorem escape?_of_mem {letter c : Char} (h : (letter, c) ∈ shortEscapes) :
    letter ≠ 'u' ∧ escape? letter = some c := by
  simp only [shortEscapes, List.mem_cons, Prod.mk.injEq, List.not_mem_nil, or_false] at h
  rcases h with h | h | h | h | h | h | h | h <;> obtain ⟨rfl, rfl⟩ := h <;> decide

theorem units?_short {letter c : Char} (h : (letter, c) ∈ shortEscapes) (text : Text) :
    units? ('\\' :: letter :: text) =
      (units? text).map fun (units, rest) => (.raw c :: units, rest) := by
  obtain ⟨hletter, hescape⟩ := escape?_of_mem h
  rw [units?, hescape, Option.bind_some]
  simp [hletter]

theorem units?_raw {c : Char} (hcontrol : 0x20 ≤ c.toNat) (hquote : c ≠ '"')
    (hbackslash : c ≠ '\\') (text : Text) :
    units? (c :: text) = (units? text).map fun (units, rest) => (.raw c :: units, rest) := by
  rw [units?, if_neg (Nat.not_lt.2 hcontrol)] <;> simp [hquote, hbackslash]

theorem characters?_code (c : Char) (units : List StringUnit) :
    characters? (.code c.toNat :: units) = (characters? units).map (c :: ·) := by
  have hc := toNat_lt_or_lt c
  have hhigh : isHighSurrogate c.toNat = false := by
    rw [isHighSurrogate, decide_eq_false_iff_not]
    omega
  have hlow : isLowSurrogate c.toNat = false := by
    rw [isLowSurrogate, decide_eq_false_iff_not]
    omega
  cases units with
  | nil => simp [characters?, hhigh, hlow, Char.ofNat_toNat]
  | cons next units =>
    cases next <;> simp [characters?, hhigh, hlow, Char.ofNat_toNat]

theorem characters?_pair {c : Char} (h : 0x10000 ≤ c.toNat) (units : List StringUnit) :
    characters? (.code (highSurrogate c) :: .code (lowSurrogate c) :: units) =
      (characters? units).map (c :: ·) := by
  have hc := toNat_lt_or_lt c
  have hhigh : isHighSurrogate (highSurrogate c) = true := by
    rw [isHighSurrogate, decide_eq_true_iff, highSurrogate]
    omega
  have hlow : isLowSurrogate (lowSurrogate c) = true := by
    rw [isLowSurrogate, decide_eq_true_iff, lowSurrogate]
    omega
  have hjoined : 0x10000 + (highSurrogate c - 0xD800) * 0x400 + (lowSurrogate c - 0xDC00) =
      c.toNat := by
    rw [highSurrogate, lowSurrogate]
    omega
  rw [characters?, hhigh, hlow, Bool.and_self, if_pos rfl, hjoined, Char.ofNat_toNat]

/-- A written character is read as one unit or as two, which are that character again. -/
theorem exists_units_of_writesChar {written : Text} {c : Char} (h : WritesChar written c) :
    ∃ read : List StringUnit,
      (∀ text, units? (written ++ text) =
        (units? text).map fun (units, rest) => (read ++ units, rest)) ∧
      ∀ units, characters? (read ++ units) = (characters? units).map (c :: ·) := by
  cases h with
  | raw control quote backslash =>
    exact ⟨[.raw c], units?_raw control quote backslash, fun units => by simp [characters?]⟩
  | short escape =>
    exact ⟨[.raw c], units?_short escape, fun units => by simp [characters?]⟩
  | code written =>
    exact ⟨[.code c.toNat], units?_writesCode written, characters?_code c⟩
  | pair astral first second =>
    refine ⟨[.code (highSurrogate c), .code (lowSurrogate c)], ?_, characters?_pair astral⟩
    intro text
    rw [List.append_assoc, units?_writesCode first, units?_writesCode second, Option.map_map]
    rfl

theorem exists_units_of_writesString {written string : Text} (h : WritesString written string)
    (rest : Text) :
    ∃ units, units? (written ++ '"' :: rest) = some (units, rest) ∧
      characters? units = some string := by
  induction h with
  | nil => exact ⟨[], by simp [units?], rfl⟩
  | cons head tail ih =>
    obtain ⟨units, hunits, hstring⟩ := ih
    obtain ⟨read, hread, hchar⟩ := exists_units_of_writesChar head
    refine ⟨read ++ units, ?_, ?_⟩
    · rw [List.append_assoc, hread, hunits, Option.map_some]
    · rw [hchar, hstring, Option.map_some]

theorem skipSpace_append {gap : Text} (hgap : IsGap gap) {c : Char} (hc : isJsonSpace c = false)
    (rest : Text) : skipSpace (gap ++ c :: rest) = c :: rest := by
  have hspace : ∀ d ∈ gap, isJsonSpace d = true := by
    intro d hd
    have hd := hgap d hd
    simp only [List.mem_cons, List.not_mem_nil, or_false] at hd
    rcases hd with rfl | rfl | rfl | rfl <;> decide
  rw [skipSpace, List.dropWhile_append_of_pos hspace, List.dropWhile_cons_of_neg (by simp [hc])]

theorem elements?_eq {text body rest string : Text} {units : List StringUnit}
    (hopened : skipSpace text = '"' :: body) (hread : units? body = some (units, rest))
    (hstring : characters? units = some string) :
    elements? text =
      match skipSpace rest with
      | [']'] => some [string]
      | ',' :: more => (elements? more).map (string :: ·)
      | _ => none := by
  rw [elements?]
  split
  · next inner hinner =>
    cases hopened.symm.trans hinner
    split
    · next hnone => cases hread.symm.trans hnone
    · next hsome =>
      cases hread.symm.trans hsome
      rw [hstring, Option.bind_some]
      split <;> simp [*]
  · next hother => exact absurd hopened (hother _)

theorem elements?_of_encodesElements {strings : List Text} {written : Text}
    (h : EncodesElements strings written) : elements? written = some strings := by
  induction h with
  | @last before after _ _ hbefore hafter body =>
    obtain ⟨units, hunits, hstring⟩ := exists_units_of_writesString body (after ++ [']'])
    rw [elements?_eq (skipSpace_append hbefore (by decide) _) hunits hstring,
      skipSpace_append hafter (by decide)]
    rfl
  | @cons before after _ _ rest _ hbefore hafter body tail ih =>
    obtain ⟨units, hunits, hstring⟩ := exists_units_of_writesString body (after ++ ',' :: rest)
    rw [elements?_eq (skipSpace_append hbefore (by decide) _) hunits hstring,
      skipSpace_append hafter (by decide)]
    simp [ih]

theorem exists_quote_of_encodesElements {strings : List Text} {written : Text}
    (h : EncodesElements strings written) : ∃ rest, skipSpace written = '"' :: rest := by
  cases h with
  | last hbefore => exact ⟨_, skipSpace_append hbefore (by decide) _⟩
  | cons hbefore => exact ⟨_, skipSpace_append hbefore (by decide) _⟩

theorem decode?_of_encodesArray {strings : List Text} {encoding : Text}
    (h : EncodesArray strings encoding) : decode? encoding = some strings := by
  cases h with
  | empty hgap => rw [decode?, skipSpace_append hgap (by decide), if_pos rfl]
  | elements h =>
    obtain ⟨rest, hrest⟩ := exists_quote_of_encodesElements h
    rw [decode?, hrest, if_neg (by simp), elements?_of_encodesElements h]

theorem elements?_of_skipSpace {text rest : Text} {c : Char} (h : skipSpace text = c :: rest)
    (hc : c ≠ '"') : elements? text = none := by
  rw [elements?]
  split
  · next hquote => simp [h, hc] at hquote
  · rfl

theorem elements?_append {strings : List Text} {written tail : Text}
    (h : EncodesElements strings written) (htail : tail ≠ []) :
    elements? (written ++ tail) = none := by
  induction h with
  | @last before after written _ hbefore hafter body =>
    obtain ⟨units, hunits, hstring⟩ := exists_units_of_writesString body (after ++ ']' :: tail)
    have hopened := skipSpace_append hbefore (c := '"') (by decide)
      (written ++ '"' :: (after ++ ']' :: tail))
    have hread := elements?_eq hopened hunits hstring
    rw [skipSpace_append hafter (by decide)] at hread
    simpa [htail] using hread
  | @cons before after written _ rest _ hbefore hafter body _ ih =>
    obtain ⟨units, hunits, hstring⟩ :=
      exists_units_of_writesString body (after ++ ',' :: (rest ++ tail))
    have hopened := skipSpace_append hbefore (c := '"') (by decide)
      (written ++ '"' :: (after ++ ',' :: (rest ++ tail)))
    have hread := elements?_eq hopened hunits hstring
    rw [skipSpace_append hafter (by decide)] at hread
    simpa [ih] using hread

theorem decode?_append {strings : List Text} {encoding tail : Text}
    (h : EncodesArray strings encoding) (htail : tail ≠ []) :
    decode? (encoding ++ tail) = none := by
  cases h with
  | @empty gap hgap =>
    have hskip := skipSpace_append hgap (c := ']') (by decide) tail
    have hnone := elements?_of_skipSpace hskip (by decide)
    simp [decode?, hskip, htail, hnone]
  | @elements _ written h =>
    obtain ⟨rest, hrest⟩ := exists_quote_of_encodesElements h
    have hskip : skipSpace (written ++ tail) = '"' :: (rest ++ tail) := by
      rw [skipSpace, List.dropWhile_append, ← skipSpace, hrest]
      rfl
    rw [List.cons_append, decode?, hskip, if_neg (by simp), elements?_append h htail]

-- ---------------------------------------------------------------------------
-- What is read is written
-- ---------------------------------------------------------------------------

theorem mem_of_escape? {letter c : Char} (h : escape? letter = some c) :
    (letter, c) ∈ shortEscapes := by
  unfold escape? at h
  split at h <;> cases h <;> simp [shortEscapes]

/-- How the units of a string are written, a surrogate code on its own included. -/
inductive WritesUnits : Text → List StringUnit → Prop
  | nil : WritesUnits [] []
  | raw {written rest : Text} {c : Char} {units : List StringUnit} (head : WritesChar written c)
      (tail : WritesUnits rest units) : WritesUnits (written ++ rest) (.raw c :: units)
  | code {written rest : Text} {value : Nat} {units : List StringUnit}
      (head : WritesCode written value) (tail : WritesUnits rest units) :
      WritesUnits (written ++ rest) (.code value :: units)

theorem writesUnits_of_units? {text rest : Text} {units : List StringUnit}
    (h : units? text = some (units, rest)) :
    ∃ written, text = written ++ '"' :: rest ∧ WritesUnits written units := by
  fun_induction units? text generalizing units rest with
  | case1 => contradiction
  | case2 text =>
    cases h
    exact ⟨[], rfl, .nil⟩
  | case3 a b c d text ih =>
    simp only [Option.bind_eq_some_iff, Option.map_eq_some_iff, Prod.exists, Prod.mk.injEq] at h
    obtain ⟨value, hvalue, units, rest, hunits, rfl, rfl⟩ := h
    obtain ⟨written, rfl, htail⟩ := ih hunits
    exact ⟨_, rfl, .code (hexCode?_eq_some_iff.1 hvalue) htail⟩
  | case4 letter text _ ih =>
    simp only [Option.bind_eq_some_iff, Option.map_eq_some_iff, Prod.exists, Prod.mk.injEq] at h
    obtain ⟨c, hc, units, rest, hunits, rfl, rfl⟩ := h
    obtain ⟨written, rfl, htail⟩ := ih hunits
    exact ⟨_, rfl, .raw (.short (mem_of_escape? hc)) htail⟩
  | case5 => contradiction
  | case6 c text hquote _ hbackslash hcontrol ih =>
    simp only [Option.map_eq_some_iff, Prod.exists, Prod.mk.injEq] at h
    obtain ⟨units, rest, hunits, rfl, rfl⟩ := h
    obtain ⟨written, rfl, htail⟩ := ih hunits
    -- Something follows, be it only the quote, so a backslash would have been read as an escape.
    have hne : c ≠ '\\' := by
      intro hc
      cases written with
      | nil => exact hbackslash '"' rest hc rfl
      | cons d written => exact hbackslash d (written ++ '"' :: rest) hc rfl
    exact ⟨_, rfl, .raw (.raw (Nat.not_lt.1 hcontrol) hquote hne) htail⟩

theorem writesChar_of_code {written : Text} {value : Nat} (h : WritesCode written value)
    (hsingle : ¬ (isHighSurrogate value || isLowSurrogate value) = true) :
    WritesChar written (Char.ofNat value) := by
  have hlt := h.lt
  simp only [isHighSurrogate, isLowSurrogate, Bool.or_eq_true, decide_eq_true_iff] at hsingle
  refine .code ?_
  rwa [toNat_ofNat_of_not_surrogate (by omega)]

theorem writesChar_of_pair {first second : Text} {high low : Nat}
    (hfirst : WritesCode first high) (hsecond : WritesCode second low)
    (hpair : (isHighSurrogate high && isLowSurrogate low) = true) :
    WritesChar (first ++ second)
      (Char.ofNat (0x10000 + (high - 0xD800) * 0x400 + (low - 0xDC00))) := by
  simp only [isHighSurrogate, isLowSurrogate, Bool.and_eq_true, decide_eq_true_iff] at hpair
  have hcode : (Char.ofNat (0x10000 + (high - 0xD800) * 0x400 + (low - 0xDC00))).toNat =
      0x10000 + (high - 0xD800) * 0x400 + (low - 0xDC00) :=
    toNat_ofNat_of_not_surrogate (by omega)
  refine .pair (by omega) ?_ ?_
  · convert hfirst using 1
    rw [highSurrogate, hcode]
    omega
  · convert hsecond using 1
    rw [lowSurrogate, hcode]
    omega

theorem writesString_of_characters? {written string : Text} {units : List StringUnit}
    (hunits : WritesUnits written units) (h : characters? units = some string) :
    WritesString written string := by
  fun_induction characters? units generalizing written string with
  | case1 =>
    cases hunits
    cases h
    exact .nil
  | case2 c units ih =>
    obtain ⟨string, hstring, rfl⟩ := Option.map_eq_some_iff.1 h
    cases hunits with
    | raw head tail => exact .cons head (ih tail hstring)
  | case3 high low units hpair ih =>
    obtain ⟨string, hstring, rfl⟩ := Option.map_eq_some_iff.1 h
    cases hunits with
    | code first tail =>
      cases tail with
      | code second tail =>
        rw [← List.append_assoc]
        exact .cons (writesChar_of_pair first second hpair) (ih tail hstring)
  | case4 => contradiction
  | case5 high low units hpair hsingle ih =>
    obtain ⟨string, hstring, rfl⟩ := Option.map_eq_some_iff.1 h
    cases hunits with
    | code first tail => exact .cons (writesChar_of_code first hsingle) (ih tail hstring)
  | case6 => contradiction
  | case7 value units hnext hsingle ih =>
    obtain ⟨string, hstring, rfl⟩ := Option.map_eq_some_iff.1 h
    cases hunits with
    | code first tail => exact .cons (writesChar_of_code first hsingle) (ih tail hstring)

theorem exists_gap_of_skipSpace {text rest : Text} (h : skipSpace text = rest) :
    ∃ gap, text = gap ++ rest ∧ IsGap gap := by
  refine ⟨text.takeWhile isJsonSpace, ?_, ?_⟩
  · rw [← h, skipSpace, List.takeWhile_append_dropWhile]
  · intro c hc
    have hspace := List.all_eq_true.1 List.all_takeWhile c hc
    simpa [isJsonSpace, or_assoc] using hspace

theorem encodesElements_of_elements? {text : Text} {strings : List Text}
    (h : elements? text = some strings) : EncodesElements strings text := by
  fun_induction elements? text generalizing strings with
  | case1 => contradiction
  | case2 text body opened units rest read ih =>
    obtain ⟨before, rfl, hbefore⟩ := exists_gap_of_skipSpace opened
    obtain ⟨written, rfl, hunits⟩ := writesUnits_of_units? read
    obtain ⟨string, hstring, hnext⟩ := Option.bind_eq_some_iff.1 h
    have hbody := writesString_of_characters? hunits hstring
    split at hnext
    · next hlast =>
      cases hnext
      obtain ⟨after, rfl, hafter⟩ := exists_gap_of_skipSpace hlast
      exact .last hbefore hafter hbody
    · next more hcomma =>
      obtain ⟨strings, hstrings, rfl⟩ := Option.map_eq_some_iff.1 hnext
      obtain ⟨after, rfl, hafter⟩ := exists_gap_of_skipSpace hcomma
      exact .cons hbefore hafter hbody (ih _ hcomma hstrings)
    · contradiction
  | case3 => contradiction

/-- Exactly the texts of the grammar are read, and as the strings that they encode. -/
theorem decode?_eq_some_iff {text : Text} {strings : List Text} :
    decode? text = some strings ↔ EncodesArray strings text := by
  refine ⟨fun h => ?_, decode?_of_encodesArray⟩
  unfold decode? at h
  split at h
  · next text =>
    split at h
    · next hempty =>
      cases h
      obtain ⟨gap, rfl, hgap⟩ := exists_gap_of_skipSpace hempty
      exact .empty hgap
    · exact .elements (encodesElements_of_elements? h)
  · contradiction

end SchemaAssist.Text.JsonStrings
