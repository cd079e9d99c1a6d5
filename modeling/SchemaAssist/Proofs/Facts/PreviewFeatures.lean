import SchemaAssist.Facts
import SchemaAssist.Proofs.Facts.Assignment
import SchemaAssist.Proofs.Text.JoinedLines
import SchemaAssist.Proofs.Text.JsonEncoding

/-!
# Preview features are read back

The list is cut out of its line at the last bracket, before it is read. So brackets in a feature do
no harm, and neither does a list below: whatever strings are encoded on the first line that mentions
the key come back in lower case (`previewFeatures_of_encoded_list`).
-/

namespace SchemaAssist

open Text.JsonStrings

def listAtKey? (text : Text) : Option Text :=
  match assigned? "previewFeatures".toList text with
  | some ('[' :: rest) =>
    (beforeLast? ']' (fun _ => true) rest).map fun inside => '[' :: inside ++ [']']
  | _ => none

theorem previewList?_eq_leftmost? (text : Text) :
    previewList? text = Text.leftmost? listAtKey? text := by
  induction text with
  | nil => rfl
  | cons c text ih =>
    rw [previewList?, Text.leftmost?, ← ih, listAtKey?]
    rcases assigned? "previewFeatures".toList (c :: text) with _ | _ | ⟨d, rest⟩
    · rfl
    · rfl
    · by_cases hd : d = '['
      · subst hd
        cases hcut : beforeLast? ']' (fun _ => true) rest <;> simp [hcut]
      · simp [hd]

theorem listAtKey?_eq_bind (text : Text) :
    listAtKey? text =
      (assignedBehind? "previewFeatures".toList '[' text).bind fun rest =>
        (beforeLast? ']' (fun _ => true) rest).map fun inside => '[' :: (inside ++ [']']) := by
  rw [listAtKey?, assignedBehind?]
  rcases assigned? "previewFeatures".toList text with _ | _ | ⟨c, rest⟩
  · rfl
  · rfl
  · by_cases hc : c = '['
    · subst hc
      rfl
    · simp [hc, Ne.symm hc, Text.after?]

theorem listAtKey?_append_break {more : Text}
    (hmore : more.head? ≠ some '=' ∧ more.head? ≠ some '[') (text : Text) :
    listAtKey? (text ++ '\n' :: more) = listAtKey? text := by
  rw [listAtKey?_eq_bind, listAtKey?_eq_bind,
    assignedBehind?_append_break (by decide) (by decide) hmore]
  cases assignedBehind? "previewFeatures".toList '[' text with
  | none => rfl
  | some rest =>
    rw [Option.map_some, Option.bind_some, Option.bind_some, beforeLast?_append_break]

theorem previewList?_append_break {more : Text}
    (hmore : more.head? ≠ some '=' ∧ more.head? ≠ some '[') (text : Text) :
    previewList? (text ++ '\n' :: more) = (previewList? text).or (previewList? more) := by
  simp only [previewList?_eq_leftmost?]
  exact Text.leftmost?_append_break (listAtKey?_append_break hmore) rfl text

theorem listAtKey?_written (rest : Text) :
    listAtKey? ("previewFeatures = [".toList ++ rest) =
      (beforeLast? ']' (fun _ => true) rest).map fun inside => '[' :: (inside ++ [']']) := by
  have hbehind : assignedBehind? "previewFeatures".toList '['
      ("previewFeatures = [".toList ++ rest) = some rest :=
    assignedBehind?_eq_some_iff.2 ⟨' ', ' ', rfl, rfl, rfl⟩
  rw [listAtKey?_eq_bind, hbehind, Option.bind_some]

theorem listAtKey?_of_not_isPrefix {text : Text} (h : ¬ "previewFeatures".toList <+: text) :
    listAtKey? text = none := by
  rw [listAtKey?]
  split
  · next rest hassigned => exact absurd (isPrefix_of_assigned? hassigned) h
  · rfl

/-- No bracket behind the one that closes the list takes its place: the rest of the line has none,
and the lines below are out of reach. -/
theorem listAtKey?_assignment {inside trailing ends : Text} (hinside : '\n' ∉ inside)
    (htrailing : ']' ∉ trailing) (hends : ∀ c ∈ ends.head?, c = '\n') :
    listAtKey? ("previewFeatures = ".toList ++ '[' :: (inside ++ ']' :: (trailing ++ ends))) =
      some ('[' :: (inside ++ [']'])) := by
  have hcut : beforeLast? ']' (fun _ => true) (inside ++ ']' :: (trailing ++ ends)) =
      some inside :=
    beforeLast?_append (by decide) hinside rfl (beforeLast?_of_not_mem htrailing hends)
  rw [show "previewFeatures = ".toList ++ '[' :: (inside ++ ']' :: (trailing ++ ends)) =
    "previewFeatures = [".toList ++ (inside ++ ']' :: (trailing ++ ends)) from rfl,
    listAtKey?_written, hcut, Option.map_some]

theorem featuresOf_encoded {strings : List Text} {encoding : Text}
    (h : EncodesArray strings encoding) (hne : strings ≠ []) :
    featuresOf encoding = .ok (some (strings.map Text.lower)) := by
  rw [featuresOf, decode?_eq_some_iff.2 h]
  cases strings with
  | nil => contradiction
  | cons first rest => rfl

theorem exists_encodesArray_of_featuresOf {list : Text} {names : List Text}
    (h : featuresOf list = .ok (some names)) : ∃ strings, EncodesArray strings list := by
  cases hdecode : decode? list with
  | some strings => exact ⟨strings, decode?_eq_some_iff.1 hdecode⟩
  | none =>
    rw [featuresOf, hdecode] at h
    cases hbreach : Text.JsonLimits.breach? list <;> simp [hbreach] at h

theorem previewFeatures_of_listAtKey? {before after : List Text} {line list : Text}
    (hbefore : previewList? (Text.joinLines before) = none)
    (hlist : listAtKey? (Text.joinLines (line :: after)) = some list) :
    previewFeatures (before ++ line :: after) = featuresOf list := by
  have hkey : "previewFeatures".toList <+: Text.joinLines (line :: after) := by
    by_contra hnot
    simp [listAtKey?_of_not_isPrefix hnot] at hlist
  obtain ⟨rest, hrest⟩ := hkey
  have hline : previewList? (Text.joinLines (line :: after)) = some list := by
    rw [previewList?_eq_leftmost?]
    exact Text.leftmost?_of_some (by simp [← hrest]) hlist
  have hfound : previewList? (Text.joinLines (before ++ line :: after)) = some list := by
    by_cases hnone : before = []
    · rwa [hnone]
    · rw [Text.joinLines_append hnone (List.cons_ne_nil line after),
        previewList?_append_break (by simp [← hrest]), hbefore, hline, Option.none_or]
  rw [previewFeatures, hfound]

/-- The strings of an encoded list come back in lower case, whatever the lines below it hold, if no
line above it mentions the key. -/
theorem previewFeatures_of_encoded_list {before after strings : List Text}
    {encoding trailing : Text} (hencoding : EncodesArray strings encoding)
    (hstrings : strings ≠ []) (hbreak : '\n' ∉ encoding) (htrailing : ']' ∉ trailing)
    (hbefore : ∀ line ∈ before, ¬ "previewFeatures".toList <:+: line) :
    previewFeatures
        (before ++ ("previewFeatures = ".toList ++ encoding ++ trailing) :: after) =
      .ok (some (strings.map Text.lower)) := by
  obtain ⟨inside, rfl⟩ := exists_inside_of_encodesArray hencoding
  obtain ⟨ends, hjoined, hends⟩ := Text.exists_joinLines_cons
    ("previewFeatures = ".toList ++ '[' :: (inside ++ [']']) ++ trailing) after
  have hkey : "previewFeatures".toList.all (!Text.isSpace ·) = true := by decide
  have hpassed : ∀ line ∈ before, ∀ tail more, tail <:+ line →
      listAtKey? (tail ++ '\n' :: more) = none := fun line hline tail more htail =>
    listAtKey?_of_not_isPrefix (Text.not_isPrefix_of_not_infix
      (Text.isSpace_eq_false_of_all hkey) (hbefore line hline) htail more)
  have hinside : '\n' ∉ inside := fun hmem => hbreak (by simp [hmem])
  have hlist := listAtKey?_assignment hinside htrailing hends
  have hfound : previewList? (Text.joinLines (before ++
      ("previewFeatures = ".toList ++ '[' :: (inside ++ [']']) ++ trailing) :: after)) =
      some ('[' :: (inside ++ [']'])) := by
    rw [previewList?_eq_leftmost?, Text.leftmost?_joinLines_append hpassed (List.cons_ne_nil _ _),
      hjoined]
    refine Text.leftmost?_of_some (by simp) ?_
    simpa using hlist
  rw [previewFeatures, hfound]
  exact featuresOf_encoded hencoding hstrings

/-- A bracket within a feature, escapes of every kind, and another list below. -/
theorem features_of_escaped_list :
    let list := "[\"Full]Text\" ,\t\"\\u0041\\\"b,\",\"\\uD83d\\uDE00\" ]".toList
    previewFeatures ["preview \"x]\"".toList,
        "previewFeatures = ".toList ++ list ++ " // \"".toList,
        "previewFeatures = [\"other\"]".toList] =
      .ok (some ["full]text".toList, "a\"b,".toList, [Char.ofNat 0x1F600]]) := by
  intro list
  have hraw : WritesString "Full]Text".toList "Full]Text".toList :=
    writesString_raw (by decide)
  have hletter : WritesCode "\\u0041".toList
      (0 * 0x1000 + 0 * 0x100 + 4 * 0x10 + 1) :=
    .digits (.inl rfl) (.inl rfl) (.inl rfl) (.inl rfl)
  have hescaped : WritesString
      ("\\u0041".toList ++ ("\\\"".toList ++ "b,".toList)) "A\"b,".toList :=
    .cons (.code hletter) (.cons (.short (by decide)) (writesString_raw (by decide)))
  have hhigh : WritesCode "\\uD83d".toList
      (13 * 0x1000 + 8 * 0x100 + 3 * 0x10 + 13) :=
    .digits (.inr rfl) (.inl rfl) (.inl rfl) (.inl rfl)
  have hlow : WritesCode "\\uDE00".toList
      (13 * 0x1000 + 14 * 0x100 + 0 * 0x10 + 0) :=
    .digits (.inr rfl) (.inr rfl) (.inl rfl) (.inl rfl)
  have hpair : WritesString (("\\uD83d".toList ++ "\\uDE00".toList) ++ [])
      [Char.ofNat 0x1F600] := .cons (.pair (by decide) hhigh hlow) .nil
  have hempty : IsGap [] := by simp [IsGap]
  have hspace : IsGap [' '] := by simp [IsGap]
  have htab : IsGap ['\t'] := by simp [IsGap]
  let strings := ["Full]Text".toList, "A\"b,".toList, [Char.ofNat 0x1F600]]
  have hlist : EncodesArray strings list :=
    .elements (.cons hempty hspace hraw (.cons htab hempty hescaped (.last hempty hspace hpair)))
  have hbefore : ∀ line ∈ ["preview \"x]\"".toList], ¬ "previewFeatures".toList <:+: line := by
    decide +kernel
  have htrailing : ']' ∉ " // \"".toList := by decide
  have hlower : strings.map Text.lower =
      ["full]text".toList, "a\"b,".toList, [Char.ofNat 0x1F600]] := by decide +kernel
  rw [← hlower]
  exact previewFeatures_of_encoded_list hlist (by simp [strings]) (by decide) htrailing hbefore

end SchemaAssist
