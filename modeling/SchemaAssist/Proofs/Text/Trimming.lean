import Mathlib.Data.List.DropRight
import Mathlib.Data.List.TakeWhile
import SchemaAssist.Text.Words

/-!
# What trimming takes off and what is found inside a text

Trimming takes whitespace off both ends and nothing else: a text is its trimmed form between two
blank texts, and blank texts around a trimmed one are taken off again. `mentions` is the search for
a contiguous part. An ending is taken off once where a text has it (`append_dropEnding_cases`).
-/

namespace SchemaAssist.Text

-- ---------------------------------------------------------------------------
-- Parts of a text
-- ---------------------------------------------------------------------------

theorem isSome_indexOf? {needle text : Text} :
    (indexOf? needle text).isSome = true ↔ needle <:+: text := by
  induction text with
  | nil => cases needle <;> simp [indexOf?]
  | cons c text ih =>
    rw [indexOf?, List.infix_cons_iff, ← ih]
    split
    · next h => simp [List.isPrefixOf_iff_prefix.1 h]
    · next h =>
      have hlead : ¬ needle <+: c :: text := fun hp => h (List.isPrefixOf_iff_prefix.2 hp)
      simp [hlead]

theorem mentions_iff {needle text : Text} : mentions needle text = true ↔ needle <:+: text :=
  isSome_indexOf?

theorem head?_dropWhile_eq_false (p : Char → Bool) (text : Text) :
    ∀ c ∈ (text.dropWhile p).head?, p c = false := by
  intro c hc
  have hhead := List.head?_dropWhile_not p text
  rw [Option.mem_def.1 hc] at hhead
  simpa using hhead

theorem getLast?_dropEndWhile_eq_false (p : Char → Bool) (text : Text) :
    ∀ c ∈ (dropEndWhile p text).getLast?, p c = false := by
  intro c hc
  rw [dropEndWhile, List.getLast?_reverse] at hc
  exact head?_dropWhile_eq_false p text.reverse c hc

theorem dropEndWhile_prefix (p : Char → Bool) (text : Text) : dropEndWhile p text <+: text :=
  ⟨takeEndWhile p text, dropEndWhile_append_takeEndWhile p text⟩

theorem of_mem_takeEndWhile {p : Char → Bool} {text : Text} {c : Char}
    (h : c ∈ takeEndWhile p text) : p c = true := by
  rw [takeEndWhile, List.mem_reverse] at h
  exact List.mem_takeWhile_imp h

-- ---------------------------------------------------------------------------
-- Blank texts
-- ---------------------------------------------------------------------------

/-- Nothing but whitespace, or nothing at all. -/
def Blank (text : Text) : Prop := ∀ c ∈ text, isSpace c = true

instance (text : Text) : Decidable text.Blank := List.decidableBAll (isSpace · = true) text

theorem Blank.reverse {text : Text} (h : Blank text) : Blank text.reverse :=
  fun c hc => h c (List.mem_reverse.1 hc)

theorem Blank.append {text other : Text} (h : Blank text) (h' : Blank other) :
    Blank (text ++ other) :=
  fun c hc => (List.mem_append.1 hc).elim (h c) (h' c)

theorem Blank.not_mem {text : Text} (h : Blank text) {c : Char} (hc : isSpace c = false) :
    c ∉ text := by
  intro hmem
  rw [h c hmem] at hc
  contradiction

theorem Blank.isSpace_head? {gap : Text} (h : Blank gap) (hne : gap ≠ []) (rest : Text) :
    ∀ c ∈ (gap ++ rest).head?, isSpace c = true := by
  obtain ⟨d, gap, rfl⟩ := List.exists_cons_of_ne_nil hne
  rintro c ⟨⟩
  exact h d (List.mem_cons_self ..)

theorem isSpace_eq_false_of_all {word : Text} (h : word.all (!isSpace ·) = true) :
    ∀ c ∈ word, isSpace c = false := fun c hc => by simpa using List.all_eq_true.1 h c hc

theorem blank_takeWhile (text : Text) : Blank (text.takeWhile isSpace) :=
  List.all_eq_true.1 List.all_takeWhile

theorem blank_indent (text : Text) : Blank (indent text) := blank_takeWhile text

theorem blank_takeEndWhile (text : Text) : Blank (takeEndWhile isSpace text) :=
  fun _ => of_mem_takeEndWhile

theorem indent_append {gap : Text} (h : Blank gap) {c : Char} (hc : isSpace c = false)
    (rest : Text) : indent (gap ++ c :: rest) = gap := by
  rw [indent, List.takeWhile_append_of_pos h, List.takeWhile_cons_of_neg (by simp [hc]),
    List.append_nil]

theorem trimStart_append {gap : Text} (h : Blank gap) (text : Text) :
    trimStart (gap ++ text) = trimStart text := List.dropWhile_append_of_pos h

theorem trimEnd_append {gap : Text} (h : Blank gap) (text : Text) :
    trimEnd (text ++ gap) = trimEnd text := by
  rw [trimEnd, dropEndWhile, List.reverse_append, List.dropWhile_append_of_pos h.reverse]
  rfl

theorem trimStart_cons {c : Char} (h : isSpace c = false) (text : Text) :
    trimStart (c :: text) = c :: text := List.dropWhile_cons_of_neg (by simp [h])

theorem trimEnd_append_cons {c : Char} (hc : isSpace c = false) (front rest : Text) :
    trimEnd (front ++ c :: rest) = front ++ c :: trimEnd rest := by
  rw [trimEnd, trimEnd, dropEndWhile, dropEndWhile, List.reverse_append, List.reverse_cons,
    List.append_assoc, List.dropWhile_append]
  cases h : rest.reverse.dropWhile isSpace with
  | nil => simp [hc]
  | cons d back => simp

theorem trimStart_append_of_not_blank {front : Text} (h : ¬ Blank front) (rest : Text) :
    trimStart (front ++ rest) = trimStart front ++ rest := by
  have hne : front.dropWhile isSpace ≠ [] := fun hnil => h (List.dropWhile_eq_nil_iff.1 hnil)
  rw [trimStart, List.dropWhile_append, if_neg (by simpa using hne), trimStart]

theorem head?_trim_append {front : Text} (h : ¬ Blank front) (rest : Text) :
    (trim (front ++ rest)).head? = (trimStart front).head? := by
  rw [trim, trimStart_append_of_not_blank h]
  cases hstart : trimStart front with
  | nil => exact absurd (List.dropWhile_eq_nil_iff.1 hstart) h
  | cons c start =>
    have hc : isSpace c = false := by
      have hhead := head?_dropWhile_eq_false isSpace front c
      exact hhead (by rw [show front.dropWhile isSpace = c :: start from hstart]; rfl)
    rw [List.cons_append, ← List.nil_append (c :: _), trimEnd_append_cons hc]
    rfl

-- ---------------------------------------------------------------------------
-- Trimmed texts
-- ---------------------------------------------------------------------------

theorem trimStart_suffix (text : Text) : trimStart text <:+ text := List.dropWhile_suffix _

theorem trimEnd_isPrefix (text : Text) : trimEnd text <+: text := dropEndWhile_prefix isSpace text

theorem trim_infix (text : Text) : trim text <:+: text :=
  (trimEnd_isPrefix _).isInfix.trans (trimStart_suffix text).isInfix

theorem exists_blank_append_trim (text : Text) :
    ∃ tail, Blank tail ∧ text = indent text ++ trim text ++ tail := by
  refine ⟨takeEndWhile isSpace (trimStart text), blank_takeEndWhile _, ?_⟩
  rw [List.append_assoc, trim, trimEnd, dropEndWhile_append_takeEndWhile, indent_append_trimStart]

theorem trim_eq_nil_iff {text : Text} : trim text = [] ↔ Blank text := by
  constructor
  · intro h
    obtain ⟨tail, htail, hparts⟩ := exists_blank_append_trim text
    rw [h, List.append_nil] at hparts
    exact hparts ▸ (blank_indent text).append htail
  · intro h
    have hstart : trimStart text = [] := List.dropWhile_eq_nil_iff.2 h
    rw [trim, hstart]
    rfl

theorem trimStart_eq_self {text : Text} (h : trim text = text) : trimStart text = text := by
  refine (trimStart_suffix text).eq_of_length (Nat.le_antisymm (trimStart_suffix text).length_le ?_)
  calc text.length = (trim text).length := by rw [h]
    _ ≤ (trimStart text).length := (trimEnd_isPrefix (trimStart text)).length_le

theorem trimStart_eq_self_iff {text : Text} :
    trimStart text = text ↔ ∀ c ∈ text.head?, isSpace c = false := by
  cases text <;> simp [trimStart, List.dropWhile_eq_self_iff]

theorem trimEnd_eq_self_iff {text : Text} :
    trimEnd text = text ↔ ∀ c ∈ text.getLast?, isSpace c = false := by
  have hback : trimEnd text = text ↔ trimStart text.reverse = text.reverse := by
    rw [trimEnd, dropEndWhile, List.reverse_eq_iff]
    rfl
  rw [hback, trimStart_eq_self_iff, List.head?_reverse]

theorem trim_eq_self_iff {text : Text} :
    trim text = text ↔
      (∀ c ∈ text.head?, isSpace c = false) ∧ ∀ c ∈ text.getLast?, isSpace c = false := by
  constructor
  · intro h
    have hstart := trimStart_eq_self h
    rw [trim, hstart] at h
    exact ⟨trimStart_eq_self_iff.1 hstart, trimEnd_eq_self_iff.1 h⟩
  · rintro ⟨hfirst, hlast⟩
    rw [trim, trimStart_eq_self_iff.2 hfirst, trimEnd_eq_self_iff.2 hlast]

theorem trim_eq_self_of_ends {c d : Char} (hc : isSpace c = false) (hd : isSpace d = false)
    (text : Text) : trim (c :: (text ++ [d])) = c :: (text ++ [d]) := by
  refine trim_eq_self_iff.2 ⟨by simp [hc], ?_⟩
  rw [← List.cons_append, List.getLast?_concat]
  simp [hd]

theorem indent_eq_nil {text : Text} (h : trimStart text = text) : indent text = [] := by
  have hsplit := indent_append_trimStart text
  rw [h] at hsplit
  simpa using hsplit

theorem trimStart_of_prefix {text first : Text} (h : first <+: trimStart text) :
    trimStart first = first := by
  cases first with
  | nil => rfl
  | cons c rest =>
    obtain ⟨tail, htail⟩ := h
    have hc := List.head?_dropWhile_not isSpace text
    rw [show text.dropWhile isSpace = trimStart text from rfl, ← htail] at hc
    exact trimStart_cons hc rest

theorem trim_idem (text : Text) : trim (trim text) = trim text := by
  have hstart : trimStart (trim text) = trim text := trimStart_of_prefix (trimEnd_isPrefix _)
  rw [trim, hstart]
  exact List.rdropWhile_idempotent isSpace (trimStart text)

theorem trim_eq_self {text : Text} (h : ∀ c ∈ text, isSpace c = false) : trim text = text := by
  obtain ⟨tail, htail, hparts⟩ := exists_blank_append_trim text
  have hnil : ∀ part : Text, Blank part → part ⊆ text → part = [] := by
    intro part hblank hsub
    exact List.eq_nil_iff_forall_not_mem.2 fun c hc => hblank.not_mem (h c (hsub hc)) hc
  have hindent : indent text = [] := hnil _ (blank_indent text) (List.takeWhile_prefix _).subset
  have htail_nil : tail = [] := hnil _ htail fun c hc => by
    rw [hparts]
    exact List.mem_append_right _ hc
  rw [hindent, htail_nil, List.append_nil, List.nil_append] at hparts
  exact hparts.symm

theorem isSpace_head {c : Char} {rest : Text} (h : trim (c :: rest) = c :: rest) :
    isSpace c = false := by
  simpa [trimStart] using trimStart_eq_self h

theorem trim_append_append {before name after : Text} (hbefore : Blank before)
    (hname : trim name = name) (hafter : Blank after) : trim (before ++ name ++ after) = name := by
  rw [trim, List.append_assoc, trimStart_append hbefore]
  cases name with
  | nil =>
    have hnil : trimStart after = [] := List.dropWhile_eq_nil_iff.2 hafter
    rw [List.nil_append, hnil]
    rfl
  | cons c rest =>
    have hc := isSpace_head hname
    rw [List.cons_append, trimStart_cons hc, ← List.cons_append, trimEnd_append hafter]
    rw [trim, trimStart_cons hc] at hname
    exact hname

-- ---------------------------------------------------------------------------
-- Endings
-- ---------------------------------------------------------------------------

theorem dropEnding_of_not_suffix {ending text : Text} (h : ¬ ending <:+ text) :
    dropEnding ending text = text := by
  unfold dropEnding
  split
  · next rest hrest =>
    have htext := after?_eq_some_iff.1 hrest
    exact absurd (List.reverse_prefix.1 ⟨rest, htext.symm⟩) h
  · rfl

theorem append_dropEnding_cases (ending text : Text) :
    text = dropEnding ending text ++ ending ∨ text = dropEnding ending text := by
  by_cases h : ending <:+ text
  · obtain ⟨front, rfl⟩ := h
    exact .inl (by rw [dropEnding_append])
  · exact .inr (dropEnding_of_not_suffix h).symm

theorem dropEnding_prefix (ending text : Text) : dropEnding ending text <+: text := by
  cases append_dropEnding_cases ending text with
  | inl h => exact ⟨ending, h.symm⟩
  | inr h => exact ⟨[], by rw [List.append_nil, ← h]⟩

theorem dropEndWhile_concat (c : Char) (text : Text) :
    dropEndWhile (· == c) (text ++ [c]) = dropEndWhile (· == c) text := by
  simp [dropEndWhile]

theorem dropEndWhile_of_not_suffix {c : Char} {text : Text} (h : ¬ [c] <:+ text) :
    dropEndWhile (· == c) text = text := by
  cases text using List.reverseRecOn with
  | nil => rfl
  | append_singleton front d =>
    have hd : d ≠ c := by simpa [eq_comm] using h
    simp [dropEndWhile, hd]

/-- Taking a character off once is taking it off wherever the text ends in it, unless two of it
stand there. -/
theorem dropEndWhile_eq_dropEnding {c : Char} {text : Text} (h : ¬ [c, c] <:+ text) :
    dropEndWhile (· == c) text = dropEnding [c] text := by
  by_cases hc : [c] <:+ text
  · obtain ⟨front, rfl⟩ := hc
    have hfront : ¬ [c] <:+ front := by
      rintro ⟨rest, rfl⟩
      exact h ⟨rest, by simp⟩
    rw [dropEndWhile_concat, dropEndWhile_of_not_suffix hfront, dropEnding_append]
  · rw [dropEndWhile_of_not_suffix hc, dropEnding_of_not_suffix hc]

end SchemaAssist.Text
