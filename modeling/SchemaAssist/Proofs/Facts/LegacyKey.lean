import Mathlib.Data.Nat.Find
import SchemaAssist.Facts
import SchemaAssist.Proofs.Block.LastHeader
import SchemaAssist.Proofs.Editor.NamePlace
import SchemaAssist.Proofs.Field.Declarations

/-!
# Where the legacy key is found

The search starts on the first line that opens a generator by its looks, and takes the first line
below that starts with the key, unless a closing line comes first (`legacyKeyLine?_eq_some_iff`).
In a generator block that is closed this finds the key exactly where it is
(`legacyKey_selected_in_block`). The search does not know which block it is in: when it has left the
generator, or has never been in one, is told from the last header above the key
(`legacyKey_in_generator_iff`).
-/

namespace SchemaAssist

-- ---------------------------------------------------------------------------
-- The search
-- ---------------------------------------------------------------------------

/-- The search starts on the first line that starts like a generator and has a brace. -/
structure SearchedFrom (lines : List Text) (first : Nat) : Prop where
  opens : opensGenerator (Text.lineOf lines first) = true
  earliest : ∀ i < first, opensGenerator (Text.lineOf lines i) = false

/-- The first line below `first` that starts with the key, with no closing line in between. -/
structure LegacyKeyAt (lines : List Text) (first number : Nat) : Prop where
  below : first < number
  starts : legacyKey <+: Text.lineOf lines number
  unclosed : Unclosed lines first number
  earliest : ∀ i, first < i → i < number → ¬ legacyKey <+: Text.lineOf lines i

theorem opensGenerator_iff {line : Text} :
    opensGenerator line = true ↔ "generator".toList <+: line ∧ '{' ∈ line := by
  rw [opensGenerator, Bool.and_eq_true, List.isPrefixOf_iff_prefix, List.contains_iff_mem]

def endsSearch (line : Text) : Bool := closesBlock line || legacyKey.isPrefixOf line

theorem endsSearch_eq_false_iff {line : Text} :
    endsSearch line = false ↔ closesBlock line = false ∧ ¬ legacyKey <+: line := by
  rw [endsSearch, Bool.or_eq_false_iff, ← List.isPrefixOf_iff_prefix, Bool.not_eq_true]

theorem endsSearch_of_opensGenerator {line : Text} (h : opensGenerator line = true) :
    endsSearch line = false := by
  obtain ⟨⟨rest, rfl⟩, -⟩ := opensGenerator_iff.1 h
  rfl

theorem closesBlock_of_legacyKey {line : Text} (h : legacyKey <+: line) :
    closesBlock line = false := by
  obtain ⟨rest, rfl⟩ := h
  rfl

theorem SearchedFrom.lt_length {lines : List Text} {first : Nat} (h : SearchedFrom lines first) :
    first < lines.length := by
  refine Nat.lt_of_not_le fun hle => ?_
  have hopens := h.opens
  rw [Text.lineOf_eq_nil hle] at hopens
  contradiction

theorem LegacyKeyAt.lt_length {lines : List Text} {first number : Nat}
    (h : LegacyKeyAt lines first number) : number < lines.length := by
  refine Nat.lt_of_not_le fun hle => ?_
  have hstarts := h.starts
  rw [Text.lineOf_eq_nil hle] at hstarts
  exact absurd (List.prefix_nil.1 hstarts) (by decide)

theorem exists_searchedFrom {lines : List Text} {number : Nat}
    (h : opensGenerator (Text.lineOf lines number) = true) : ∃ first, SearchedFrom lines first := by
  have hexists : ∃ n, opensGenerator (Text.lineOf lines n) = true := ⟨number, h⟩
  refine ⟨Nat.find hexists, Nat.find_spec hexists, fun i hi => ?_⟩
  simpa using Nat.find_min hexists hi

theorem SearchedFrom.dropWhile_eq {lines : List Text} {first : Nat} (h : SearchedFrom lines first) :
    (lines.zipIdx.dropWhile fun (line, _) => !opensGenerator line) =
      (List.range' first (lines.length - first)).map fun number =>
        (Text.lineOf lines number, number) := by
  have hsplit : List.range' 0 lines.length =
      List.range' 0 first ++ List.range' first (lines.length - first) := by
    have happend := List.range'_append_1 (s := 0) (m := first) (n := lines.length - first)
    rwa [Nat.zero_add, Nat.add_sub_cancel' (Nat.le_of_lt h.lt_length), eq_comm] at happend
  have hstart : List.range' first (lines.length - first) =
      first :: List.range' (first + 1) (lines.length - first - 1) := by
    rw [← List.range'_succ, Nat.sub_add_cancel (Nat.sub_pos_of_lt h.lt_length)]
  rw [zipIdx_eq_map_lineOf, hsplit, List.map_append, List.dropWhile_append_of_pos]
  · rw [hstart, List.map_cons, List.dropWhile_cons_of_neg (by simp [h.opens])]
  · simp only [List.mem_map, List.mem_range'_1]
    rintro _ ⟨i, hi, rfl⟩
    simp [h.earliest i (by omega)]

theorem SearchedFrom.legacyKeyLine?_eq {lines : List Text} {first : Nat}
    (h : SearchedFrom lines first) :
    legacyKeyLine? lines =
      ((List.range' first (lines.length - first)).find? fun i =>
        endsSearch (Text.lineOf lines i)).filter fun i => !closesBlock (Text.lineOf lines i) := by
  have hends : (fun (entry : Text × Nat) =>
      closesBlock entry.1 || legacyKey.isPrefixOf entry.1) ∘
        (fun i => (Text.lineOf lines i, i)) = fun i => endsSearch (Text.lineOf lines i) := rfl
  rw [legacyKeyLine?, h.dropWhile_eq, List.find?_map, hends]
  cases (List.range' first (lines.length - first)).find? fun i =>
      endsSearch (Text.lineOf lines i) with
  | none => rfl
  | some i => cases hcloses : closesBlock (Text.lineOf lines i) <;>
    simp [hcloses, Option.filter_some]

theorem SearchedFrom.legacyKeyLine?_eq_some_iff {lines : List Text} {first number : Nat}
    (h : SearchedFrom lines first) :
    legacyKeyLine? lines = some number ↔ LegacyKeyAt lines first number := by
  rw [h.legacyKeyLine?_eq, Option.filter_eq_some_iff, List.find?_range'_eq_some]
  simp only [Bool.not_eq_true', endsSearch_eq_false_iff]
  constructor
  · rintro ⟨⟨hends, hmem, hearlier⟩, hopen⟩
    rw [endsSearch, hopen, Bool.false_or, List.isPrefixOf_iff_prefix] at hends
    have hne : first ≠ number := by
      rintro rfl
      exact (endsSearch_eq_false_iff.1 (endsSearch_of_opensGenerator h.opens)).2 hends
    refine ⟨Nat.lt_of_le_of_ne (List.mem_range'_1.1 hmem).1 hne, hends, ?_, ?_⟩
    · intro i hlow hhigh
      rw [ClosesAt, Bool.not_eq_true]
      exact (hearlier i (Nat.le_of_lt hlow) hhigh).1
    · exact fun i hlow hhigh => (hearlier i (Nat.le_of_lt hlow) hhigh).2
  · intro hkey
    refine ⟨⟨?_, ?_, ?_⟩, closesBlock_of_legacyKey hkey.starts⟩
    · rw [endsSearch, List.isPrefixOf_iff_prefix.2 hkey.starts, Bool.or_true]
    · have hlength := hkey.lt_length
      have hbelow := hkey.below
      rw [List.mem_range'_1]
      omega
    · intro i hlow hhigh
      rcases Nat.lt_or_eq_of_le hlow with hlt | rfl
      · refine ⟨?_, hkey.earliest i hlt hhigh⟩
        have hopen := hkey.unclosed i hlt hhigh
        rwa [ClosesAt, Bool.not_eq_true] at hopen
      · exact endsSearch_eq_false_iff.1 (endsSearch_of_opensGenerator h.opens)

theorem legacyKeyLine?_eq_some_iff {lines : List Text} {number : Nat} :
    legacyKeyLine? lines = some number ↔
      ∃ first, SearchedFrom lines first ∧ LegacyKeyAt lines first number := by
  constructor
  · intro hfound
    by_cases hopens : ∃ i, opensGenerator (Text.lineOf lines i) = true
    · obtain ⟨i, hi⟩ := hopens
      obtain ⟨first, hfirst⟩ := exists_searchedFrom hi
      exact ⟨first, hfirst, hfirst.legacyKeyLine?_eq_some_iff.1 hfound⟩
    · have hnone : (lines.zipIdx.dropWhile fun (line, _) => !opensGenerator line) = [] := by
        rw [zipIdx_eq_map_lineOf]
        simpa using fun i _ => not_exists.1 hopens i
      rw [legacyKeyLine?, hnone] at hfound
      contradiction
  · rintro ⟨first, hfirst, hkey⟩
    exact hfirst.legacyKeyLine?_eq_some_iff.2 hkey

-- ---------------------------------------------------------------------------
-- The range
-- ---------------------------------------------------------------------------

theorem isSpace_of_mem_legacyKey : ∀ c ∈ legacyKey, Text.isSpace c = false :=
  Text.isSpace_eq_false_of_all (by decide)

theorem exists_lineAt_eq {text : Text} {number : Nat}
    (h : legacyKey <+: Text.lineOf (Text.trimmedLines text) number) :
    ∃ tail, Text.lineAt text number =
      Text.indent (Text.lineAt text number) ++ legacyKey ++ tail := by
  obtain ⟨rest, hrest⟩ := h
  obtain ⟨tail, -, hparts⟩ := Text.exists_blank_append_trim (Text.lineAt text number)
  rw [← lineOf_trimmedLines, ← hrest] at hparts
  refine ⟨rest ++ tail, ?_⟩
  conv_lhs => rw [hparts]
  simp only [List.append_assoc]

def legacyKeyRangeOn (text : Text) (number : Nat) : Range :=
  let column := (Text.indent (Text.lineAt text number)).length
  Range.onLine number column (column + legacyKey.length)

/-- Nothing in the indentation can be taken for the key, so the search in the untrimmed line finds
it behind. -/
theorem legacyKeyRange?_eq_map (text : Text) :
    legacyKeyRange? text =
      (legacyKeyLine? (Text.trimmedLines text)).map (legacyKeyRangeOn text) := by
  rw [legacyKeyRange?]
  cases hfound : legacyKeyLine? (Text.trimmedLines text) with
  | none => rfl
  | some number =>
    obtain ⟨first, -, hkey⟩ := legacyKeyLine?_eq_some_iff.1 hfound
    obtain ⟨tail, hline⟩ := exists_lineAt_eq hkey.starts
    have hindex := Text.indexOf?_append (Text.blank_indent (Text.lineAt text number))
      (by decide) isSpace_of_mem_legacyKey tail
    rw [← hline] at hindex
    simp [hindex, legacyKeyRangeOn]

theorem legacyKeyRange?_eq_some_iff {text : Text} {range : Range} :
    legacyKeyRange? text = some range ↔
      ∃ first number, SearchedFrom (Text.trimmedLines text) first ∧
        LegacyKeyAt (Text.trimmedLines text) first number ∧
        range = legacyKeyRangeOn text number := by
  simp only [legacyKeyRange?_eq_map, Option.map_eq_some_iff, legacyKeyLine?_eq_some_iff]
  constructor
  · rintro ⟨number, ⟨first, hfirst, hkey⟩, rfl⟩
    exact ⟨first, number, hfirst, hkey, rfl⟩
  · rintro ⟨first, number, hfirst, hkey, rfl⟩
    exact ⟨number, ⟨first, hfirst, hkey⟩, rfl⟩

theorem legacyKeyRangeOn_selects {text : Text} {number : Nat}
    (h : legacyKey <+: Text.lineOf (Text.trimmedLines text) number) :
    (legacyKeyRangeOn text number).Selects (Text.lines text) legacyKey ∧
      (legacyKeyRangeOn text number).decoded (Text.lines text) = legacyKeyRangeOn text number := by
  obtain ⟨tail, hline⟩ := exists_lineAt_eq h
  have hnarrow : Text.Narrow legacyKey.dropLast := by decide
  refine ⟨Range.selects_onLine hline, ?_⟩
  rw [legacyKeyRangeOn, Range.decoded_onLine hline (Text.blank_indent _).narrow,
    (Text.indexOfColumn_length_iff legacyKey tail).2 hnarrow]

-- ---------------------------------------------------------------------------
-- In a closed generator block
-- ---------------------------------------------------------------------------

theorem exists_legacyKeyAt {lines : List Text} {first stop : Nat}
    (hunclosed : Unclosed lines first stop)
    (h : ∃ i, first < i ∧ i < stop ∧ legacyKey <+: Text.lineOf lines i) :
    ∃ number, LegacyKeyAt lines first number := by
  obtain ⟨i, hlow, hhigh, hkey⟩ := h
  have hexists : ∃ n, first < n ∧ legacyKey <+: Text.lineOf lines n := ⟨i, hlow, hkey⟩
  obtain ⟨hbelow, hstarts⟩ := Nat.find_spec hexists
  refine ⟨Nat.find hexists, hbelow, hstarts, ?_, ?_⟩
  · intro j hj hfind
    exact hunclosed j hj
      (Nat.lt_of_lt_of_le hfind (Nat.le_trans (Nat.find_min' hexists ⟨hlow, hkey⟩) hhigh.le))
  · exact fun j hj hfind hother => Nat.find_min hexists hfind ⟨hj, hother⟩

theorem unclosed_of_mem_scan {lines : List Text} {block : Block} (h : block ∈ Block.scan lines)
    (hcloses : ClosesAt lines block.range.stop.line) :
    block.range.start.line < block.range.stop.line ∧
      Unclosed lines block.range.start.line block.range.stop.line := by
  obtain ⟨opening, next, stop, hheader, hnext, hends, rfl⟩ := exists_endsAt_of_mem_scan h
  cases hends with
  | closed number below inside closes first => exact ⟨below, first⟩
  | cutOff number cut unclosed =>
    obtain ⟨hlt, -⟩ := hnext number cut
    have hle : opening.line ≤ number - 1 := Nat.le_sub_one_of_lt hlt
    rcases Nat.lt_or_eq_of_le hle with hbelow | heq
    · exact absurd hcloses (unclosed (number - 1) hbelow (by omega))
    · have hnone := Header.ofLine?_eq_none_of_closesBlock hcloses
      simp only [Opening.endingAt] at hnone
      rw [← heq, hheader] at hnone
      contradiction

/-- Where the search starts on the header of a block that a closing line ends, the key is found
exactly if a line in between starts with it. The range lies on the first such line and is around the
key there, in characters as in code units. -/
theorem legacyKey_selected_in_block {text : Text} {block : Block}
    (hblock : block ∈ Block.scan (Text.trimmedLines text))
    (hfirst : SearchedFrom (Text.trimmedLines text) block.range.start.line)
    (hcloses : ClosesAt (Text.trimmedLines text) block.range.stop.line) :
    ((legacyKeyRange? text).isSome = true ↔
      ∃ i, block.range.start.line < i ∧ i < block.range.stop.line ∧
        legacyKey <+: Text.lineOf (Text.trimmedLines text) i) ∧
    ∀ range, legacyKeyRange? text = some range →
      range.start.line < block.range.stop.line ∧
      LegacyKeyAt (Text.trimmedLines text) block.range.start.line range.start.line ∧
      range.Selects (Text.lines text) legacyKey ∧ range.decoded (Text.lines text) = range := by
  obtain ⟨hbelow, hunclosed⟩ := unclosed_of_mem_scan hblock hcloses
  have hrange : ∀ range, legacyKeyRange? text = some range ↔
      ∃ number, LegacyKeyAt (Text.trimmedLines text) block.range.start.line number ∧
        legacyKeyRangeOn text number = range := by
    intro range
    simp only [legacyKeyRange?_eq_map, Option.map_eq_some_iff, hfirst.legacyKeyLine?_eq_some_iff]
  have hinside : ∀ number, LegacyKeyAt (Text.trimmedLines text) block.range.start.line number →
      number < block.range.stop.line := by
    intro number hkey
    rcases Nat.lt_trichotomy number block.range.stop.line with hlt | rfl | hgt
    · exact hlt
    · rw [ClosesAt, closesBlock_of_legacyKey hkey.starts] at hcloses
      contradiction
    · exact absurd hcloses (hkey.unclosed _ hbelow hgt)
  refine ⟨⟨?_, ?_⟩, ?_⟩
  · intro hsome
    obtain ⟨range, hfound⟩ := Option.isSome_iff_exists.1 hsome
    obtain ⟨number, hkey, -⟩ := (hrange range).1 hfound
    exact ⟨number, hkey.below, hinside number hkey, hkey.starts⟩
  · intro hexists
    obtain ⟨number, hkey⟩ := exists_legacyKeyAt hunclosed hexists
    exact Option.isSome_iff_exists.2 ⟨_, (hrange _).2 ⟨number, hkey, rfl⟩⟩
  · intro range hfound
    obtain ⟨number, hkey, rfl⟩ := (hrange range).1 hfound
    obtain ⟨hselects, hdecoded⟩ := legacyKeyRangeOn_selects hkey.starts
    exact ⟨hinside number hkey, hkey, hselects, hdecoded⟩

/-- A key behind two columns of indentation, above a closing line and another key. -/
theorem legacyKey_selected_behind_tab :
    let text := "model A \x7b\r\n\x7d\r\n generator g \x7b\n\r\n".toList ++
      " \texperimentalFeatures = []\n\x7d\nexperimentalFeatures".toList
    let range := Range.onLine 4 2 22
    legacyKeyRange? text = some range ∧ range.Selects (Text.lines text) legacyKey ∧
      range.decoded (Text.lines text) = range := by
  intro text range
  let block : Block := ⟨.generator, ⟨⟨2, 0⟩, ⟨5, 1⟩⟩, ⟨⟨2, 10⟩, ⟨2, 11⟩⟩, ['g']⟩
  have hblock : block ∈ Block.scan (Text.trimmedLines text) := by decide +kernel
  have hfirst : SearchedFrom (Text.trimmedLines text) 2 := ⟨by decide +kernel, by decide +kernel⟩
  have hfound : legacyKeyRange? text = some range := by decide +kernel
  have hcloses : closesBlock (Text.lineOf (Text.trimmedLines text) 5) = true := by decide +kernel
  obtain ⟨-, hrange⟩ := legacyKey_selected_in_block hblock hfirst hcloses
  exact ⟨hfound, (hrange range hfound).2.2⟩

-- ---------------------------------------------------------------------------
-- Outside a generator block
-- ---------------------------------------------------------------------------

theorem Header.isPrefix_keyword {word line : Text} {header : Header}
    (hne : word ≠ []) (hword : ∀ c ∈ word, Text.isSpace c = false) (hline : word <+: line)
    (h : Header.ofLine? line = some header) : word <+: header.kind.keyword := by
  obtain ⟨rest, rfl⟩ := hline
  obtain ⟨-, hfirst, -⟩ := Header.ofLine?_eq_some_iff.1 h
  obtain ⟨c, tail, rfl⟩ := List.exists_cons_of_ne_nil hne
  rw [← hfirst, Header.firstToken, List.cons_append,
    Text.trimStart_cons (hword c (List.mem_cons_self ..)), ← List.cons_append,
    List.takeWhile_append_of_pos fun d hd => by simp [hword d hd]]
  exact List.prefix_append ..

theorem not_endsAbove_of_legacyKey {line : Text} (h : legacyKey <+: line) : ¬ EndsAbove line := by
  refine not_endsAbove_iff.2 ⟨?_, closesBlock_of_legacyKey h⟩
  cases hheader : Header.ofLine? line with
  | none => rfl
  | some header =>
    have hkeyword := Header.isPrefix_keyword (by decide) isSpace_of_mem_legacyKey h hheader
    cases hkind : header.kind <;> rw [hkind] at hkeyword <;> exact absurd hkeyword (by decide)

theorem not_closesAt_of_searchedFrom {lines : List Text} {first : Nat}
    (h : SearchedFrom lines first) : ¬ ClosesAt lines first := by
  rw [ClosesAt, Bool.not_eq_true]
  exact (endsSearch_eq_false_iff.1 (endsSearch_of_opensGenerator h.opens)).1

/-- The key is found in a generator block or in none exactly if the last header above it is that
of a generator, or is closed above the line on which the search starts, or no line below ends
it. -/
theorem legacyKey_in_generator_iff {text : Text} {range : Range}
    (h : legacyKeyRange? text = some range) :
    ∃ first, SearchedFrom (Text.trimmedLines text) first ∧
      LegacyKeyAt (Text.trimmedLines text) first range.start.line ∧
      ((∀ block, Block.at? range.start.line (Text.trimmedLines text) = some block →
          block.kind = .generator) ↔
        ∀ opening ∈ (openings ((Text.trimmedLines text).take range.start.line)).getLast?,
          opening.header.kind = .generator ∨
          (∃ i, opening.line < i ∧ i < first ∧ ClosesAt (Text.trimmedLines text) i) ∨
          ∀ i, range.start.line < i → ¬ EndsAbove (Text.lineOf (Text.trimmedLines text) i)) := by
  obtain ⟨first, number, hfirst, hkey, rfl⟩ := legacyKeyRange?_eq_some_iff.1 h
  refine ⟨first, hfirst, hkey, ?_⟩
  -- Below the start of the search no line closes, or the key would not have been found.
  have hclosed : ∀ opening : Opening,
      (∃ i, opening.line < i ∧ i < number ∧ ClosesAt (Text.trimmedLines text) i) ↔
        ∃ i, opening.line < i ∧ i < first ∧ ClosesAt (Text.trimmedLines text) i := by
    intro opening
    constructor
    · rintro ⟨i, hlow, hhigh, hcloses⟩
      refine ⟨i, hlow, ?_, hcloses⟩
      rcases Nat.lt_trichotomy i first with hlt | rfl | hgt
      · exact hlt
      · exact absurd hcloses (not_closesAt_of_searchedFrom hfirst)
      · exact absurd hcloses (hkey.unclosed i hgt hhigh)
    · rintro ⟨i, hlow, hhigh, hcloses⟩
      exact ⟨i, hlow, Nat.lt_trans hhigh hkey.below, hcloses⟩
  have hlast :=
    forall_at?_kind_iff hkey.lt_length (not_endsAbove_of_legacyKey hkey.starts) .generator
  simp only [hclosed] at hlast
  exact hlast

/-- The key is found in the second of two generators, whose header cuts the first one off. -/
theorem legacyKey_below_cut_off_generator :
    let text := "generator a \x7b\ngenerator b \x7b\n  experimentalFeatures = []\n\x7d".toList
    legacyKeyRange? text = some (Range.onLine 2 2 22) ∧
      ∀ block, Block.at? 2 (Text.trimmedLines text) = some block → block.kind = .generator := by
  intro text
  have hfound : legacyKeyRange? text = some (Range.onLine 2 2 22) := by decide +kernel
  obtain ⟨first, -, -, hiff⟩ := legacyKey_in_generator_iff hfound
  refine ⟨hfound, hiff.2 fun opening hlast => .inl ?_⟩
  have hopening : (openings ((Text.trimmedLines text).take 2)).getLast? =
      some ⟨1, ⟨.generator, ['b'], 10⟩⟩ := by decide +kernel
  cases hopening.symm.trans hlast
  rfl

/-- Below the header of a generator that a model cuts off, and below a field whose name starts like
a generator, the key is found in the model. -/
theorem legacyKey_in_model :
    let cutOff := "generator g \x7b\nmodel A \x7b\n  experimentalFeatures Int\n\x7d".toList
    let field := "model A \x7b\n  generatorArgs Json @default(\"\x7b\x7d\")\n".toList ++
      "  experimentalFeatures Int\n\x7d".toList
    ∀ text ∈ [cutOff, field], legacyKeyRange? text = some (Range.onLine 2 2 22) ∧
      ∃ block, Block.at? 2 (Text.trimmedLines text) = some block ∧ block.kind = .model := by
  intro cutOff field text htext
  rcases List.mem_cons.1 htext with rfl | htext
  · let block : Block := ⟨.model, ⟨⟨1, 0⟩, ⟨3, 1⟩⟩, ⟨⟨1, 6⟩, ⟨1, 7⟩⟩, ['A']⟩
    exact ⟨by decide +kernel, block, by decide +kernel, rfl⟩
  · cases List.mem_singleton.1 htext
    let block : Block := ⟨.model, ⟨⟨0, 0⟩, ⟨3, 1⟩⟩, ⟨⟨0, 6⟩, ⟨0, 7⟩⟩, ['A']⟩
    exact ⟨by decide +kernel, block, by decide +kernel, rfl⟩

end SchemaAssist
