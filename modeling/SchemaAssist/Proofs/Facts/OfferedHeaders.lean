import SchemaAssist.Proofs.Block.Endings
import SchemaAssist.Proofs.Facts.TypeNames

/-!
# The headers whose names are offered

On trimmed lines the names that are offered as types are those of the headers that the scan finds,
less the headers whose name is not one word and those without whitespace between the name and the
brace (`typeNames_eq_names_of_headers`). They are listed line by line, each line once.
-/

namespace SchemaAssist

/-- A header of one of the kinds on a line, with a name of word characters. Whitespace stands right
before the first brace of the line, so it separates the two. -/
structure Header.Offered (kinds : List Kind) (line : Text) (header : Header) : Prop where
  kind_mem : header.kind ∈ kinds
  isWord_of_mem_name : ∀ c ∈ header.name, Text.isWord c = true
  isSpace_before_brace : ∃ c ∈ (line.takeWhile (· != '{')).getLast?, Text.isSpace c = true

instance (kinds : List Kind) (line : Text) (header : Header) :
    Decidable (header.Offered kinds line) :=
  decidable_of_iff
    (header.kind ∈ kinds ∧ header.name.all Text.isWord = true ∧
      (line.takeWhile (· != '{')).getLast?.any Text.isSpace = true)
    ⟨fun ⟨hkind, hword, hspace⟩ =>
        ⟨hkind, List.all_eq_true.1 hword, (Option.any_eq_true ..).1 hspace⟩,
      fun h => ⟨h.kind_mem, List.all_eq_true.2 h.isWord_of_mem_name,
        (Option.any_eq_true ..).2 h.isSpace_before_brace⟩⟩

def offeredOpenings (kinds : List Kind) (lines : List Text) : List Opening :=
  (openings lines).filter fun opening =>
    opening.header.Offered kinds (Text.lineOf lines opening.line)

-- ---------------------------------------------------------------------------
-- One line
-- ---------------------------------------------------------------------------

namespace HeaderSpelling

theorem takeWhile_line (spelling : HeaderSpelling) :
    spelling.line.takeWhile (· != '{') =
      spelling.kind.keyword ++ spelling.gap ++ spelling.name ++ spelling.filler := by
  have hbefore : ∀ c ∈ spelling.kind.keyword ++ spelling.gap ++ spelling.name ++ spelling.filler,
      (c != '{') = true := by
    intro c hc
    simp only [List.mem_append] at hc
    rw [bne_iff_ne]
    rintro rfl
    rcases hc with ((hc | hc) | hc) | hc
    · exact spelling.kind.brace_not_mem_keyword hc
    · exact Header.brace_not_mem_of_blank spelling.blank_gap hc
    · exact spelling.brace_not_mem_name hc
    · exact Header.brace_not_mem_of_blank spelling.blank_filler hc
  have hline : spelling.line = (spelling.kind.keyword ++ spelling.gap ++ spelling.name ++
      spelling.filler) ++ '{' :: spelling.rest := by simp [line]
  rw [hline, List.takeWhile_append_of_pos hbefore, List.takeWhile_cons_of_neg (by simp),
    List.append_nil]

theorem filler_ne_nil_iff (spelling : HeaderSpelling) :
    spelling.filler ≠ [] ↔
      ∃ c ∈ (spelling.line.takeWhile (· != '{')).getLast?, Text.isSpace c = true := by
  rw [takeWhile_line]
  constructor
  · intro hne
    refine ⟨spelling.filler.getLast hne, ?_, spelling.blank_filler _ (List.getLast_mem hne)⟩
    rw [List.getLast?_append_of_ne_nil _ hne, List.getLast?_eq_some_getLast hne]
    rfl
  · rintro ⟨c, hc, hspace⟩ hnil
    rw [hnil, List.append_nil, List.getLast?_append_of_ne_nil _ spelling.name_ne_nil] at hc
    rw [(Text.trim_eq_self_iff.1 spelling.trim_name).2 c hc] at hspace
    contradiction

theorem offered_iff {kinds : List Kind} (spelling : HeaderSpelling) :
    spelling.header.Offered kinds spelling.line ↔
      spelling.kind ∈ kinds ∧ spelling.Typable := by
  constructor
  · intro h
    exact ⟨h.kind_mem, h.isWord_of_mem_name, spelling.filler_ne_nil_iff.2 h.isSpace_before_brace⟩
  · rintro ⟨hkind, htypable⟩
    exact ⟨hkind, htypable.isWord_of_mem_name,
      spelling.filler_ne_nil_iff.1 htypable.filler_ne_nil⟩

end HeaderSpelling

def declaredNameOf? (kinds : List Kind) (line : Text) : Option Text :=
  kinds.findSome? (declaredName? · line)

theorem declaredNameOf?_singleton (kind : Kind) (line : Text) :
    declaredNameOf? [kind] line = declaredName? kind line := by
  rw [declaredNameOf?, List.findSome?_singleton]

/-- On a trimmed line a name is read off exactly if the scan finds an offered header there. -/
theorem declaredNameOf?_eq_some_iff {kinds : List Kind} {line name : Text}
    (hline : Text.trim line = line) :
    declaredNameOf? kinds line = some name ↔
      ∃ header, Header.ofLine? line = some header ∧ header.Offered kinds line ∧
        header.name = name := by
  simp only [declaredNameOf?, findSome?_declaredName?_eq_some_iff, declaredName?_eq_some_iff]
  constructor
  · rintro ⟨_, hkind, spelling, htypable, rfl, rfl, rfl⟩
    exact ⟨spelling.header, Header.ofLine?_line spelling, spelling.offered_iff.2 ⟨hkind, htypable⟩,
      rfl⟩
  · rintro ⟨header, hread, hoffered, rfl⟩
    obtain ⟨spelling, rfl, rfl⟩ := Header.exists_spelling (Text.trimStart_eq_self hline) hread
    obtain ⟨hkind, htypable⟩ := spelling.offered_iff.1 hoffered
    exact ⟨spelling.kind, hkind, spelling, htypable, rfl, rfl, rfl⟩

theorem declaredNameOf?_of_header {kinds : List Kind} {line : Text} {header : Header}
    (hline : Text.trim line = line) (hread : Header.ofLine? line = some header) :
    declaredNameOf? kinds line =
      if header.Offered kinds line then some header.name else none := by
  split
  · next hoffered =>
    exact (declaredNameOf?_eq_some_iff hline).2 ⟨header, hread, hoffered, rfl⟩
  · next hoffered =>
    refine Option.eq_none_iff_forall_ne_some.2 fun name hname => hoffered ?_
    obtain ⟨other, hother, h, -⟩ := (declaredNameOf?_eq_some_iff hline).1 hname
    rw [hread] at hother
    cases hother
    exact h

theorem declaredNameOf?_of_none {kinds : List Kind} {line : Text}
    (hline : Text.trim line = line) (hread : Header.ofLine? line = none) :
    declaredNameOf? kinds line = none := by
  refine Option.eq_none_iff_forall_ne_some.2 fun name hname => ?_
  obtain ⟨header, hheader, -⟩ := (declaredNameOf?_eq_some_iff hline).1 hname
  rw [hread] at hheader
  contradiction

-- ---------------------------------------------------------------------------
-- All lines
-- ---------------------------------------------------------------------------

theorem filterMap_declaredNameOf?_eq {lines rest : List Text} {number : Nat} (kinds : List Kind)
    (hdrop : lines.drop number = rest) (htrim : ∀ line ∈ rest, Text.trim line = line) :
    rest.filterMap (declaredNameOf? kinds) =
      ((openingsFrom number rest).filter fun opening =>
        opening.header.Offered kinds (Text.lineOf lines opening.line)).map (·.header.name) := by
  induction rest generalizing number with
  | nil => rfl
  | cons line rest ih =>
    have hline := htrim line (List.mem_cons_self ..)
    have hbelow := ih (drop_succ_of_drop hdrop) fun x hx => htrim x (List.mem_cons_of_mem line hx)
    cases hread : Header.ofLine? line with
    | none =>
      rw [List.filterMap_cons_none (declaredNameOf?_of_none hline hread), hbelow,
        openingsFrom_none hread]
    | some header =>
      have hfirst : declaredNameOf? kinds line = _ := declaredNameOf?_of_header hline hread
      rw [openingsFrom_header hread]
      by_cases hoffered : header.Offered kinds line
      · rw [if_pos hoffered] at hfirst
        rw [List.filterMap_cons_some hfirst, hbelow, List.filter_cons_of_pos, List.map_cons]
        simpa [lineOf_of_drop hdrop] using hoffered
      · rw [if_neg hoffered] at hfirst
        rw [List.filterMap_cons_none hfirst, hbelow, List.filter_cons_of_neg]
        simpa [lineOf_of_drop hdrop] using hoffered

theorem mem_offeredOpenings_iff {kinds : List Kind} {lines : List Text} {opening : Opening} :
    opening ∈ offeredOpenings kinds lines ↔
      Header.ofLine? (Text.lineOf lines opening.line) = some opening.header ∧
        opening.header.Offered kinds (Text.lineOf lines opening.line) := by
  simp [offeredOpenings, openings, mem_openingsFrom]

theorem pairwise_offeredOpenings (kinds : List Kind) (lines : List Text) :
    (offeredOpenings kinds lines).Pairwise (·.line < ·.line) :=
  (pairwise_openingsFrom 0 lines).filter _

/-- On trimmed lines the names of models, enums and views, and those of types, are the names of the
headers that are offered for these kinds. Such a header stands on each line where the scan finds one
of the kind with a name of word characters and whitespace before the brace, and on no other line;
they come in the order of their lines, one for each. -/
theorem typeNames_eq_names_of_headers {lines : List Text}
    (htrim : ∀ line ∈ lines, Text.trim line = line) :
    relationNames lines = (offeredOpenings [.model, .enum, .view] lines).map (·.header.name) ∧
    compositeTypeNames lines = (offeredOpenings [.type] lines).map (·.header.name) ∧
    ∀ kinds, (offeredOpenings kinds lines).Pairwise (·.line < ·.line) ∧
      ∀ opening, opening ∈ offeredOpenings kinds lines ↔
        Header.ofLine? (Text.lineOf lines opening.line) = some opening.header ∧
          opening.header.Offered kinds (Text.lineOf lines opening.line) := by
  have hnames := fun kinds => filterMap_declaredNameOf?_eq kinds (List.drop_zero (l := lines)) htrim
  refine ⟨hnames _, ?_, fun kinds => ⟨pairwise_offeredOpenings kinds lines, fun opening =>
    mem_offeredOpenings_iff⟩⟩
  rw [offeredOpenings, openings, ← hnames]
  exact List.filterMap_congr fun line _ => (declaredNameOf?_singleton .type line).symm

/-- Two names are offered for the four lines that open a block of these kinds: one name is followed
by the brace at once, and one has two words. A keyword that goes on is no keyword. -/
theorem names_of_two_headers :
    let lines := ["model Über \x7b".toList, "enum A\x7b".toList, "view B c \x7b".toList,
      "modelX Y \x7b".toList, "type \tT \x7b\x7b".toList, "view V\u2003\x7b // \x7b".toList]
    (∀ line ∈ lines, Text.trim line = line) ∧
      relationNames lines = ["Über".toList, "V".toList] ∧ compositeTypeNames lines = [['T']] := by
  intro lines
  have htrim : ∀ line ∈ lines, Text.trim line = line := by decide +kernel
  obtain ⟨hrelations, htypes, -⟩ := typeNames_eq_names_of_headers htrim
  refine ⟨htrim, hrelations.trans ?_, htypes.trans ?_⟩ <;> decide +kernel

end SchemaAssist
