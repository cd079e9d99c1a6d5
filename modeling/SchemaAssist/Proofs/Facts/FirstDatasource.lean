import SchemaAssist.Proofs.Block.Locating
import SchemaAssist.Proofs.Facts.Provider

/-!
# The provider of the first datasource

The name and the provider of a datasource are looked for in the text, not in a block. Where the
first datasource block is written plainly, the name is the name of that block. The provider belongs
to it too if one of the first two nonblank lines in the block assigns one; if neither does, the
search goes on below the header (`provider_of_first_datasource`), as far as a later datasource
(`provider_of_later_datasource`).
-/

namespace SchemaAssist

def Block.inside (lines : List Text) (block : Block) : List Text :=
  (lines.take block.range.stop.line).drop (block.range.start.line + 1)

/-- The line of a datasource header is the first that mentions a datasource and has a brace. It ends
in its only brace, and a closing line ends the block. No line inside goes on with an assignment that
the line above it has begun. -/
structure Block.WrittenPlainly (lines : List Text) (block : Block) : Prop where
  closes : ClosesAt lines block.range.stop.line
  header_ends : ∃ front, '{' ∉ front ∧ Text.lineOf lines block.range.start.line = front ++ ['{']
  no_other_above : ∀ line ∈ lines.take block.range.start.line,
    "datasource".toList <:+: line → '{' ∉ line
  no_broken_assignment : ∀ line ∈ block.inside lines,
    line.head? ≠ some '=' ∧ line.head? ≠ some '"'

namespace Provider

/-- A line that assigns a quoted value to the provider. A closing brace right behind the value would
spoil it. -/
def IsAssignment (line : Text) : Prop :=
  ∃ before after value tail, Text.isSpace before = true ∧ Text.isSpace after = true ∧
    tail.head? ≠ some '}' ∧
    line = "provider".toList ++ before :: '=' :: after :: '"' :: (value ++ '"' :: tail)

-- ---------------------------------------------------------------------------
-- One line
-- ---------------------------------------------------------------------------

section
variable {line : Text} {rest : List Text}

theorem head?_joinLines (h : ∀ next ∈ rest.head?, next.head? ≠ some '=' ∧ next.head? ≠ some '"') :
    (Text.joinLines rest).head? ≠ some '=' ∧ (Text.joinLines rest).head? ≠ some '"' := by
  cases rest with
  | nil => simp [Text.joinLines]
  | cons next rest =>
    obtain ⟨ends, hjoined, hends⟩ := Text.exists_joinLines_cons next rest
    rw [hjoined, List.head?_append]
    cases next with
    | nil =>
      cases ends with
      | nil => simp
      | cons c ends =>
        cases hends c rfl
        simp
    | cons c next => simpa using h _ rfl

theorem exists_of_value?_joinLines (hrest : rest ≠ [])
    (hnext : ∀ next ∈ rest.head?, next.head? ≠ some '=' ∧ next.head? ≠ some '"') {value : Text}
    (h : value? (Text.joinLines (line :: rest)) = some value) :
    ∃ before after tail, Text.isSpace before = true ∧ Text.isSpace after = true ∧
      tail.head? ≠ some '}' ∧
      line = "provider".toList ++ before :: '=' :: after :: '"' :: (value ++ '"' :: tail) := by
  rw [Text.joinLines_cons hrest, value?_append_break (head?_joinLines hnext)] at h
  obtain ⟨behind, hassigned, hvalue⟩ := Option.bind_eq_some_iff.1 h
  obtain ⟨before, after, hbefore, hafter, rfl⟩ := assignedBehind?_eq_some_iff.1 hassigned
  obtain ⟨-, tail, rfl, hcloses⟩ := eq_append_of_beforeLast? hvalue
  refine ⟨before, after, tail, hbefore, hafter, ?_, rfl⟩
  cases tail with
  | nil => simp
  | cons d tail =>
    simp only [List.cons_append, closesLater, Bool.and_eq_true, bne_iff_ne] at hcloses
    simpa using hcloses.1

theorem isSome_value?_joinLines_iff (hline : '\n' ∉ line) (hclosed : ∃ other ∈ rest, '}' ∈ other)
    (hnext : ∀ next ∈ rest.head?, next.head? ≠ some '=' ∧ next.head? ≠ some '"') :
    (value? (Text.joinLines (line :: rest))).isSome = true ↔ IsAssignment line := by
  have hrest : rest ≠ [] := by
    obtain ⟨other, hother, -⟩ := hclosed
    exact List.ne_nil_of_mem hother
  constructor
  · intro h
    obtain ⟨value, hvalue⟩ := Option.isSome_iff_exists.1 h
    obtain ⟨before, after, tail, hassigned⟩ := exists_of_value?_joinLines hrest hnext hvalue
    exact ⟨before, after, value, tail, hassigned⟩
  · rintro ⟨before, after, value, tail, hbefore, hafter, htail, rfl⟩
    have hcut : (beforeLast? '"' closesLater
        (value ++ '"' :: (tail ++ '\n' :: Text.joinLines rest))).isSome = true :=
      isSome_beforeLast?_append (by decide) (fun hmem => hline (by simp [hmem]))
        (closesLater_joinLines htail hclosed)
    obtain ⟨found, hfound⟩ := Option.isSome_iff_exists.1 hcut
    refine Option.isSome_iff_exists.2 ⟨found, value?_eq_some_iff.2 ?_⟩
    refine ⟨before, after, _, hbefore, hafter, ?_, hfound⟩
    rw [Text.joinLines_cons hrest]
    simp

end

-- ---------------------------------------------------------------------------
-- The lines of a block
-- ---------------------------------------------------------------------------

section
variable {inside after : List Text} {closing : Text} (hclosing : closesBlock closing = true)
  (hwhole : ∀ line ∈ inside, line.head? ≠ some '=' ∧ line.head? ≠ some '"')
include hclosing

theorem value?_closing : value? (Text.joinLines (closing :: after)) = none := by
  obtain ⟨rest, rfl⟩ := closesBlock_iff.1 hclosing
  exact value?_of_not_isPrefix (by simp) after

theorem exists_brace_mem (lines : List Text) : ∃ line ∈ lines ++ closing :: after, '}' ∈ line := by
  obtain ⟨rest, rfl⟩ := closesBlock_iff.1 hclosing
  exact ⟨'}' :: rest, by simp, by simp⟩

include hwhole

theorem next_inside {line : Text} {lines : List Text} (h : line :: lines <:+ inside) :
    ∀ next ∈ (lines ++ closing :: after).head?, next.head? ≠ some '=' ∧ next.head? ≠ some '"' := by
  cases lines with
  | nil =>
    obtain ⟨rest, rfl⟩ := closesBlock_iff.1 hclosing
    simp
  | cons next lines =>
    rintro _ ⟨⟩
    exact hwhole next (h.subset (by simp))

theorem isSome_value?_inside_iff (hbreaks : ∀ line ∈ inside, '\n' ∉ line) {line : Text}
    {lines : List Text} (h : line :: lines <:+ inside) :
    (value? (Text.joinLines (line :: (lines ++ closing :: after)))).isSome = true ↔
      IsAssignment line :=
  isSome_value?_joinLines_iff (hbreaks line (h.subset (List.mem_cons_self ..)))
    (exists_brace_mem hclosing lines) (next_inside hclosing hwhole h)

theorem exists_of_value?_inside {line value : Text} {lines : List Text}
    (h : line :: lines <:+ inside)
    (hvalue : value? (Text.joinLines (line :: (lines ++ closing :: after))) = some value) :
    ∃ line ∈ inside, "provider".toList <+: line ∧ '"' :: value ++ ['"'] <:+: line := by
  obtain ⟨before, behind, tail, -, -, -, hline⟩ :=
    exists_of_value?_joinLines (by simp) (next_inside hclosing hwhole h) hvalue
  refine ⟨line, h.subset (List.mem_cons_self ..), hline ▸ List.prefix_append .., ?_⟩
  exact ⟨"provider".toList ++ [before, '=', behind], tail, by simp [hline]⟩

omit hclosing hwhole in
theorem fromNonblank_suffix {first : Text} {rest : List Text} (h : first :: rest <:+ inside) :
    Text.fromNonblank rest <:+ inside :=
  (List.dropWhile_suffix _).trans ((List.suffix_cons first rest).trans h)

variable (htrim : ∀ line ∈ inside ++ closing :: after, Text.trim line = line)
  (hbreaks : ∀ line ∈ inside ++ closing :: after, '\n' ∉ line)
  (hnonblank : ∃ line ∈ inside, line ≠ [])
include htrim hbreaks hnonblank

omit hwhole in
/-- The two lines that are looked at: the first nonblank line in the block, and either the second
or, if there is none, the closing line. -/
theorem inBody?_inside :
    ∃ first rest, first :: rest <:+ inside ∧ first ≠ [] ∧
      inside.filter (!·.isEmpty) = first :: (Text.fromNonblank rest).filter (!·.isEmpty) ∧
      inBody? (Text.joinLines (inside ++ closing :: after)) =
        (value? (Text.joinLines (Text.fromNonblank rest ++ closing :: after))).or
          (value? (Text.joinLines (first :: (rest ++ closing :: after)))) := by
  have hclose : closing ≠ [] := by
    obtain ⟨rest, rfl⟩ := closesBlock_iff.1 hclosing
    simp
  have hsuffix : Text.fromNonblank inside <:+ inside := List.dropWhile_suffix _
  cases hfirst : Text.fromNonblank inside with
  | nil =>
    obtain ⟨line, hline, hne⟩ := hnonblank
    exact absurd (by simpa using List.dropWhile_eq_nil_iff.1 hfirst line hline) hne
  | cons first rest =>
    have hne : first ≠ [] := Text.ne_nil_of_fromNonblank hfirst
    refine ⟨first, rest, hfirst ▸ hsuffix, hne, ?_, ?_⟩
    · rw [Text.filter_eq_filter_fromNonblank, hfirst, List.filter_cons_of_pos (by simpa using hne),
        Text.filter_eq_filter_fromNonblank rest]
    · rw [inBody?_joinLines htrim hbreaks, Text.fromNonblank_append_cons hclose, hfirst,
        List.cons_append, List.tail_cons, Text.fromNonblank_append_cons hclose]

theorem isSome_inBody?_inside_iff :
    (inBody? (Text.joinLines (inside ++ closing :: after))).isSome = true ↔
      ∃ line ∈ (inside.filter (!·.isEmpty)).take 2, IsAssignment line := by
  obtain ⟨first, rest, hsuffix, -, hfilter, hbody⟩ :=
    inBody?_inside hclosing htrim hbreaks hnonblank
  have hinside : ∀ line ∈ inside, '\n' ∉ line := fun line h => hbreaks line (by simp [h])
  have hfirst : (value? (Text.joinLines (first :: (rest ++ closing :: after)))).isSome = true ↔
      IsAssignment first := isSome_value?_inside_iff hclosing hwhole hinside hsuffix
  rw [hbody, hfilter, Option.isSome_or, Bool.or_eq_true, hfirst]
  cases hsecond : Text.fromNonblank rest with
  | nil => simp [value?_closing hclosing]
  | cons second lines =>
    have hlater : second :: lines <:+ inside := hsecond ▸ fromNonblank_suffix hsuffix
    have hne : second ≠ [] := Text.ne_nil_of_fromNonblank hsecond
    rw [List.cons_append, isSome_value?_inside_iff hclosing hwhole hinside hlater,
      List.filter_cons_of_pos (by simpa using hne)]
    simp [or_comm]

theorem exists_of_inBody?_inside {value : Text}
    (h : inBody? (Text.joinLines (inside ++ closing :: after)) = some value) :
    ∃ line ∈ inside, "provider".toList <+: line ∧ '"' :: value ++ ['"'] <:+: line := by
  obtain ⟨first, rest, hsuffix, -, -, hbody⟩ := inBody?_inside hclosing htrim hbreaks hnonblank
  rw [hbody, Option.or_eq_some_iff] at h
  rcases h with hsecond | ⟨-, hfirst⟩
  · cases hlines : Text.fromNonblank rest with
    | nil =>
      rw [hlines, List.nil_append, value?_closing hclosing] at hsecond
      contradiction
    | cons second lines =>
      rw [hlines] at hsecond
      exact exists_of_value?_inside hclosing hwhole (hlines ▸ fromNonblank_suffix hsuffix) hsecond
  · exact exists_of_value?_inside hclosing hwhole hsuffix hfirst

end

end Provider

-- ---------------------------------------------------------------------------
-- The lines around a block
-- ---------------------------------------------------------------------------

theorem Block.exists_lines_eq {lines : List Text} {block : Block}
    (htrim : ∀ line ∈ lines, Text.trim line = line) (h : block ∈ Block.scan lines)
    (hcloses : ClosesAt lines block.range.stop.line) :
    ∃ (spelling : HeaderSpelling) (closing : Text) (after : List Text),
      spelling.kind = block.kind ∧ spelling.name = block.name ∧
      Text.lineOf lines block.range.start.line = spelling.line ∧ closesBlock closing = true ∧
      lines.drop (block.range.start.line + 1) = block.inside lines ++ closing :: after ∧
      lines = lines.take block.range.start.line ++
        spelling.line :: (block.inside lines ++ closing :: after) := by
  obtain ⟨opening, stop, hheader, rfl, hle⟩ := exists_header_of_mem_scan h
  replace hcloses : ClosesAt lines stop.line := hcloses
  have hstop : stop.line < lines.length := hcloses.lt_length
  have hlt : opening.line < stop.line := by
    refine Nat.lt_of_le_of_ne hle fun heq => ?_
    have hnone := Header.ofLine?_eq_none_of_closesBlock hcloses
    rw [← heq, hheader] at hnone
    contradiction
  have hstart : opening.line < lines.length := Nat.lt_trans hlt hstop
  have hmem : Text.lineOf lines opening.line ∈ lines :=
    List.mem_of_getElem? (Text.getElem?_eq_some_lineOf hstart)
  obtain ⟨spelling, hline, hspelled⟩ :=
    Header.exists_spelling (Text.trimStart_eq_self (htrim _ hmem)) hheader
  have hinside : Block.inside lines (opening.endingAt stop) =
      (lines.take stop.line).drop (opening.line + 1) := rfl
  have hbelow : lines.drop (opening.line + 1) = Block.inside lines (opening.endingAt stop) ++
      Text.lineOf lines stop.line :: lines.drop (stop.line + 1) := by
    have hlength : opening.line + 1 ≤ (lines.take stop.line).length := by
      rwa [List.length_take_of_le hstop.le]
    rw [← Text.drop_eq_lineOf_cons hstop, hinside, ← List.drop_append_of_le_length hlength,
      List.take_append_drop]
  refine ⟨spelling, Text.lineOf lines stop.line, lines.drop (stop.line + 1),
    congrArg Header.kind hspelled, congrArg Header.name hspelled, hline.symm, hcloses, hbelow, ?_⟩
  calc lines
    _ = lines.take opening.line ++ lines.drop opening.line := (List.take_append_drop ..).symm
    _ = _ := by rw [Text.drop_eq_lineOf_cons hstart, hbelow, ← hline]; rfl

theorem datasourceName?_append_header {before rest : List Text} {spelling : HeaderSpelling}
    (hbefore : ∀ line ∈ before, "datasource".toList <:+: line → '{' ∉ line)
    (hkind : spelling.kind = .datasource) :
    datasourceName? (before ++ spelling.line :: rest) = some spelling.name := by
  obtain ⟨hbrace, hfirst, hname, -⟩ :=
    Header.ofLine?_eq_some_iff.1 (Header.ofLine?_line spelling)
  have hpassed : before.find? (fun line =>
      "datasource".toList.isPrefixOf line && line.contains '{') = none := by
    refine List.find?_eq_none.2 fun line hline hfound => ?_
    rw [Bool.and_eq_true, List.isPrefixOf_iff_prefix, List.contains_iff_mem] at hfound
    exact hbefore line hline hfound.1.isInfix hfound.2
  have hmention : "datasource".toList <+: spelling.line := by
    rw [HeaderSpelling.line, hkind]
    exact List.prefix_append ..
  rw [datasourceName?, List.find?_append, hpassed, Option.none_or, List.find?_cons_of_pos
    (by rw [Bool.and_eq_true, List.isPrefixOf_iff_prefix, List.contains_iff_mem]
        exact ⟨hmention, hbrace⟩)]
  rw [HeaderSpelling.header, hkind] at hname
  exact congrArg some hname.symm

/-- Where the first datasource block is written plainly, the name that is found is its name. The
provider is one that a line inside the block assigns, if one of the first two nonblank lines there
assigns any. Otherwise the search passes the block over, and takes what it finds below the
header. -/
theorem provider_of_first_datasource {lines : List Text} {block : Block}
    (htrim : ∀ line ∈ lines, Text.trim line = line) (hbreaks : ∀ line ∈ lines, '\n' ∉ line)
    (hfirst : (Block.scan lines).find? (·.kind = .datasource) = some block)
    (hplain : block.WrittenPlainly lines) (hnonblank : ∃ line ∈ block.inside lines, line ≠ []) :
    datasourceName? lines = some block.name ∧
    ((∃ line ∈ ((block.inside lines).filter (!·.isEmpty)).take 2, Provider.IsAssignment line) →
      ∀ value, datasourceProvider? lines = some value →
        ∃ line ∈ block.inside lines, "provider".toList <+: line ∧ '"' :: value ++ ['"'] <:+: line) ∧
    ((∀ line ∈ ((block.inside lines).filter (!·.isEmpty)).take 2, ¬ Provider.IsAssignment line) →
      datasourceProvider? lines =
        datasourceProvider? (lines.drop (block.range.start.line + 1))) := by
  have hkind : block.kind = .datasource := by simpa using List.find?_some hfirst
  obtain ⟨spelling, closing, after, hspelled, hname, hheader, hclosing, hbelow, hlines⟩ :=
    Block.exists_lines_eq htrim (List.mem_of_find?_eq_some hfirst) hplain.closes
  rw [hkind] at hspelled
  obtain ⟨front, hbrace, hends⟩ := hplain.header_ends
  rw [hheader] at hends
  have hbody : ∀ line ∈ block.inside lines ++ closing :: after, line ∈ lines := by
    rw [← hbelow]
    exact fun line hline => List.mem_of_mem_drop hline
  have htrim' := fun line hline => htrim line (hbody line hline)
  have hbreaks' := fun line hline => hbreaks line (hbody line hline)
  have hsearch : Provider.search? (Text.joinLines lines) =
      (Provider.inBody? (Text.joinLines (block.inside lines ++ closing :: after))).or
        (Provider.search? (Text.joinLines (block.inside lines ++ closing :: after))) := by
    have hbreak : '\n' ∉ front ++ ['{'] := hends ▸ hbreaks _ (by rw [hlines]; simp)
    have hmention : "datasource".toList <+: front := by
      have hbrace : ∀ c ∈ ['{'].head?, c ∉ "datasource".toList := by simp
      rw [← Text.isPrefix_append_iff_of_head? hbrace, ← hends, HeaderSpelling.line, hspelled]
      exact List.prefix_append ..
    conv_lhs => rw [hlines, hends]
    rw [Provider.search?_joinLines_append hplain.no_other_above (List.cons_ne_nil _ _)]
    exact Provider.search?_joinLines_opening hbrace (fun hmem => hbreak (by simp [hmem])) hmention
      (by simp)
  have hsome := Provider.isSome_inBody?_inside_iff hclosing hplain.no_broken_assignment htrim'
    hbreaks' hnonblank
  refine ⟨?_, ?_, ?_⟩
  · rw [hlines, datasourceName?_append_header hplain.no_other_above hspelled, hname]
  · intro hassigned value hvalue
    obtain ⟨found, hfound⟩ := Option.isSome_iff_exists.1 (hsome.2 hassigned)
    rw [datasourceProvider?, hsearch, hfound, Option.some_or] at hvalue
    obtain ⟨heq, -⟩ := Option.filter_eq_some_iff.1 hvalue
    cases heq
    exact Provider.exists_of_inBody?_inside hclosing hplain.no_broken_assignment htrim' hbreaks'
      hnonblank hfound
  · intro hnone
    have hpassed := mt hsome.1 (by simpa using hnone)
    rw [Bool.not_eq_true, Option.isSome_eq_false_iff, Option.isNone_iff_eq_none] at hpassed
    rw [datasourceProvider?, hsearch, hpassed, Option.none_or, datasourceProvider?, hbelow]

/-- The provider of the first of two datasources, on the second nonblank line of its block. -/
theorem provider_of_first_of_two :
    let lines := ["generator g \x7b".toList, ['}'], "datasource my db \x7b".toList, [],
      "url = env(\"A\")".toList, [], "provider = \"sqlite\" // \"x\"".toList, ['}'],
      "datasource b \x7b".toList, "provider = \"x\"".toList, ['}']]
    let block : Block := ⟨.datasource, ⟨⟨2, 0⟩, ⟨7, 1⟩⟩, ⟨⟨2, 11⟩, ⟨2, 16⟩⟩, "my db".toList⟩
    (Block.scan lines).find? (·.kind = .datasource) = some block ∧
      datasourceName? lines = some block.name ∧
      datasourceProvider? lines = some "sqlite\" // \"x".toList ∧
      ∃ line ∈ block.inside lines, "provider".toList <+: line ∧
        "\"sqlite\" // \"x\"".toList <:+: line := by
  intro lines block
  have hfirst : (Block.scan lines).find? (·.kind = .datasource) = some block := by decide +kernel
  have hplain : block.WrittenPlainly lines :=
    ⟨show closesBlock (Text.lineOf lines 7) = true by decide +kernel,
      ⟨"datasource my db ".toList, by decide +kernel⟩, by decide +kernel, by decide +kernel⟩
  obtain ⟨hname, hassigned, -⟩ := provider_of_first_datasource (by decide +kernel)
    (by decide +kernel) hfirst hplain (by decide +kernel)
  have hprovider : datasourceProvider? lines = some "sqlite\" // \"x".toList := by decide +kernel
  refine ⟨hfirst, hname, hprovider, hassigned ?_ _ hprovider⟩
  refine ⟨"provider = \"sqlite\" // \"x\"".toList, by decide +kernel, ?_⟩
  exact ⟨' ', ' ', "sqlite\" // \"x".toList, [], by decide +kernel⟩

/-- A first datasource without a provider comes out with the provider of the second one. -/
theorem provider_of_later_datasource :
    let lines := ["datasource a \x7b".toList, "url = env(\"A\")".toList, ['}'],
      "datasource b \x7b".toList, "provider = \"x\"".toList, ['}']]
    let block : Block := ⟨.datasource, ⟨⟨0, 0⟩, ⟨2, 1⟩⟩, ⟨⟨0, 11⟩, ⟨0, 12⟩⟩, ['a']⟩
    (∀ line ∈ lines, Text.trim line = line) ∧
      (Block.scan lines).find? (·.kind = .datasource) = some block ∧
      datasourceName? lines = some block.name ∧ datasourceProvider? lines = some ['x'] ∧
      ¬ ∃ line ∈ block.inside lines, "provider".toList <+: line ∧ "\"x\"".toList <:+: line := by
  decide +kernel

end SchemaAssist
