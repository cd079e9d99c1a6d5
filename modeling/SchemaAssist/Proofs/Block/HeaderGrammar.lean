import SchemaAssist.Proofs.Block.HeaderSpelling

/-!
# The grammar of header lines

Every line that is put together as a header is read as the header that it spells. A line without
whitespace in front that is read can be taken apart in one way only, and that is how it is read
(`header_lines_spelled_once`).
-/

namespace SchemaAssist

theorem HeaderSpelling.header_eq_of_line_eq {spelling other : HeaderSpelling}
    (h : spelling.line = other.line) : spelling.header = other.header := by
  have hread := Header.ofLine?_line spelling
  rw [h, Header.ofLine?_line] at hread
  exact (Option.some.inj hread).symm

theorem HeaderSpelling.eq_of_line_eq {spelling other : HeaderSpelling}
    (h : spelling.line = other.line) : spelling = other := by
  have hheader := header_eq_of_line_eq h
  obtain ⟨kind, gap, name, filler, rest, _, _, _, _, _, hfiller⟩ := spelling
  obtain ⟨kind', gap', name', filler', rest', _, _, _, _, _, hfiller'⟩ := other
  simp only [header, Header.mk.injEq] at hheader
  obtain ⟨rfl, rfl, hcolumn⟩ := hheader
  simp only [line, List.append_assoc, List.append_cancel_left_eq] at h
  obtain ⟨rfl, htail⟩ := List.append_inj h (Nat.add_left_cancel hcolumn)
  have hbehind : filler ++ '{' :: rest = filler' ++ '{' :: rest' := List.append_cancel_left htail
  -- What is left starts with the filler and a brace, and a brace is no whitespace.
  have hindent := congrArg Text.indent hbehind
  rw [Text.indent_append hfiller Header.isSpace_brace,
    Text.indent_append hfiller' Header.isSpace_brace] at hindent
  subst hindent
  simp only [List.append_cancel_left_eq, List.cons.injEq, true_and] at hbehind
  subst hbehind
  rfl

/-- A keyword, a gap, a name without braces and without whitespace around it, perhaps more
whitespace, and a brace: whatever stands behind it, this is read as a header of that kind and name,
with the name where it stands. A line without whitespace in front that is read as a header is such a
line, in one way only, and the header that is read is the one of that spelling. -/
theorem header_lines_spelled_once :
    (∀ (number : Nat) (kind : Kind) (gap name filler rest : Text), gap ≠ [] → Text.Blank gap →
      name ≠ [] → '{' ∉ name → (∀ c ∈ name.head?, Text.isSpace c = false) →
      (∀ c ∈ name.getLast?, Text.isSpace c = false) → Text.Blank filler →
      ∃ header,
        Header.ofLine? (kind.keyword ++ gap ++ name ++ filler ++ '{' :: rest) = some header ∧
          header.kind = kind ∧ header.name = name ∧
          header.nameRange number = ⟨⟨number, kind.keyword.length + gap.length⟩,
            ⟨number, kind.keyword.length + gap.length + name.length⟩⟩) ∧
    ∀ (line : Text) (header : Header), (∀ c ∈ line.head?, Text.isSpace c = false) →
      Header.ofLine? line = some header →
      ∃ spelling : HeaderSpelling, spelling.line = line ∧ spelling.header = header ∧
        ∀ other : HeaderSpelling, other.line = line → other = spelling := by
  constructor
  · intro number kind gap name filler rest hgap hblank hname hbrace hfirst hlast hfiller
    let spelling : HeaderSpelling := ⟨kind, gap, name, filler, rest, hgap, hblank, hname,
      Text.trim_eq_self_iff.2 ⟨hfirst, hlast⟩, hbrace, hfiller⟩
    refine ⟨spelling.header, ?_, rfl, rfl, rfl⟩
    simpa [HeaderSpelling.line, spelling] using Header.ofLine?_line spelling
  · intro line header hline hread
    obtain ⟨spelling, rfl, hheader⟩ :=
      Header.exists_spelling (Text.trimStart_eq_self_iff.2 hline) hread
    exact ⟨spelling, rfl, hheader, fun other hother => HeaderSpelling.eq_of_line_eq hother⟩

/-- A name of two words that ends in a closing brace, behind an em space, with a second opening
brace behind the first. -/
theorem spaced_name_spelled_once :
    let line := "view \u2003Ä b\x7d\t\x7b \x7b".toList
    Header.ofLine? line = some ⟨.view, "Ä b\x7d".toList, 6⟩ ∧
      ∃ spelling : HeaderSpelling, spelling.line = line ∧ spelling.name = "Ä b\x7d".toList ∧
        ∀ other : HeaderSpelling, other.line = line → other = spelling := by
  intro line
  obtain ⟨hspelled, hread⟩ := header_lines_spelled_once
  obtain ⟨hfirst, hlast⟩ := Text.trim_eq_self_iff.1
    (show Text.trim "Ä b\x7d".toList = "Ä b\x7d".toList by decide)
  have hline : ∀ c ∈ line.head?, Text.isSpace c = false := Text.trimStart_eq_self_iff.1 (by decide)
  obtain ⟨⟨kind, name, column⟩, hheader, rfl, rfl, hrange⟩ := hspelled 0 .view " \u2003".toList
    "Ä b\x7d".toList "\t".toList " \x7b".toList (by decide) (by decide) (by decide) (by decide)
    hfirst hlast (by decide)
  have hcolumn : column = 6 := congrArg (·.start.character) hrange
  subst hcolumn
  obtain ⟨spelling, hspells, hspelling, hunique⟩ := hread line _ hline hheader
  exact ⟨hheader, spelling, hspells, congrArg Header.name hspelling, hunique⟩

end SchemaAssist
