import SchemaAssist.Proofs.Block.Locating
import SchemaAssist.Proofs.Lists.Ordered

/-!
# Looking up a name

`namesakes` are the model, type, enum and view blocks of a name, found by looking at every block.
The lookup looks only at lines on which the name and a keyword occur, and at the block that covers
each. It comes to the same blocks in the same order (`candidates_eq_namesakes`): the header line of
each of them is looked at, and is covered by no other block.
-/

namespace SchemaAssist

/-- The model, type, enum and view blocks of that name. -/
def Block.namesakes (name : Text) (lines : List Text) : List Block :=
  (Block.scan lines).filter fun block => block.name = name ∧ block.kind ∈ Kind.named

theorem mem_namesakes_iff {name : Text} {lines : List Text} {block : Block} :
    block ∈ Block.namesakes name lines ↔
      block ∈ Block.scan lines ∧ block.name = name ∧ block.kind ∈ Kind.named := by
  rw [Block.namesakes, List.mem_filter, decide_eq_true_iff]

theorem not_mayDeclare_nil (name : Text) : mayDeclare name [] = false := by
  have hkeyword : Kind.named.any (fun kind => Text.mentions kind.keyword []) = false := by decide
  rw [mayDeclare, hkeyword, Bool.and_false]

theorem mem_candidateLines {name : Text} {lines : List Text} {number : Nat} :
    number ∈ candidateLines name lines ↔ mayDeclare name (Text.lineOf lines number) = true := by
  rw [candidateLines, List.mem_map]
  constructor
  · rintro ⟨⟨line, number⟩, hmem, rfl⟩
    obtain ⟨hline, hdeclares⟩ := List.mem_filter.1 hmem
    rw [Text.lineOf, List.mk_mem_zipIdx_iff_getElem?.1 hline]
    exact hdeclares
  · intro hdeclares
    cases hline : lines[number]? with
    | none =>
      rw [Text.lineOf, hline] at hdeclares
      exact absurd hdeclares (by simp [not_mayDeclare_nil])
    | some line =>
      rw [Text.lineOf, hline] at hdeclares
      exact ⟨(line, number),
        List.mem_filter.2 ⟨List.mk_mem_zipIdx_iff_getElem?.2 hline, hdeclares⟩, rfl⟩

theorem pairwise_candidateLines (name : Text) (lines : List Text) :
    (candidateLines name lines).Pairwise (· < ·) := by
  have hsublist : (candidateLines name lines).Sublist (List.range' 0 lines.length) := by
    rw [← List.zipIdx_map_snd]
    exact List.filter_sublist.map _
  have hrange : (List.range' 0 lines.length).Pairwise (· < ·) := List.pairwise_lt_range'
  exact hrange.sublist hsublist

theorem mayDeclare_header {line : Text} {header : Header} (h : Header.ofLine? line = some header)
    (hkind : header.kind ∈ Kind.named) : mayDeclare header.name line = true := by
  obtain ⟨-, -, hname, -⟩ := Header.ofLine?_eq_some_iff.1 h
  have hmiddle : header.name <:+: line := by
    rw [hname, Header.middle]
    exact ((Text.trim_infix _).trans (List.takeWhile_prefix _).isInfix).trans
      (List.drop_suffix _ line).isInfix
  rw [mayDeclare, Bool.and_eq_true, List.any_eq_true]
  exact ⟨Text.mentions_iff.2 hmiddle, header.kind, hkind,
    Text.mentions_iff.2 (Header.isInfix_keyword h)⟩

theorem mem_candidates {name : Text} {lines : List Text} {block : Block} :
    block ∈ candidates name lines ↔ block ∈ Block.namesakes name lines := by
  simp only [candidates, Block.namesakes, List.mem_eraseDups, List.mem_filter,
    List.mem_filterMap, covering?_scan_eq_some_iff]
  constructor
  · rintro ⟨⟨_, _, hblock, -⟩, hname⟩
    exact ⟨hblock, hname⟩
  · rintro ⟨hblock, hname⟩
    refine ⟨?_, hname⟩
    obtain ⟨opening, stop, hheader, rfl, hle⟩ := exists_header_of_mem_scan hblock
    obtain ⟨rfl, hkind⟩ := of_decide_eq_true hname
    refine ⟨opening.line, mem_candidateLines.2 (mayDeclare_header hheader hkind), hblock, ?_⟩
    exact ⟨Int.le_refl _, Int.ofNat_le.2 hle⟩

theorem eq_or_start_lt_of_covers {lines : List Text} {line line' : Nat} (hlt : line < line')
    {block other : Block} (hblock : Block.covering? line (Block.scan lines) = some block)
    (hother : Block.covering? line' (Block.scan lines) = some other) :
    block = other ∨ block.range.start.line < other.range.start.line := by
  obtain ⟨hmem, hcovers⟩ := covering?_scan_eq_some_iff.1 hblock
  obtain ⟨hmem', hcovers'⟩ := covering?_scan_eq_some_iff.1 hother
  rcases above_or_above (pairwise_above_scan lines) hmem hmem' with rfl | habove | habove
  · exact .inl rfl
  · exact .inr (Nat.lt_of_le_of_lt (start_le_stop_of_mem_scan hmem) habove)
  · have hstart : block.range.start.line ≤ line := Int.ofNat_le.1 hcovers.1
    have hstop : line' ≤ other.range.stop.line := Int.ofNat_le.1 hcovers'.2
    exact absurd (Nat.lt_trans (Nat.lt_of_le_of_lt hstop habove) (Nat.lt_of_le_of_lt hstart hlt))
      (Nat.lt_irrefl _)

theorem pairwise_candidates (name : Text) (lines : List Text) :
    (candidates name lines).Pairwise (·.range.start.line < ·.range.start.line) := by
  refine pairwise_eraseDups _ (List.Pairwise.filter _ (List.pairwise_filterMap.2 ?_))
  refine (pairwise_candidateLines name lines).imp ?_
  intro line line' hlt block hblock other hother
  exact eq_or_start_lt_of_covers hlt hblock hother

theorem pairwise_start_scan (lines : List Text) :
    (Block.scan lines).Pairwise (·.range.start.line < ·.range.start.line) := by
  refine (pairwise_above_scan lines).imp_of_mem ?_
  intro block other hblock _ habove
  exact Nat.lt_of_le_of_lt (start_le_stop_of_mem_scan hblock) habove

/-- The lines that are looked at lead to all blocks of the name and to no others, each once. -/
theorem candidates_eq_namesakes (name : Text) (lines : List Text) :
    candidates name lines = Block.namesakes name lines :=
  eq_of_mem_iff_of_pairwise (pairwise_candidates name lines)
    ((pairwise_start_scan lines).sublist List.filter_sublist) (fun _ => Nat.lt_irrefl _)
    (fun _ _ => Nat.lt_asymm) fun _ => mem_candidates

theorem named?_eq_some_iff {name : Text} {lines : List Text} {block : Block} :
    Block.named? name lines = some block ↔ Block.namesakes name lines = [block] := by
  rw [Block.named?, candidates_eq_namesakes]
  constructor
  · intro h
    split at h
    · next only heq => rw [heq, Option.some.inj h]
    · contradiction
  · intro h
    rw [h]

theorem mem_scan_of_named? {name : Text} {lines : List Text} {block : Block}
    (h : Block.named? name lines = some block) :
    block ∈ Block.scan lines ∧ block.name = name ∧ block.kind ∈ Kind.named := by
  rw [← mem_namesakes_iff, named?_eq_some_iff.1 h]
  exact List.mem_singleton_self block

theorem nodup_scan (lines : List Text) : (Block.scan lines).Nodup := by
  refine (pairwise_start_scan lines).imp ?_
  rintro block _ hlt rfl
  exact Nat.lt_irrefl _ hlt

/-- The lookup finds a block exactly if it is the only model, type, enum or view block of that name,
and nothing exactly if there is none or there are several. The blocks that it comes to are all those
of the name, in the order of the scan, and equal blocks are one and the same. -/
theorem named?_finds_only_namesake (name : Text) (lines : List Text) :
    (∀ block, Block.named? name lines = some block ↔ Block.namesakes name lines = [block]) ∧
    (Block.named? name lines = none ↔
      Block.namesakes name lines = [] ∨ 2 ≤ (Block.namesakes name lines).length) ∧
    candidates name lines = Block.namesakes name lines ∧
    (Block.scan lines).Nodup := by
  refine ⟨fun _ => named?_eq_some_iff, ?_, candidates_eq_namesakes name lines, nodup_scan lines⟩
  rw [Block.named?, candidates_eq_namesakes]
  constructor
  · intro h
    cases hlist : Block.namesakes name lines with
    | nil => exact .inl rfl
    | cons first rest =>
      cases rest with
      | nil => simp [hlist] at h
      | cons second rest => exact .inr (Nat.le_add_left 2 rest.length)
  · rintro (hnil | htwo)
    · rw [hnil]
    · split
      · next only heq =>
        simp [heq] at htwo
      · rfl

end SchemaAssist
