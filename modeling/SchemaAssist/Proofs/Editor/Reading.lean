import Mathlib.Data.List.Infix
import SchemaAssist.Editor.Reading
import SchemaAssist.Proofs.Block.CheckedScan
import SchemaAssist.Proofs.Block.Lookup
import SchemaAssist.Proofs.Editor.Runs
import SchemaAssist.Proofs.Field.Declarations

/-!
# Reading gives what is there

Taken step by step, the scan, the lookups and the fields give what their plain forms say, whatever
the lines hold (`gives_forBlocks`, `gives_blockNamed?`, `gives_fieldIndex`). All that is noted on
the way are the blocks that no closing line ends.
-/

namespace SchemaAssist

/-- The note of a block of the lines that ends above a header, and not at a closing line. -/
def Recovery (lines : List Text) (entry : LogEntry) : Prop :=
  ∃ block ∈ Block.scan lines, ¬ ClosesAt lines block.range.stop.line ∧
    entry = recoveryNote block.kind block.name block.range.stop.line

-- ---------------------------------------------------------------------------
-- Headers
-- ---------------------------------------------------------------------------

theorem head?_words_of_brace {line : Text} (h : '{' ∈ line) :
    (Text.words line).head? = some (Header.firstToken line) := by
  have hstart : Text.trimStart line ≠ [] := by
    intro hnil
    have hspace := List.dropWhile_eq_nil_iff.1 hnil '{' h
    rw [Header.isSpace_brace] at hspace
    contradiction
  rw [Text.words_eq_cons hstart]
  rfl

theorem take_indexOf?_singleton {c : Char} {text : Text} {index : Nat}
    (h : Text.indexOf? [c] text = some index) : text.take index = text.takeWhile (· != c) := by
  induction text generalizing index with
  | nil => simp
  | cons d text ih =>
    by_cases hd : d = c
    · subst hd
      simp_all [Text.indexOf?]
    · simp only [Text.indexOf?, List.isPrefixOf, beq_eq_false_iff_ne.2 (Ne.symm hd), Bool.false_and,
        Bool.false_eq_true, if_false, Option.map_eq_some_iff] at h
      obtain ⟨index, hindex, rfl⟩ := h
      simp [hd, ih hindex]

theorem Header.brace_not_mem_take {kind : Kind} {line : Text}
    (h : Header.firstToken line = kind.keyword) : '{' ∉ line.take kind.keyword.length := by
  have hparts : line = (Text.indent line ++ kind.keyword) ++
      (Text.trimStart line).dropWhile (!Text.isSpace ·) := by
    rw [← h, List.append_assoc, Header.firstToken, List.takeWhile_append_dropWhile]
    exact (Text.indent_append_trimStart line).symm
  have hlead : '{' ∉ Text.indent line ++ kind.keyword := by
    rw [List.mem_append, not_or]
    exact ⟨Header.brace_not_mem_of_blank (Text.blank_indent line), kind.brace_not_mem_keyword⟩
  intro hmem
  rw [hparts, List.take_append_of_le_length (by simp)] at hmem
  exact hlead (List.mem_of_mem_take hmem)

theorem Header.drop_take_brace {kind : Kind} {line : Text} {brace : Nat}
    (h : Header.firstToken line = kind.keyword) (hbrace : Text.indexOf? ['{'] line = some brace) :
    (line.take brace).drop kind.keyword.length = middle kind line := by
  have hlead : ∀ c ∈ line.take kind.keyword.length, (c != '{') = true := by
    intro c hc
    simpa using fun he : c = '{' => brace_not_mem_take h (he ▸ hc)
  have hlength : kind.keyword.length ≤ line.length := by
    rw [← h, firstToken]
    exact ((List.takeWhile_sublist _).trans (List.dropWhile_sublist _)).length_le
  rw [take_indexOf?_singleton hbrace, middle]
  nth_rewrite 1 [← List.take_append_drop kind.keyword.length line]
  rw [List.takeWhile_append_of_pos hlead, List.drop_left' (List.length_take_of_le hlength)]

namespace Run

variable {fault : Failure → Prop} {noted : LogEntry → Prop}

theorem gives_header? (number : Nat) (line : Text) :
    Gives fault noted (header? number line) (Header.ofLine? line) := by
  unfold header? Header.ofLine?
  by_cases hbrace : '{' ∈ line
  case neg => simpa [hbrace] using gives_pure none
  simp only [hbrace, not_true_eq_false, if_false, if_true]
  refine (gives_need (head?_words_of_brace hbrace)).bind ?_
  cases hkind : Kind.ofKeyword? (Header.firstToken line) with
  | none =>
    have hother : Header.firstToken line ∉ Kind.all.map Kind.keyword := by
      simpa [Kind.ofKeyword?] using hkind
    simpa [hother] using gives_pure none
  | some kind =>
    have hfirst := Kind.ofKeyword?_eq_some_iff.1 hkind
    have hkeyword : kind.keyword ∈ Kind.all.map Kind.keyword := by cases kind <;> decide
    obtain ⟨brace, hfound⟩ := Option.isSome_iff_exists.1
      (Text.isSome_indexOf?.2 ((List.singleton_infix_iff _ _).2 hbrace))
    simp only [hfirst, hkeyword, not_true_eq_false, if_false, Option.bind_some]
    refine (gives_need hfound).bind ?_
    simp only [Header.drop_take_brace hfirst hfound]
    split
    · exact gives_pure none
    · have hchecked : BlockDraft.checkKind (some kind.keyword) = .ok kind := by
        rw [BlockDraft.checkKind, ← hfirst, hkind]
      refine (gives_check (Range.ofCorners_onLine number (Nat.le_add_right _ _))).bind ?_
      exact (gives_check hchecked).bind (gives_pure _)

end Run

-- ---------------------------------------------------------------------------
-- Blocks
-- ---------------------------------------------------------------------------

/-- The line above the one to be read closes no block: it is the header, or stands below it. -/
theorem StillOpen.not_closesAt {lines : List Text} {number above : Nat} {opening : Opening}
    (h : StillOpen lines number above opening) : ¬ ClosesAt lines (number - 1) := by
  intro hcloses
  rcases Nat.lt_or_eq_of_le (Nat.le_sub_one_of_lt h.line_lt) with hlt | heq
  · exact h.unclosed _ hlt (Nat.sub_one_lt_of_lt h.line_lt) hcloses
  · have hheader := h.isHeader
    rw [heq, Header.ofLine?_eq_none_of_closesBlock hcloses] at hheader
    contradiction

namespace Run

variable {fault : Failure → Prop} {noted : LogEntry → Prop} {lines rest : List Text}
  {number above : Nat} {line : Text} {opened : Option Opening}

theorem gives_ended? (hdrop : lines.drop number = line :: rest)
    (hopen : ∀ opening ∈ opened, StillOpen lines number above opening)
    (hscan : ∀ block ∈ (scanLine opened number above line).1, block ∈ Block.scan lines) :
    Gives fault (Recovery lines) (ended? lines opened number line (Header.ofLine? line))
      (scanLine opened number above line).1 := by
  unfold scanLine at hscan ⊢
  cases opened with
  | none => cases Header.ofLine? line <;> exact gives_pure none
  | some opening =>
    have hstill := hopen opening rfl
    cases hheader : Header.ofLine? line with
    | some header =>
      simp only [hheader, Option.mem_def, Option.some.injEq, forall_eq'] at hscan
      have hlt : number < lines.length := by
        by_contra hge
        simp [List.drop_eq_nil_of_le (Nat.le_of_not_lt hge)] at hdrop
      have habove := Text.getElem?_eq_some_lineOf (Nat.lt_of_le_of_lt (Nat.sub_le number 1) hlt)
      have hblock := hstill.checkedEndingAt_above
      rw [← hstill.above_eq] at hblock
      refine (gives_note ⟨_, hscan, hstill.not_closesAt, rfl⟩).bind ?_
      refine (gives_need habove).bind ?_
      refine (gives_check hblock).bind ?_
      rw [hstill.above_eq]
      exact gives_pure _
    | none =>
      unfold ended?
      cases closesBlock line with
      | true => exact (gives_check hstill.checkedEndingAt_closing).bind (gives_pure _)
      | false => exact gives_pure none

theorem gives_opened? (number above : Nat) (line : Text) (opened : Option Opening) :
    Gives fault noted (opened? opened number line (Header.ofLine? line))
      (scanLine opened number above line).2 := by
  rcases line_cases line with ⟨header, hheader⟩ | hclosing | ⟨hheader, hclosing⟩
  · rw [scanLine_header hheader, hheader]
    exact (gives_check (Position.check_natCast [] number 0)).bind (gives_pure _)
  · rw [scanLine_closing hclosing, Header.ofLine?_eq_none_of_closesBlock hclosing]
    simpa [opened?, hclosing] using gives_pure none
  · rw [scanLine_other hheader hclosing, hheader]
    simpa [opened?, hclosing] using gives_pure opened

def visitAll {σ : Type} (visit : σ → Block → ForInStep σ) (state : σ) : List Block → σ
  | [] => state
  | block :: rest =>
    match visit state block with
    | .done state => state
    | .yield state => visitAll visit state rest

section
variable {σ : Type} {visitRun : σ → Block → Run (ForInStep σ)} {visit : σ → Block → ForInStep σ}

theorem gives_forBlocksFrom (hvisit : ∀ block ∈ Block.scan lines, ∀ state,
      Gives fault (Recovery lines) (visitRun state block) (visit state block))
    (hdrop : lines.drop number = rest)
    (hopen : ∀ opening ∈ opened, StillOpen lines number above opening)
    (hscan : ∀ block ∈ scanFrom opened number above rest, block ∈ Block.scan lines) (state : σ) :
    Gives fault (Recovery lines) (forBlocksFrom lines visitRun opened number rest state)
      (visitAll visit state (scanFrom opened number above rest)) := by
  induction rest generalizing opened number above state with
  | nil => exact gives_pure state
  | cons line rest ih =>
    rw [scanFrom] at hscan ⊢
    have hended : ∀ block ∈ (scanLine opened number above line).1, block ∈ Block.scan lines :=
      fun block hmem => hscan block (List.mem_append_left _ (Option.mem_toList.2 hmem))
    have hbelow (state : σ) := ih (drop_succ_of_drop hdrop) (stillOpen_scanLine hdrop hopen)
      (fun block hmem => hscan block (List.mem_append_right _ hmem)) state
    rw [forBlocksFrom]
    refine (gives_header? number line).bind ?_
    refine (gives_ended? hdrop hopen hended).bind ?_
    cases hblock : (scanLine opened number above line).1 with
    | none =>
      refine (gives_pure (ForInStep.yield state)).bind ?_
      exact (gives_opened? number above line opened).bind (hbelow state)
    | some block =>
      refine (hvisit block (hended block hblock) state).bind ?_
      simp only [Option.toList_some, List.singleton_append, visitAll]
      cases visit state block with
      | done state => exact gives_pure state
      | yield state => exact (gives_opened? number above line opened).bind (hbelow state)

theorem gives_forBlocks (hvisit : ∀ block ∈ Block.scan lines, ∀ state,
      Gives fault (Recovery lines) (visitRun state block) (visit state block)) (state : σ) :
    Gives fault (Recovery lines) (forBlocks lines visitRun state)
      (visitAll visit state (Block.scan lines)) :=
  (gives_check (Position.check_natCast [] 0 0)).bind
    (gives_forBlocksFrom hvisit rfl (by simp) (fun _ hmem => hmem) state)

end

theorem gives_blockAt? (line : Int) (lines : List Text) :
    Gives fault (Recovery lines) (blockAt? line lines) (Block.at? line lines) := by
  have hloop : ∀ blocks, visitAll (fun (_ : Option Block) block =>
      if line < (block.range.start.line : Int) then ForInStep.done none
      else if block.range.CoversLine line then .done (some block) else .yield none) none blocks =
      Block.covering? line blocks := by
    intro blocks
    induction blocks with
    | nil => rfl
    | cons block rest ih =>
      rw [visitAll, Block.covering?, ← ih]
      split_ifs <;> rfl
  rw [Block.at?, ← hloop]
  exact gives_forBlocks (fun _ _ _ => gives_pure _) none

theorem gives_blockNamed? (name : Text) (lines : List Text) :
    Gives fault (Recovery lines) (blockNamed? name lines) (Block.named? name lines) := by
  have hcandidates : ((((candidateLines name lines).map fun (number : Nat) =>
      Block.at? number lines).filterMap id).filter fun block =>
        block.name = name ∧ block.kind ∈ Kind.named).eraseDups = candidates name lines := by
    rw [List.filterMap_map]
    rfl
  unfold blockNamed?
  refine (gives_mapM fun (number : Nat) _ => gives_blockAt? number lines).bind ?_
  rw [hcandidates, Block.named?]
  rcases candidates name lines with _ | ⟨block, _ | ⟨other, rest⟩⟩
  · exact gives_pure none
  · exact (gives_need rfl).bind (gives_pure _)
  · exact gives_pure none

end Run

-- ---------------------------------------------------------------------------
-- Fields
-- ---------------------------------------------------------------------------

theorem FieldIndex.lookup_representatives {declared : List Declaration} {use : TypeUse}
    (h : use ∈ usesOf declared) :
    (representatives declared).lookup use.type = some use.firstName := by
  induction declared with
  | nil => cases h
  | cons first rest ih =>
    rw [representatives]
    rcases List.mem_cons.1 h with rfl | hlater
    · exact List.lookup_cons_self
    · obtain ⟨huse, hother⟩ := List.mem_filter.1 hlater
      have hne : use.type ≠ first.type := of_decide_eq_true hother
      rw [List.lookup_cons, beq_false_of_ne hne]
      exact (lookup_filter_ne hne _).trans (ih huse)

namespace Run

variable {fault : Failure → Prop} {noted : LogEntry → Prop}

theorem gives_body {α : Type} {read : Nat → Text → Run (Option α)} {plain : Nat → Text → Option α}
    (h : ∀ number line, Gives fault noted (read number line) (plain number line))
    (lines : List Text) (block : Block) (typing : Option Nat) :
    Gives fault noted (body lines block typing read)
      ((bodyLines lines block typing).filterMap fun (number, line) => plain number line) := by
  have hline : ∀ number ∈ (bodyNumbers lines block).filter (typing ≠ some ·),
      Gives fault noted (do read number (← need .outOfRange lines[number]?))
        (plain number (Text.lineOf lines number)) := by
    intro number hnumber
    obtain ⟨-, -, hlt⟩ := mem_bodyNumbers.1 (List.mem_filter.1 hnumber).1
    exact (gives_need (Text.getElem?_eq_some_lineOf hlt)).bind (h number _)
  have hvalue : (((bodyNumbers lines block).filter (typing ≠ some ·)).map fun number =>
      plain number (Text.lineOf lines number)).filterMap id =
      (bodyLines lines block typing).filterMap fun (number, line) => plain number line := by
    rw [bodyLines_eq, List.filterMap_map, List.filterMap_map]
    rfl
  rw [← hvalue]
  exact (gives_mapM hline).bind (gives_pure _)

theorem gives_fieldName? (line : Text) :
    Gives fault noted (fieldName? line) (SchemaAssist.fieldName? line) := by
  unfold fieldName? SchemaAssist.fieldName?
  split
  · exact gives_pure none
  · cases hwords : Text.words line with
    | nil => exact gives_pure none
    | cons word words => exact (gives_need rfl).bind (gives_pure (some word))

theorem gives_fieldNames (lines : List Text) (block : Block) (typing : Option Nat) :
    Gives fault noted (fieldNames lines block typing)
      (SchemaAssist.fieldNames lines block typing) :=
  gives_body (fun _ line => gives_fieldName? line) lines block typing

theorem gives_fieldType? (line : Text) :
    Gives fault noted (fieldType? line) (SchemaAssist.fieldType? line) := by
  unfold fieldType? SchemaAssist.fieldType?
  match Text.words line with
  | [] | [_] => exact gives_pure none
  | _ :: type :: _ => exact (gives_need rfl).bind (gives_pure (some type))

theorem gives_declaration? (number : Nat) (line : Text) :
    Gives fault noted (declaration? number line) (Declaration.ofLine? number line) := by
  unfold declaration? Declaration.ofLine?
  split
  · exact gives_pure none
  · refine (gives_fieldType? line).bind ?_
    unfold SchemaAssist.fieldType?
    match Text.words line with
    | [] | [_] => exact gives_pure none
    | name :: type :: _ => exact (gives_need rfl).bind (gives_pure _)

theorem gives_fieldIndex (lines : List Text) (block : Block) (typing : Option Nat) :
    Gives fault noted (fieldIndex lines block typing) (FieldIndex.ofBlock lines block typing) := by
  have hindex : FieldIndex.ofBlock lines block typing =
      ⟨(FieldIndex.usesOf (declarations lines block typing)).map fun use => use,
        FieldIndex.typesOf (declarations lines block typing)⟩ := by rw [List.map_id']; rfl
  rw [hindex]
  refine (gives_body gives_declaration? lines block typing).bind ?_
  refine (gives_mapM fun use huse => ?_).bind (gives_pure _)
  exact (gives_need (FieldIndex.lookup_representatives huse)).bind (gives_pure use)

theorem gives_pathFields (lines : List Text) (path : List Text) (index : FieldIndex) :
    Gives fault (Recovery lines) (pathFields lines path index)
      (SchemaAssist.pathFields lines path index) := by
  induction path generalizing index with
  | nil => exact gives_pure []
  | cons field path ih =>
    unfold pathFields SchemaAssist.pathFields compositeOf?
    cases index.typeOf? field with
    | none => exact gives_pure []
    | some type =>
      dsimp only
      refine (gives_blockNamed? (compositeName type) lines).bind ?_
      cases Block.named? (compositeName type) lines with
      | none => exact gives_pure []
      | some block =>
        by_cases hkind : block.kind = .type
        · simp only [hkind, ne_eq, not_true_eq_false, if_false, if_true]
          split
          · exact gives_fieldNames lines block none
          · exact (gives_fieldIndex lines block none).bind (ih _)
        · simpa [hkind] using gives_pure []

end Run
end SchemaAssist
