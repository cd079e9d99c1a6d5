import SchemaAssist.Proofs.Editor.Definition
import SchemaAssist.Proofs.Editor.Serving

/-!
# Requests fail on negative numbers only

Served step by step, a request without negative numbers is answered with what its plain form says,
unless the editor refuses a position that lies in the text; one that takes numbers up to
`numberLimit` refuses none in a text of at most so many characters. A request with a negative number
fails before anything is read (`requests_fail_only_on_negative_numbers`).
-/

namespace SchemaAssist

/-- The editor takes every position that lies in the text. -/
def Editor.Takes (editor : Editor) (text : Text) : Prop :=
  ∀ position : Position, position.Within (Text.lines text) → editor.refuses? position = none

def Editor.RefusesIn (editor : Editor) (text : Text) (failure : Failure) : Prop :=
  ∃ (position : Position) (excess : Excess), position.Within (Text.lines text) ∧
    editor.refuses? position = some excess ∧ failure = .refused excess

theorem Editor.Takes.not_refusesIn {editor : Editor} {text : Text} (h : editor.Takes text)
    {failure : Failure} : ¬ editor.RefusesIn text failure := by
  rintro ⟨position, excess, hwithin, hrefused, -⟩
  rw [h position hwithin] at hrefused
  contradiction

-- ---------------------------------------------------------------------------
-- How far a text reaches
-- ---------------------------------------------------------------------------

namespace Text

/-- The lines take their characters of the text, and each but the last takes a break. -/
theorem length_flatten_lines_le (text : Text) :
    (lines text).flatten.length + (lines text).length ≤ text.length + 1 := by
  fun_induction lines text with
  | case1 => exact Nat.le_refl 1
  | case2 text ih =>
    simp only [List.flatten_cons, List.nil_append, List.length_cons]
    omega
  | case3 c text hc hbreak ih =>
    simp only [List.flatten_cons, List.nil_append, List.length_cons]
    omega
  | case4 c text hc hbreak hnil ih => exact absurd hnil (lines_ne_nil text)
  | case5 c text hc hbreak line rest hlines ih =>
    rw [hlines] at ih
    simp only [List.flatten_cons, List.length_append, List.length_cons] at ih ⊢
    omega

theorem length_lines_le (text : Text) : (lines text).length ≤ text.length + 1 :=
  Nat.le_trans (Nat.le_add_left _ _) (length_flatten_lines_le text)

theorem length_le_of_mem_lines {text line : Text} (h : line ∈ lines text) :
    line.length ≤ text.length := by
  have hline : line.length ≤ (lines text).flatten.length :=
    (List.sublist_flatten_of_mem h).length_le
  have hcount : 0 < (lines text).length := List.length_pos_of_mem h
  have hall := length_flatten_lines_le text
  omega

end Text

section
variable {raw : List Text} {text : Text}

theorem Position.Within.inDocument {position : Position}
    (h : position.Within (raw.map Text.trim)) : (position.inDocument raw).Within raw where
  line_lt := by simpa [Position.inDocument] using h.line_lt
  character_le := by
    -- The indentation and the trimmed line stand one behind the other in the untrimmed one.
    obtain ⟨tail, -, hparts⟩ := Text.exists_blank_append_trim (Text.lineOf raw position.line)
    have hlength := congrArg List.length hparts
    have hcharacter := h.character_le
    rw [lineOf_map_trim] at hcharacter
    rw [List.length_append, List.length_append] at hlength
    simp only [Position.inDocument]
    omega

theorem Range.Selects.within_lines {range : Range} {word : Text} (h : range.Selects raw word)
    (hordered : range.Ordered) (hline : range.start.line < raw.length) : range.Within raw := by
  have hstop : range.stop.Within raw :=
    ⟨h.one_line ▸ hline, by rw [h.one_line]; exact h.within⟩
  refine ⟨⟨hline, ?_⟩, hstop⟩
  rcases Position.le_def.1 hordered with hlt | ⟨-, hle⟩
  · exact absurd h.one_line (Nat.ne_of_gt hlt)
  · exact Nat.le_trans hle h.within

theorem Position.Within.excess?_eq_none {position : Position}
    (h : position.Within (Text.lines text)) (hsize : text.length ≤ numberLimit) :
    position.excess? = none := by
  have hline := Nat.lt_of_lt_of_le h.line_lt (Text.length_lines_le text)
  have hcharacter := Text.length_le_of_mem_lines
    (List.mem_of_getElem? (Text.getElem?_eq_some_lineOf h.line_lt))
  have hwithin := h.character_le
  rw [Position.excess?_eq_none_iff]
  omega

end

-- ---------------------------------------------------------------------------
-- The ranges of the answers
-- ---------------------------------------------------------------------------

def FieldSymbol.ranges (symbol : FieldSymbol) : List Range := [symbol.range, symbol.selection]

theorem within_ofDeclaration {raw : List Text} {block : Block} {declared : Declaration}
    (h : declared ∈ declarations (raw.map Text.trim) block none) :
    ∀ range ∈ (FieldSymbol.ofDeclaration raw declared).ranges, range.Within raw := by
  obtain ⟨-, -, hdeclares⟩ := mem_declarations.1 h
  have hline : declared.line < raw.length := by simpa using hdeclares.lt_length
  have hname := hdeclares.nameWithin
  intro range hrange
  rcases List.mem_pair.1 hrange with rfl | rfl
  · exact ⟨⟨hline, Nat.zero_le _⟩, ⟨hline, Nat.le_refl _⟩⟩
  · exact hname.selects_name.within_lines hname.selection_ordered hline

theorem mem_scan_of_blockForWord? {text : Text} {position : Position} {block : Block}
    (h : blockForWord? text position = some block) :
    block ∈ Block.scan (Text.trimmedLines text) :=
  (mem_scan_of_namesakes (blockForWord?_eq_some_iff.1 h).2).1

theorem Editor.limited_takes {text : Text} (h : text.length ≤ numberLimit) :
    Editor.limited.Takes text := fun _ hwithin => hwithin.excess?_eq_none h

-- ---------------------------------------------------------------------------
-- Sending
-- ---------------------------------------------------------------------------

namespace Run

variable {noted : LogEntry → Prop} {editor : Editor} {text : Text}

theorem gives_place {position : Position} (h : position.Within (Text.lines text)) :
    Gives (editor.RefusesIn text) noted (place editor position) position := by
  unfold place
  cases hrefused : editor.refuses? position with
  | none => exact gives_pure position
  | some excess => exact gives_throw ⟨position, excess, h, hrefused, rfl⟩ position

theorem gives_send {range : Range} (h : range.Within (Text.lines text)) :
    Gives (editor.RefusesIn text) noted (send editor range) range :=
  (gives_place h.start).bind ((gives_place h.stop).bind (gives_pure _))

theorem gives_sendShifted {range : Range} (h : range.Within (Text.trimmedLines text)) :
    Gives (editor.RefusesIn text) noted (sendShifted editor (Text.lines text) range)
      (range.inDocument (Text.lines text)) := by
  have hshift {position : Position} (hposition : position.Within (Text.trimmedLines text)) :
      Gives (editor.RefusesIn text) noted (shift editor (Text.lines text) position)
        (position.inDocument (Text.lines text)) :=
    (gives_currentLine (Text.lines text) position.line).bind (gives_place hposition.inDocument)
  exact (hshift h.start).bind ((hshift h.stop).bind (gives_pure _))

-- ---------------------------------------------------------------------------
-- Symbols
-- ---------------------------------------------------------------------------

theorem gives_fieldSymbol? {raw lines : List Text} {type : Text} {number : Nat}
    {found : Option FieldSymbol} (hlt : number < lines.length)
    (h : FieldSymbol.ofLine? raw lines type number = .ok found)
    (hwithin : ∀ child ∈ found, ∀ range ∈ child.ranges, range.Within (Text.lines text)) :
    Gives (editor.RefusesIn text) noted (fieldSymbol? editor raw lines type number) found := by
  unfold fieldSymbol?
  refine (gives_currentLine raw number).bind ?_
  refine (gives_need (Text.getElem?_eq_some_lineOf hlt)).bind ?_
  unfold FieldSymbol.ofLine? at h
  cases hword : (Text.words (Text.lineOf lines number)).head? with
  | none => simp [hword] at h
  | some name =>
    refine (gives_need rfl).bind ?_
    cases hcomment : isComment name with
    | true =>
      obtain rfl : none = found := by simpa [hword, hcomment] using h
      exact gives_pure none
    | false =>
      cases hcolumn : Text.indexOf? name (Text.lineOf raw number) with
      | none => simp [hword, hcomment, hcolumn] at h
      | some column =>
        have hrange : Range.ofCorners ⟨number, 0, number, (Text.lineOf raw number).length⟩ =
            .ok (Range.onLine number 0 (Text.lineOf raw number).length) :=
          Range.ofCorners_onLine number (Nat.zero_le _)
        have hselection : Range.ofCorners ⟨number, column, number, column + name.length⟩ =
            .ok (Range.onLine number column (column + name.length)) :=
          Range.ofCorners_onLine number (Nat.le_add_right _ _)
        simp only [hword, hcomment, hcolumn, hrange, hselection] at h
        obtain rfl := Except.ok.inj h
        have hwhole := hwithin _ rfl _ List.mem_cons_self
        have hname := hwithin _ rfl _ (List.mem_cons_of_mem _ List.mem_cons_self)
        refine (gives_need rfl).bind ?_
        refine (gives_check hrange).bind ((gives_send hwhole).bind ?_)
        exact (gives_check hselection).bind ((gives_send hname).bind (gives_pure _))

theorem gives_blockSymbol {block : Block} (h : block ∈ Block.scan (Text.trimmedLines text)) :
    Gives (editor.RefusesIn text) noted
      (blockSymbol editor (Text.lines text) (Text.trimmedLines text) block)
      (BlockSymbol.lineByLine (Text.lines text) block) := by
  obtain ⟨hrange, hname⟩ := within_of_mem_scan h
  have hsymbol : ∀ use ∈ FieldIndex.usesOf (declarations (Text.trimmedLines text) block none),
      ∀ number ∈ use.lines, Gives (editor.RefusesIn text) noted
        (fieldSymbol? editor (Text.lines text) (Text.trimmedLines text) use.type number)
        (FieldSymbol.onLine? (Text.lines text) number) := by
    intro use huse number hnumber
    obtain ⟨declared, hdeclared, -, rfl⟩ := FieldSymbol.exists_declares_of_mem_lines huse hnumber
    have hdeclares := (mem_declarations.1 hdeclared).2.2
    refine gives_fieldSymbol? hdeclares.lt_length (FieldSymbol.ofLine?_use_eq huse hnumber) ?_
    intro child hchild
    rw [FieldSymbol.onLine?_eq hdeclares] at hchild
    obtain ⟨-, rfl⟩ := FieldSymbol.ofDeclaration?_eq_some_iff.1 hchild
    exact within_ofDeclaration hdeclared
  refine (gives_fieldIndex (Text.trimmedLines text) block none).bind ?_
  refine (gives_mapM fun use huse => gives_mapM (hsymbol use huse)).bind ?_
  refine (gives_sendShifted hrange).bind ((gives_sendShifted hname).bind ?_)
  have hchildren := FieldSymbol.mergeSort_onLine? (Text.lines text) block
  rw [BlockSymbol.lineByLine, ← hchildren]
  exact gives_pure _

theorem gives_symbols (editor : Editor) (text : Text) :
    Gives (editor.RefusesIn text) (Recovery (Text.trimmedLines text)) (symbols editor text)
      ((Block.scan (Text.trimmedLines text)).map (BlockSymbol.lineByLine (Text.lines text))) := by
  have hloop : ∀ blocks found, visitAll (fun (found : List BlockSymbol) block =>
      ForInStep.yield (found ++ [BlockSymbol.lineByLine (Text.lines text) block])) found blocks =
      found ++ blocks.map (BlockSymbol.lineByLine (Text.lines text)) := by
    intro blocks
    induction blocks with
    | nil => exact fun found => (List.append_nil found).symm
    | cons block rest ih => exact fun found => by simp [visitAll, ih]
  have hsymbols := hloop (Block.scan (Text.trimmedLines text)) []
  rw [List.nil_append] at hsymbols
  rw [← hsymbols]
  exact gives_forBlocks
    (fun block hblock found => (gives_blockSymbol hblock).bind (gives_pure _)) []

end Run

-- ---------------------------------------------------------------------------
-- Requests
-- ---------------------------------------------------------------------------

namespace Request

/-- What a request comes to if a position that it sends is refused: the symbols are not sent, and a
definition request fails as a whole. The other two send no position. -/
def onRefusal? (request : Request) (failure : Failure) : Option (Except Failure Response) :=
  match request with
  | .symbols => some (.ok (request.failed failure))
  | .definition .. => some (.error failure)
  | .hover .. | .completion .. => none

section
variable {noted : LogEntry → Prop}

theorem gives_atPosition {α : Type} {fault : Failure → Prop} {text : Text} {line character : Int}
    (h : 0 ≤ line ∧ 0 ≤ character) {ask : Text → Position → Run α} {value : α}
    (hask : Run.Gives fault noted (ask text ⟨line.toNat, character.toNat⟩) value) :
    Run.Gives fault noted (atPosition (some text) line character ask) value := by
  have hposition : Position.check [] line character = .ok ⟨line.toNat, character.toNat⟩ := by
    rw [check_eq, if_pos h]
  exact (Run.gives_need rfl).bind ((Run.gives_check hposition).bind hask)

theorem ends_atPosition {α : Type} (text : Text) {line character : Int}
    (h : ¬ (0 ≤ line ∧ 0 ≤ character)) (ask : Text → Position → Run α) :
    Run.Ends noted (atPosition (some text) line character ask)
      (· = .error (.invalid (negativeProblems [.line] line ++
        negativeProblems [.character] character))) := by
  have hposition := check_eq line character
  rw [if_neg h] at hposition
  refine fun log => ⟨_, [], ?_, rfl, by simp⟩
  rw [List.append_nil, atPosition, hposition]
  rfl

theorem ends_guarded {fault : Failure → Prop} {run : Run Answer} {answer : Answer}
    (h : Run.Gives fault noted run answer) (request : Request) :
    Run.Ends noted (request.guarded run) fun result => result = .ok ⟨answer, []⟩ ∨
      ∃ failure, fault failure ∧ result = .ok (request.failed failure) := by
  refine h.observe_bind fun result hresult => ?_
  rcases hresult with rfl | ⟨failure, hfault, rfl⟩
  · exact Run.ends_pure (.inl rfl)
  · exact Run.ends_pure (.inr ⟨failure, hfault, rfl⟩)

theorem ends_guarded_error {run : Run Answer} {failure : Failure}
    (h : Run.Ends noted run (· = .error failure)) (request : Request) :
    Run.Ends noted (request.guarded run) (· = .ok (request.failed failure)) :=
  h.observe_bind fun _ hresult => hresult ▸ Run.ends_pure rfl

theorem ends_guarded_of_safe {run : Run Answer} {answer : Answer}
    (h : Run.Gives (fun _ => False) noted run answer) (request : Request) :
    Run.Ends noted (request.guarded run) (· = .ok ⟨answer, []⟩) := by
  refine (ends_guarded h request).mono ?_
  rintro result (rfl | ⟨-, hnever, -⟩)
  · rfl
  · exact hnever.elim

theorem gives_definitionOf (editor : Editor) (uri : Text) {text : Text} {block : Option Block}
    (h : ∀ found ∈ block, found ∈ Block.scan (Text.trimmedLines text)) :
    Run.Gives (editor.RefusesIn text) noted (definitionOf editor uri text block)
      ⟨.definition ((block.map fun found => found.nameRange.inDocument (Text.lines text)).map
        (⟨uri, ·⟩)), []⟩ := by
  cases block with
  | none => exact Run.gives_pure _
  | some found =>
    have hname := (within_of_mem_scan (h found rfl)).2
    exact (Run.gives_sendShifted hname).bind (Run.gives_pure _)

end

theorem ends_handle (editor : Editor) (uri text : Text) {request : Request}
    (h : request.NonNegative) :
    Run.Ends (Recovery (Text.trimmedLines text)) (request.handle editor uri (some text))
      fun result => result = .ok ⟨request.answer uri text, []⟩ ∨
        ∃ failure, editor.RefusesIn text failure ∧ request.onRefusal? failure = some result := by
  cases request with
  | symbols =>
    have hrun : Run.Gives (editor.RefusesIn text) (Recovery (Text.trimmedLines text))
        (do return .symbols (← Run.symbols editor (← Run.need .unreadable (some text))))
        (answer uri text .symbols) :=
      (Run.gives_need rfl).bind ((Run.gives_symbols editor text).bind (Run.gives_pure _))
    refine (ends_guarded hrun .symbols).mono fun result hresult => ?_
    rcases hresult with rfl | ⟨failure, hrefused, rfl⟩
    · exact .inl rfl
    · exact .inr ⟨failure, hrefused, rfl⟩
  | definition line character =>
    have hfound : Run.Gives (fun _ => False) (Recovery (Text.trimmedLines text))
        (Run.blockForWord? text ⟨line.toNat, character.toNat⟩)
        (blockForWord? text ⟨line.toNat, character.toNat⟩) := Run.gives_blockForWord? text _
    have hscan : ∀ block ∈ blockForWord? text ⟨line.toNat, character.toNat⟩,
        block ∈ Block.scan (Text.trimmedLines text) := fun _ => mem_scan_of_blockForWord?
    refine Run.Ends.observe_bind (gives_atPosition h (hfound.bind (Run.gives_pure _))) ?_
    rintro _ (rfl | ⟨-, hnever, -⟩)
    · refine (gives_definitionOf editor uri hscan).mono fun result hresult => ?_
      rcases hresult with rfl | ⟨failure, hrefused, rfl⟩
      · exact .inl rfl
      · exact .inr ⟨failure, hrefused, rfl⟩
    · exact hnever.elim
  | hover line character =>
    refine (ends_guarded_of_safe (gives_atPosition h ?_) _).mono fun _ => Or.inl
    exact (Run.gives_hoverText? text _).bind (Run.gives_pure _)
  | completion line character =>
    refine (ends_guarded_of_safe (gives_atPosition h ?_) _).mono fun _ => Or.inl
    exact (Run.gives_items text _).bind (Run.gives_pure _)

theorem ends_handle_negative (editor : Editor) (uri text : Text) {request : Request}
    (h : ¬ request.NonNegative) :
    Run.Ends (fun _ => False) (request.handle editor uri (some text))
      (· = .ok (request.failed (.invalid request.problems))) := by
  cases request with
  | symbols => exact absurd trivial h
  | definition line character =>
    refine (ends_atPosition text h _).observe_bind ?_
    rintro _ rfl
    exact Run.ends_pure rfl
  | hover line character => exact ends_guarded_error (ends_atPosition text h _) _
  | completion line character => exact ends_guarded_error (ends_atPosition text h _) _

/-- Where the editor takes every position of a text, the way of a request ends in its plain
response. -/
theorem serve_eq_respond {editor : Editor} {text : Text} (h : editor.Takes text) (uri : Text)
    (request : Request) :
    (request.serve editor uri (some text)).1 = .ok (request.respond uri (some text)) := by
  rw [respond_eq]
  by_cases hnumbers : request.NonNegative
  · rw [if_pos hnumbers]
    rcases (ends_handle editor uri text hnumbers).result.1 with hanswer | ⟨failure, hrefused, -⟩
    · exact hanswer
    · exact absurd hrefused h.not_refusesIn
  · rw [if_neg hnumbers]
    exact (ends_handle_negative editor uri text hnumbers).result.1

end Request

/-- A request without negative numbers is answered and nothing is logged, whatever the text holds
and wherever its position is: no index, search, first or last element and no checked value on the
way fails. All that could is a position of the text that the editor refuses, and a limited editor
refuses none in a text of at most `numberLimit` characters. With a negative number the answer is
empty, and one entry tells what is wrong with the numbers. The scanner notes blocks that it has to
end itself, and nothing else. -/
theorem requests_fail_only_on_negative_numbers (editor : Editor) (uri text : Text)
    (request : Request) :
    (request.NonNegative → editor.Takes text →
      (request.serve editor uri (some text)).1 = .ok ⟨request.answer uri text, []⟩) ∧
    (request.NonNegative →
      (request.serve editor uri (some text)).1 = .ok ⟨request.answer uri text, []⟩ ∨
        ∃ failure, editor.RefusesIn text failure ∧
          request.onRefusal? failure = some (request.serve editor uri (some text)).1) ∧
    (¬ request.NonNegative → request.serve editor uri (some text) =
      (.ok ⟨request.emptyAnswer, [request.failureEntry (.invalid request.problems)]⟩, [])) ∧
    (∀ entry ∈ (request.serve editor uri (some text)).2,
      Recovery (Text.trimmedLines text) entry) ∧
    (text.length ≤ numberLimit → Editor.limited.Takes text) := by
  by_cases hnumbers : request.NonNegative
  · obtain ⟨hresult, hnotes⟩ := (Request.ends_handle editor uri text hnumbers).result
    refine ⟨fun _ htakes => ?_, fun _ => hresult, fun h => absurd hnumbers h, hnotes,
      Editor.limited_takes⟩
    rcases hresult with hanswer | ⟨failure, hrefused, -⟩
    · exact hanswer
    · exact absurd hrefused htakes.not_refusesIn
  · obtain ⟨hresult, hnotes⟩ := (Request.ends_handle_negative editor uri text hnumbers).result
    refine ⟨fun h => absurd h hnumbers, fun h => absurd h hnumbers, fun _ => ?_,
      fun entry hentry => (hnotes entry hentry).elim, Editor.limited_takes⟩
    exact Prod.ext hresult (List.eq_nil_iff_forall_not_mem.2 hnotes)

/-- A path is typed in a model that the next header cuts off. -/
theorem unclosed_model_is_served :
    let text := "\tmodel A \x7b\n b B\n  @@index([b.\ntype B \x7b\n c Int\n\x7d".toList
    let completion := Request.completion 2 13
    let hover := Request.hover 0 (-1)
    text.length ≤ numberLimit ∧ completion.NonNegative ∧ ¬ hover.NonNegative ∧
      (completion.serve .limited "file:///a".toList (some text)).1 =
        .ok ⟨.completion (some [⟨['c'], .field, "Composite field".toList⟩]), []⟩ ∧
      hover.serve .limited "file:///a".toList (some text) =
        (.ok ⟨.hover none, [hover.failureEntry (.invalid [⟨[.character], .negative⟩])]⟩, []) := by
  intro text completion hover
  have hsize : text.length ≤ numberLimit := by decide
  have hsound : completion.NonNegative := by decide
  have hunsound : ¬ hover.NonNegative := by decide
  have hanswer : completion.answer "file:///a".toList text =
      .completion (some [⟨['c'], .field, "Composite field".toList⟩]) := by decide +kernel
  obtain ⟨hserved, -, -, -, htakes⟩ :=
    requests_fail_only_on_negative_numbers .limited "file:///a".toList text completion
  obtain ⟨-, -, hfailed, -, -⟩ :=
    requests_fail_only_on_negative_numbers .limited "file:///a".toList text hover
  rw [hanswer] at hserved
  exact ⟨hsize, hsound, hunsound, hserved hsound (htakes hsize), hfailed hunsound⟩

end SchemaAssist
