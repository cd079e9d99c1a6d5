import SchemaAssist.Facts
import SchemaAssist.Proofs.Facts.Assignment
import SchemaAssist.Proofs.Text.JoinedLines

/-!
# Where the provider is found

The search passes over every line that does not mention a datasource in front of a brace, and looks
at the first two nonblank lines below the first one that does (`inBody?_joinLines`). A provider that
is written there in the usual way is found (`provider_found_below_header`).
-/

namespace SchemaAssist

namespace Provider

def atMention? (text : Text) : Option Text :=
  (Text.after? "datasource".toList text).bind fun rest => (bodies rest).findSome? inBody?

theorem search?_eq_leftmost? (text : Text) : search? text = Text.leftmost? atMention? text := by
  induction text with
  | nil => rfl
  | cons c text ih =>
    rw [search?, Text.leftmost?, ← ih, atMention?]
    split
    · next value hvalue => rw [hvalue, Option.some_or]
    · next hnone => rw [hnone, Option.none_or]

-- ---------------------------------------------------------------------------
-- Bodies
-- ---------------------------------------------------------------------------

theorem bodies_cons {c : Char} (hbreak : c ≠ '\n') (hbrace : c ≠ '{') (text : Text) :
    bodies (c :: text) = bodies text := by
  rw [bodies] <;> simp [hbreak, hbrace]

theorem bodies_of_not_mem {front : Text} (h : '{' ∉ front) (more : Text) :
    bodies (front ++ '\n' :: more) = [] := by
  induction front with
  | nil => rfl
  | cons c front ih =>
    obtain ⟨hc, hfront⟩ := List.ne_and_not_mem_of_not_mem_cons h
    by_cases hbreak : c = '\n'
    · subst hbreak
      rfl
    · rw [List.cons_append, bodies_cons hbreak hc.symm, ih hfront]

theorem bodies_append_brace {front : Text} (hbrace : '{' ∉ front) (hbreak : '\n' ∉ front)
    (more : Text) : bodies (front ++ '{' :: '\n' :: more) = [more] := by
  induction front with
  | nil => rfl
  | cons c front ih =>
    obtain ⟨hc, hbrace⟩ := List.ne_and_not_mem_of_not_mem_cons hbrace
    obtain ⟨hc', hbreak⟩ := List.ne_and_not_mem_of_not_mem_cons hbreak
    rw [List.cons_append, bodies_cons hc'.symm hc.symm, ih hbrace hbreak]

theorem isSpace_of_mem_datasource : ∀ c ∈ "datasource".toList, Text.isSpace c = false :=
  Text.isSpace_eq_false_of_all (by decide)

theorem atMention?_of_not_isPrefix {text : Text} (h : ¬ "datasource".toList <+: text) :
    atMention? text = none := by
  cases hafter : Text.after? "datasource".toList text with
  | none => rw [atMention?, hafter]; rfl
  | some rest => exact absurd (Text.isSome_after?.1 (by rw [hafter]; rfl)) h

theorem atMention?_line {line : Text} (h : "datasource".toList <:+: line → '{' ∉ line) {tail : Text}
    (htail : tail <:+ line) (more : Text) : atMention? (tail ++ '\n' :: more) = none := by
  by_cases hmention : "datasource".toList <+: tail
  · obtain ⟨rest, rfl⟩ := hmention
    have hbrace : '{' ∉ line := h ((List.prefix_append ..).isInfix.trans htail.isInfix)
    have hrest : '{' ∉ rest := fun hmem =>
      hbrace (htail.subset (List.mem_append_right _ hmem))
    have hafter : Text.after? "datasource".toList ("datasource".toList ++ rest ++ '\n' :: more) =
        some (rest ++ '\n' :: more) := Text.after?_eq_some_iff.2 (List.append_assoc ..)
    rw [atMention?, hafter, Option.bind_some, bodies_of_not_mem hrest]
    rfl
  · refine atMention?_of_not_isPrefix fun hstarts => hmention ?_
    exact (Text.isPrefix_append_iff isSpace_of_mem_datasource (by simp; decide)).1 hstarts

theorem atMention?_opening {front : Text} (hbrace : '{' ∉ front) (hbreak : '\n' ∉ front)
    (h : "datasource".toList <+: front) (more : Text) :
    atMention? (front ++ '{' :: '\n' :: more) = inBody? more := by
  obtain ⟨rest, rfl⟩ := h
  rw [List.mem_append, not_or] at hbrace hbreak
  have hafter : Text.after? "datasource".toList
      ("datasource".toList ++ rest ++ '{' :: '\n' :: more) = some (rest ++ '{' :: '\n' :: more) :=
    Text.after?_eq_some_iff.2 (List.append_assoc ..)
  rw [atMention?, hafter, Option.bind_some, bodies_append_brace hbrace.2 hbreak.2]
  cases hbody : inBody? more <;> simp [hbody]

theorem search?_joinLines_append {before rest : List Text}
    (h : ∀ line ∈ before, "datasource".toList <:+: line → '{' ∉ line) (hrest : rest ≠ []) :
    search? (Text.joinLines (before ++ rest)) = search? (Text.joinLines rest) := by
  rw [search?_eq_leftmost?, search?_eq_leftmost?]
  exact Text.leftmost?_joinLines_append
    (fun line hline _ more htail => atMention?_line (h line hline) htail more) hrest

theorem search?_joinLines_opening {front : Text} {body : List Text} (hbrace : '{' ∉ front)
    (hbreak : '\n' ∉ front) (hmention : "datasource".toList <+: front) (hbody : body ≠ []) :
    search? (Text.joinLines ((front ++ ['{']) :: body)) =
      (inBody? (Text.joinLines body)).or (search? (Text.joinLines body)) := by
  have hopening := atMention?_opening hbrace hbreak hmention (Text.joinLines body)
  rw [search?_eq_leftmost?, search?_eq_leftmost?, Text.joinLines_cons hbody]
  cases hvalue : inBody? (Text.joinLines body) with
  | some value =>
    rw [hvalue] at hopening
    rw [List.append_assoc, List.singleton_append, Option.some_or]
    exact Text.leftmost?_of_some (by simp) hopening
  | none =>
    rw [Option.none_or]
    refine Text.leftmost?_line fun tail htail => ?_
    by_cases hstarts : "datasource".toList <+: tail
    · -- A second mention on the line opens the same body.
      rcases List.suffix_concat_iff.1 htail with rfl | ⟨inner, rfl, hinner⟩
      · simp at hstarts
      · rw [Text.isPrefix_append_iff_of_head? (by simp)] at hstarts
        rw [List.append_assoc, List.singleton_append, atMention?_opening
          (fun hmem => hbrace (hinner.subset hmem)) (fun hmem => hbreak (hinner.subset hmem))
          hstarts, hvalue]
    · refine atMention?_of_not_isPrefix fun hlong => hstarts ?_
      exact (Text.isPrefix_append_iff isSpace_of_mem_datasource (by simp; decide)).1 hlong

-- ---------------------------------------------------------------------------
-- The first two nonblank lines of a body
-- ---------------------------------------------------------------------------

theorem secondLine?_line_append {line : Text} (hline : '\n' ∉ line) (more : Text) :
    secondLine? (line ++ '\n' :: more) = some (Text.trimStart more) := by
  have hkeep : ∀ c ∈ line, (c != '\n') = true := fun c hc =>
    bne_iff_ne.2 fun heq => hline (heq ▸ hc)
  rw [secondLine?, List.dropWhile_append_of_pos hkeep, List.dropWhile_cons_of_neg (by simp)]

theorem secondLine?_bind_value? {first : Text} {rest : List Text} (hfirst : '\n' ∉ first)
    (hrest : ∀ line ∈ rest, Text.trim line = line) :
    (secondLine? (Text.joinLines (first :: rest))).bind value? =
      value? (Text.joinLines (Text.fromNonblank rest)) := by
  cases rest with
  | nil =>
    have hkeep : ∀ c ∈ first, (c != '\n') = true := fun c hc =>
      bne_iff_ne.2 fun heq => hfirst (heq ▸ hc)
    rw [Text.joinLines_singleton, secondLine?, List.dropWhile_eq_nil_iff.2 hkeep]
    rfl
  | cons second rest =>
    rw [Text.joinLines_cons (List.cons_ne_nil second rest), secondLine?_line_append hfirst]
    exact congrArg value? (Text.trimStart_joinLines hrest)

/-- Of the first two nonblank lines in a body, the second is asked first. -/
theorem inBody?_joinLines {body : List Text} (htrim : ∀ line ∈ body, Text.trim line = line)
    (hbreaks : ∀ line ∈ body, '\n' ∉ line) :
    inBody? (Text.joinLines body) =
      (value? (Text.joinLines (Text.fromNonblank (Text.fromNonblank body).tail))).or
        (value? (Text.joinLines (Text.fromNonblank body))) := by
  have hsub : Text.fromNonblank body ⊆ body := (List.dropWhile_suffix _).subset
  rw [inBody?, Text.trimStart_joinLines htrim]
  cases hfirst : Text.fromNonblank body with
  | nil => rfl
  | cons first rest =>
    rw [hfirst] at hsub
    rw [secondLine?_bind_value? (hbreaks _ (hsub (List.mem_cons_self ..)))
      fun line hline => htrim line (hsub (List.mem_cons_of_mem _ hline)), List.tail_cons]
    cases value? (Text.joinLines (Text.fromNonblank rest)) <;> rfl

theorem value?_eq_bind (text : Text) :
    value? text =
      (assignedBehind? "provider".toList '"' text).bind (beforeLast? '"' closesLater) := by
  rw [value?, assignedBehind?]
  rcases assigned? "provider".toList text with _ | _ | ⟨c, rest⟩
  · rfl
  · rfl
  · by_cases hc : c = '"'
    · subst hc
      rfl
    · simp [hc, Ne.symm hc, Text.after?]

theorem value?_eq_some_iff {text value : Text} :
    value? text = some value ↔
      ∃ before after rest, Text.isSpace before = true ∧ Text.isSpace after = true ∧
        text = "provider".toList ++ before :: '=' :: after :: '"' :: rest ∧
        beforeLast? '"' closesLater rest = some value := by
  simp only [value?_eq_bind, Option.bind_eq_some_iff, assignedBehind?_eq_some_iff]
  constructor
  · rintro ⟨rest, ⟨before, after, hbefore, hafter, rfl⟩, hvalue⟩
    exact ⟨before, after, rest, hbefore, hafter, rfl, hvalue⟩
  · rintro ⟨before, after, rest, hbefore, hafter, rfl, hvalue⟩
    exact ⟨rest, ⟨before, after, hbefore, hafter, rfl⟩, hvalue⟩

theorem value?_written (rest : Text) :
    value? ("provider = \"".toList ++ rest) = beforeLast? '"' closesLater rest := by
  have hbehind : assignedBehind? "provider".toList '"' ("provider = \"".toList ++ rest) =
      some rest := assignedBehind?_eq_some_iff.2 ⟨' ', ' ', rfl, rfl, rfl⟩
  rw [value?_eq_bind, hbehind, Option.bind_some]

/-- All that a value above a line feed owes to the text behind it is that a brace comes there. -/
theorem value?_append_break {more : Text} (hmore : more.head? ≠ some '=' ∧ more.head? ≠ some '"')
    (text : Text) :
    value? (text ++ '\n' :: more) =
      (assignedBehind? "provider".toList '"' text).bind
        (beforeLast? '"' fun tail => closesLater (tail ++ '\n' :: more)) := by
  rw [value?_eq_bind, assignedBehind?_append_break (by decide) (by decide) hmore]
  cases assignedBehind? "provider".toList '"' text with
  | none => rfl
  | some rest => exact beforeLast?_append_break rest more

theorem value?_of_not_isPrefix {line : Text} (h : ¬ "provider".toList <+: line)
    (rest : List Text) : value? (Text.joinLines (line :: rest)) = none := by
  refine Option.eq_none_iff_forall_ne_some.2 fun value hvalue => h ?_
  obtain ⟨before, after, behind, -, -, htext, -⟩ := value?_eq_some_iff.1 hvalue
  have hstarts : "provider".toList <+: Text.joinLines (line :: rest) :=
    htext ▸ List.prefix_append ..
  obtain ⟨ends, hjoined, hends⟩ := Text.exists_joinLines_cons line rest
  rw [hjoined] at hstarts
  exact (Text.isPrefix_append_iff (Text.isSpace_eq_false_of_all (by decide))
    fun c hc => hends c hc ▸ rfl).1 hstarts

theorem closesLater_joinLines {tail : Text} {rest : List Text} (htail : tail.head? ≠ some '}')
    (h : ∃ line ∈ rest, '}' ∈ line) :
    closesLater (tail ++ '\n' :: Text.joinLines rest) = true := by
  obtain ⟨line, hline, hbrace⟩ := h
  have hmem := Text.mem_joinLines hline hbrace
  cases tail with
  | nil => simp [closesLater, hmem]
  | cons c tail =>
    have hc : c ≠ '}' := by simpa using htail
    simp [closesLater, hc, hmem]

theorem value?_assignment {value : Text} (hvalue : '\n' ∉ value) {rest : List Text}
    (h : ∃ line ∈ rest, '}' ∈ line) :
    value? (Text.joinLines (("provider = \"".toList ++ value ++ ['"']) :: rest)) = some value := by
  have hrest : rest ≠ [] := by
    obtain ⟨line, hline, -⟩ := h
    exact List.ne_nil_of_mem hline
  have hcloses := closesLater_joinLines (show ([] : Text).head? ≠ some '}' by simp) h
  rw [Text.joinLines_cons hrest, List.append_assoc, List.append_assoc, value?_written,
    List.singleton_append]
  exact beforeLast?_append (by decide) hvalue hcloses (by rw [beforeLast?, if_pos rfl])

theorem inBody?_assignment {body after : List Text} {value : Text}
    (htrim : ∀ line ∈ body, Text.trim line = line) (hbreaks : ∀ line ∈ body, '\n' ∉ line)
    (hplace : Text.fromNonblank body = ("provider = \"".toList ++ value ++ ['"']) :: after ∨
      Text.fromNonblank (Text.fromNonblank body).tail =
        ("provider = \"".toList ++ value ++ ['"']) :: after)
    (hvalue : '\n' ∉ value)
    (hafter : ∀ line ∈ (Text.fromNonblank after).head?, ¬ "provider".toList <+: line)
    (hclosed : ∃ line ∈ after, '}' ∈ line) : inBody? (Text.joinLines body) = some value := by
  have hfound := value?_assignment hvalue hclosed
  rw [inBody?_joinLines htrim hbreaks]
  rcases hplace with hfirst | hsecond
  · have hnone : value? (Text.joinLines (Text.fromNonblank after)) = none := by
      cases hnext : Text.fromNonblank after with
      | nil => rfl
      | cons next rest => exact value?_of_not_isPrefix (hafter next (by rw [hnext]; rfl)) rest
    rw [hfirst, List.tail_cons, hnone, hfound, Option.none_or]
  · rw [hsecond, hfound, Option.some_or]

theorem fromNonblank_assignment {blanks blanks' after : List Text} {assignment : Text}
    (between : Option Text) (hblanks : ∀ line ∈ blanks ++ blanks', line = [])
    (hassignment : assignment ≠ []) :
    let body := blanks ++ between.toList ++ blanks' ++ assignment :: after
    Text.fromNonblank body = assignment :: after ∨
      Text.fromNonblank (Text.fromNonblank body).tail = assignment :: after := by
  intro body
  have hbefore : ∀ line ∈ blanks, line = [] := fun line h =>
    hblanks line (List.mem_append_left _ h)
  have hbehind : ∀ line ∈ blanks', line = [] := fun line h =>
    hblanks line (List.mem_append_right _ h)
  have hlast : Text.fromNonblank (blanks' ++ assignment :: after) = assignment :: after := by
    rw [Text.fromNonblank_append hbehind, Text.fromNonblank_cons hassignment]
  have hbody : Text.fromNonblank body =
      Text.fromNonblank (between.toList ++ (blanks' ++ assignment :: after)) := by
    simpa [body] using Text.fromNonblank_append hbefore _
  cases between with
  | none => exact .inl (hbody.trans hlast)
  | some line =>
    rw [Option.toList_some, List.singleton_append] at hbody
    by_cases hline : line = []
    · subst hline
      exact .inl (hbody.trans hlast)
    · rw [Text.fromNonblank_cons hline] at hbody
      rw [hbody]
      exact .inr hlast

end Provider

/-- The provider of a datasource is found where the header ends in its brace, no line above it
mentions a datasource, and the assignment is on the first or the second nonblank line below it. The
first nonblank line behind the assignment must not be another one, and some line behind it must hold
a closing brace. -/
theorem provider_found_below_header {lines before blanks blanks' after : List Text}
    {between : Option Text} {name value : Text}
    (hlines : lines = before ++ ("datasource ".toList ++ name ++ " \x7b".toList) ::
      (blanks ++ between.toList ++ blanks' ++ ("provider = \"".toList ++ value ++ ['"']) :: after))
    (htrim : ∀ line ∈ lines, Text.trim line = line) (hbreaks : ∀ line ∈ lines, '\n' ∉ line)
    (hbefore : ∀ line ∈ before, ¬ "datasource".toList <:+: line) (hname : '{' ∉ name)
    (hblanks : ∀ line ∈ blanks ++ blanks', Text.Blank line) (hvalue : value ≠ [])
    (hafter : ∀ line ∈ after.find? (!·.isEmpty), ¬ "provider".toList <+: line)
    (hclosed : ∃ line ∈ after, '}' ∈ line) : datasourceProvider? lines = some value := by
  let front : Text := "datasource ".toList ++ name ++ [' ']
  let assignment : Text := "provider = \"".toList ++ value ++ ['"']
  let body := blanks ++ between.toList ++ blanks' ++ assignment :: after
  replace hlines : lines = before ++ (front ++ ['{']) :: body := by
    simp [hlines, front, body, assignment]
  have hbody : ∀ line ∈ body, line ∈ lines := fun line h => by simp [hlines, h]
  have hfront : '\n' ∉ front ++ ['{'] := hbreaks _ (by simp [hlines])
  have hassignment : '\n' ∉ assignment := hbreaks _ (hbody _ (by simp [body]))
  have hnil : ∀ line ∈ blanks ++ blanks', line = [] := by
    intro line h
    rw [← Text.trim_eq_nil_iff.2 (hblanks line h)]
    refine (htrim line (hbody line ?_)).symm
    rcases List.mem_append.1 h with h | h <;> simp [body, h]
  have hfound : Provider.inBody? (Text.joinLines body) = some value := by
    refine Provider.inBody?_assignment (fun line h => htrim line (hbody line h))
      (fun line h => hbreaks line (hbody line h))
      (Provider.fromNonblank_assignment between hnil (by simp [assignment])) ?_ ?_ hclosed
    · exact fun hmem => hassignment (by simp [assignment, hmem])
    · rwa [Text.fromNonblank, ← List.find?_not_eq_head?_dropWhile]
  rw [hlines, datasourceProvider?, Provider.search?_joinLines_append
    (fun line h hmention => absurd hmention (hbefore line h)) (List.cons_ne_nil _ _),
    Provider.search?_joinLines_opening (by simp [front, hname]) (fun h => hfront (by simp [h]))
      ⟨' ' :: name ++ [' '], by simp [front]⟩ (by simp [body]), hfound, Option.some_or,
    Option.filter_some, if_pos (by simpa using hvalue)]

/-- A value with a brace in it, below a line that goes on about the provider and in front of a line
that mentions a datasource. -/
theorem provider_found_on_second_line :
    let lines := ["generator g \x7b".toList, [], "datasource my db \x7b".toList, [],
      "url = \"provider = \"".toList, [], "provider = \"post\x7dgres\"".toList, [],
      "// datasource \x7b".toList, ['}']]
    (∀ line ∈ lines, Text.trim line = line) ∧
      datasourceProvider? lines = some "post\x7dgres".toList := by
  intro lines
  have htrim : ∀ line ∈ lines, Text.trim line = line := by decide +kernel
  refine ⟨htrim, ?_⟩
  let before := ["generator g \x7b".toList, []]
  let after := [[], "// datasource \x7b".toList, ['}']]
  let between := "url = \"provider = \"".toList
  refine provider_found_below_header
    (show lines = before ++ ("datasource ".toList ++ "my db".toList ++ " \x7b".toList) ::
      ([[]] ++ (some between).toList ++ [[]] ++
        ("provider = \"".toList ++ "post\x7dgres".toList ++ ['"']) :: after) from rfl)
    htrim ?_ ?_ ?_ ?_ ?_ ?_ ?_ <;> decide +kernel

end SchemaAssist
