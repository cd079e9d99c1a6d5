import Mathlib.Data.List.Chain
import SchemaAssist.Text.Lines

/-!
# Lines and the breaks between them

A layout is a first line and, below it, further lines, each behind a break of its own. A carriage
return and a line feed with nothing in between are one break, so a layout does not have them as two.
Its text is then read as its lines (`lines_interleave`). Every text is the text of a layout
(`exists_layout`), so its lines are the only ones that breaks can join to it
(`lines_eq_iff_exists_layout`).
-/

namespace SchemaAssist.Text

inductive LineBreak
  | returnAndFeed
  | carriageReturn
  | lineFeed
  deriving DecidableEq, Repr

def LineBreak.text : LineBreak → Text
  | .returnAndFeed => ['\r', '\n']
  | .carriageReturn => ['\r']
  | .lineFeed => ['\n']

/-- A first line and what is below it, each line behind its break. -/
def interleave (first : Text) : List (LineBreak × Text) → Text
  | [] => first
  | (lineBreak, line) :: below => first ++ (lineBreak.text ++ interleave line below)

/-- A carriage return, an empty line and a line feed: the two breaks are read as one. -/
def Fused (upper lower : LineBreak × Text) : Prop :=
  upper = (.carriageReturn, []) ∧ lower.1 = .lineFeed

/-- Lines without breaks and a break between each two, no two of which are read as one. -/
structure LineLayout where
  first : Text
  below : List (LineBreak × Text)
  unbroken : ∀ line ∈ first :: below.map Prod.snd, ∀ c ∈ line, ¬ (c = '\r' ∨ c = '\n')
  apart : below.IsChain fun upper lower => ¬ Fused upper lower

namespace LineLayout

def lines (layout : LineLayout) : List Text := layout.first :: layout.below.map Prod.snd

def text (layout : LineLayout) : Text := interleave layout.first layout.below

end LineLayout

theorem interleave_cons (c : Char) (first : Text) (below : List (LineBreak × Text)) :
    interleave (c :: first) below = c :: interleave first below := by
  cases below <;> rfl

theorem lines_append_of_unbroken {front : Text} (hfront : ∀ c ∈ front, ¬ (c = '\r' ∨ c = '\n'))
    {text line : Text} {rest : List Text} (h : lines text = line :: rest) :
    lines (front ++ text) = (front ++ line) :: rest := by
  induction front with
  | nil => exact h
  | cons c front ih =>
    have hc := hfront c (List.mem_cons_self ..)
    exact lines_cons_of_not_break hc (ih fun d hd => hfront d (List.mem_cons_of_mem c hd))

theorem lines_break_append {lineBreak : LineBreak} {text : Text}
    (h : lineBreak = .carriageReturn → text.head? ≠ some '\n') :
    lines (lineBreak.text ++ text) = [] :: lines text := by
  cases lineBreak with
  | returnAndFeed => rfl
  | carriageReturn => exact lines_cons_of_break (.inl rfl) fun _ => h rfl
  | lineFeed => exact lines_cons_of_break (.inr rfl) (by simp)

/-- No line feed stands behind a carriage return exactly if the next break does not fuse with it. -/
theorem head?_interleave_ne_iff {line : Text} (hline : ∀ c ∈ line, ¬ (c = '\r' ∨ c = '\n'))
    {below : List (LineBreak × Text)} :
    (interleave line below).head? ≠ some '\n' ↔
      ∀ lower ∈ below.head?, ¬ Fused (.carriageReturn, line) lower := by
  cases line with
  | cons c line =>
    have hc := not_or.1 (hline c (List.mem_cons_self ..))
    simp [interleave_cons, hc.2, Fused]
  | nil =>
    rcases below with _ | ⟨⟨lineBreak, line⟩, below⟩
    · simp [interleave]
    · cases lineBreak <;> simp [interleave, LineBreak.text, Fused]

theorem lines_interleave {first : Text} {below : List (LineBreak × Text)}
    (hunbroken : ∀ line ∈ first :: below.map Prod.snd, ∀ c ∈ line, ¬ (c = '\r' ∨ c = '\n'))
    (hapart : below.IsChain fun upper lower => ¬ Fused upper lower) :
    lines (interleave first below) = first :: below.map Prod.snd := by
  induction below generalizing first with
  | nil =>
    have hfirst := hunbroken first (List.mem_cons_self ..)
    simpa [interleave] using lines_append_of_unbroken hfirst (show lines [] = [[]] from rfl)
  | cons upper below ih =>
    obtain ⟨lineBreak, line⟩ := upper
    obtain ⟨hfirst, hlines⟩ := List.forall_mem_cons.1 hunbroken
    obtain ⟨hnext, hbelow⟩ := List.isChain_cons.1 hapart
    have hhead : lineBreak = .carriageReturn → (interleave line below).head? ≠ some '\n' := by
      rintro rfl
      exact (head?_interleave_ne_iff (hlines line (List.mem_cons_self ..))).2 hnext
    -- The break opens an empty line, and the first line is put in front of that.
    have hbehind : lines (lineBreak.text ++ interleave line below) =
        [] :: line :: below.map Prod.snd := by
      rw [lines_break_append hhead, ih hlines hbelow]
    simpa [interleave] using lines_append_of_unbroken hfirst hbehind

namespace LineLayout

def cons (c : Char) (layout : LineLayout) (hc : ¬ (c = '\r' ∨ c = '\n')) : LineLayout where
  first := c :: layout.first
  below := layout.below
  unbroken := by
    obtain ⟨hfirst, hbelow⟩ := List.forall_mem_cons.1 layout.unbroken
    exact List.forall_mem_cons.2 ⟨List.forall_mem_cons.2 ⟨hc, hfirst⟩, hbelow⟩
  apart := layout.apart

def consBreak (lineBreak : LineBreak) (layout : LineLayout)
    (h : lineBreak = .carriageReturn → layout.text.head? ≠ some '\n') : LineLayout where
  first := []
  below := (lineBreak, layout.first) :: layout.below
  unbroken := List.forall_mem_cons.2 ⟨by simp, layout.unbroken⟩
  apart := by
    refine List.isChain_cons.2 ⟨fun lower hlower hfused => ?_, layout.apart⟩
    have hreturn : lineBreak = .carriageReturn := congrArg Prod.fst hfused.1
    subst hreturn
    have hfirst := layout.unbroken layout.first (List.mem_cons_self ..)
    exact (head?_interleave_ne_iff hfirst).1 (h rfl) lower hlower hfused

theorem text_cons {c : Char} (layout : LineLayout) (hc : ¬ (c = '\r' ∨ c = '\n')) :
    (layout.cons c hc).text = c :: layout.text := interleave_cons c layout.first layout.below

end LineLayout

theorem exists_layout (text : Text) : ∃ layout : LineLayout, layout.text = text := by
  fun_induction lines text with
  | case1 => exact ⟨⟨[], [], by simp, .nil⟩, rfl⟩
  | case2 text ih =>
    obtain ⟨layout, rfl⟩ := ih
    exact ⟨layout.consBreak .returnAndFeed (by simp), rfl⟩
  | case3 c text hpair hbreak ih =>
    obtain ⟨layout, rfl⟩ := ih
    rcases hbreak with rfl | rfl
    · have hhead : layout.text.head? ≠ some '\n' := fun hfeed => by
        obtain ⟨rest, hrest⟩ := List.head?_eq_some_iff.1 hfeed
        exact hpair rest rfl hrest
      exact ⟨layout.consBreak .carriageReturn fun _ => hhead, rfl⟩
    · exact ⟨layout.consBreak .lineFeed (by simp), rfl⟩
  | case4 c text _ hc _ ih | case5 c text _ hc _ _ _ ih =>
    obtain ⟨layout, rfl⟩ := ih
    exact ⟨layout.cons c hc, layout.text_cons hc⟩

/-- The lines of a text are those that some breaks join to it, and no others: what is joined is read
back. -/
theorem lines_eq_iff_exists_layout (text : Text) (parts : List Text) :
    lines text = parts ↔ ∃ layout : LineLayout, layout.lines = parts ∧ layout.text = text := by
  constructor
  · rintro rfl
    obtain ⟨layout, rfl⟩ := exists_layout text
    exact ⟨layout, (lines_interleave layout.unbroken layout.apart).symm, rfl⟩
  · rintro ⟨layout, rfl, rfl⟩
    exact lines_interleave layout.unbroken layout.apart

example : lines "a\r\r\n\n\rb".toList = [['a'], [], [], [], ['b']] := by decide

end SchemaAssist.Text
