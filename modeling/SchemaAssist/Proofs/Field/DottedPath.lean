import Mathlib.Data.List.Basic
import Mathlib.Data.List.Induction
import SchemaAssist.Field.Path
import SchemaAssist.Proofs.Cursor.Word

/-!
# The dotted path that a word ends in

A path is spelled with a dot behind each of its segments. The segments are collected from the last
one backwards, one step for each (`dottedPath_concat`), so a path of any length is read as it is
spelled (`dottedPath_append_dotted`).
-/

namespace SchemaAssist

structure IsSegment (segment : Text) : Prop where
  ne_nil : segment ≠ []
  isWord_of_mem : ∀ c ∈ segment, Text.isWord c = true

def dotted (segments : List Text) : Text := segments.flatMap (· ++ ['.'])

theorem dotted_concat (segments : List Text) (segment : Text) :
    dotted (segments ++ [segment]) = dotted segments ++ segment ++ ['.'] := by
  simp [dotted]

theorem isWord_dot : Text.isWord '.' = false := by decide +kernel

namespace IsSegment
variable {segment : Text}

theorem dot_not_mem (h : IsSegment segment) : '.' ∉ segment := by
  intro hmem
  have hdot := h.isWord_of_mem _ hmem
  rw [isWord_dot] at hdot
  contradiction

theorem lastRun_append (h : IsSegment segment) (lead : Text)
    (hlead : ∀ c ∈ lead.getLast?, Text.isWord c = false) :
    Text.lastRun (lead ++ segment) = segment :=
  Text.takeEndWhile_append_eq hlead h.isWord_of_mem

theorem segmentsBack_cons (h : IsSegment segment) (earlier : List Text) :
    segmentsBack (segment :: earlier) = segmentsBack earlier ++ [segment] := by
  have hrun : Text.lastRun segment = segment := h.lastRun_append [] (by simp)
  simp [segmentsBack, hrun, h.ne_nil]

theorem segmentsBack_cut (h : IsSegment segment) {lead : Text} (hne : lead ≠ [])
    (hlead : ∀ c ∈ lead.getLast?, Text.isWord c = false) (earlier : List Text) :
    segmentsBack ((lead ++ segment) :: earlier) = [segment] := by
  simp [segmentsBack, h.lastRun_append lead hlead, h.ne_nil, hne]

end IsSegment

theorem dottedPath_append_dot (text : Text) :
    dottedPath (text ++ ['.']) = segmentsBack (text.splitOn '.').reverse := by
  simp [dottedPath, List.splitOn_append_cons_self]

theorem dottedPath_concat {segment : Text} (h : IsSegment segment) (text : Text) :
    dottedPath (text ++ ['.'] ++ segment ++ ['.']) = dottedPath (text ++ ['.']) ++ [segment] := by
  have hsplit : (text ++ ['.'] ++ segment).splitOn '.' = text.splitOn '.' ++ [segment] := by
    simp [List.splitOn_append_cons_self, List.splitOn_eq_singleton h.dot_not_mem]
  rw [dottedPath_append_dot, dottedPath_append_dot, hsplit, List.reverse_append,
    List.reverse_singleton, List.singleton_append, h.segmentsBack_cons]

theorem exists_last_dot {text : Text} (h : '.' ∈ text) :
    ∃ front back, text = front ++ '.' :: back ∧ '.' ∉ back := by
  obtain ⟨back, front, hparts, hdot⟩ := List.eq_append_cons_of_mem (List.mem_reverse.2 h)
  refine ⟨front.reverse, back.reverse, ?_, by simpa using hdot⟩
  rw [← List.reverse_reverse text, hparts]
  simp

theorem dottedPath_concat_of_ne {c : Char} (hc : c ≠ '.') (word : Text) :
    dottedPath (word ++ [c]) = [] := by
  obtain ⟨front, back, hback, hsplit⟩ : ∃ front back, back ≠ [] ∧
      (word ++ [c]).splitOn '.' = front ++ [back] := by
    by_cases hmem : '.' ∈ word ++ [c]
    · obtain ⟨front, back, hparts, hdot⟩ := exists_last_dot hmem
      refine ⟨front.splitOn '.', back, ?_, ?_⟩
      · rintro rfl
        exact hc (by simpa using congrArg List.getLast? hparts)
      · rw [hparts, List.splitOn_append_cons_self, List.splitOn_eq_singleton hdot]
    · exact ⟨[], word ++ [c], by simp, by rw [List.splitOn_eq_singleton hmem]; rfl⟩
  obtain ⟨d, back, rfl⟩ := List.exists_cons_of_ne_nil hback
  simp [dottedPath, hsplit]

theorem dottedPath_single {lead segment : Text} (h : IsSegment segment)
    (hlead : ∀ c ∈ lead.getLast?, Text.isWord c = false ∧ c ≠ '.') :
    dottedPath (lead ++ segment ++ ['.']) = [segment] := by
  rw [dottedPath_append_dot]
  by_cases hmem : '.' ∈ lead
  · obtain ⟨front, back, rfl, hback⟩ := exists_last_dot hmem
    have hne : back ≠ [] := by
      rintro rfl
      simpa using hlead '.' (by simp)
    have hlast : ∀ c ∈ back.getLast?, Text.isWord c = false := by
      intro c hc
      refine (hlead c ?_).1
      simp [List.getLast?_cons, Option.mem_def.1 hc]
    have hdot : '.' ∉ back ++ segment := by simp [hback, h.dot_not_mem]
    simp [List.splitOn_append_cons_self, List.splitOn_eq_singleton hdot,
      h.segmentsBack_cut hne hlast]
  · have hdot : '.' ∉ lead ++ segment := by simp [hmem, h.dot_not_mem]
    rw [List.splitOn_eq_singleton hdot, List.reverse_singleton]
    by_cases hne : lead = []
    · rw [hne, List.nil_append, h.segmentsBack_cons]
      rfl
    · exact h.segmentsBack_cut hne (fun c hc => (hlead c hc).1) []

/-- However many segments a path has, it is read as it is spelled, and nothing in front of it is
taken for one more. -/
theorem dottedPath_append_dotted {lead : Text} {segments : List Text} (hne : segments ≠ [])
    (hsegments : ∀ segment ∈ segments, IsSegment segment)
    (hlead : ∀ c ∈ lead.getLast?, Text.isWord c = false ∧ c ≠ '.') :
    dottedPath (lead ++ dotted segments) = segments := by
  induction segments using List.reverseRecOn with
  | nil => contradiction
  | append_singleton segments segment ih =>
    have hsegment : IsSegment segment := hsegments segment (by simp)
    rcases List.eq_nil_or_concat' segments with rfl | ⟨init, last, rfl⟩
    · simpa [dotted] using dottedPath_single hsegment hlead
    · have hfront := ih (by simp) fun s hs => hsegments s (List.mem_append_left _ hs)
      calc dottedPath (lead ++ dotted (init ++ [last] ++ [segment]))
        _ = dottedPath (lead ++ dotted init ++ last ++ ['.'] ++ segment ++ ['.']) := by
            rw [dotted_concat, dotted_concat]
            simp
        _ = dottedPath (lead ++ dotted init ++ last ++ ['.']) ++ [segment] :=
            dottedPath_concat hsegment _
        _ = dottedPath (lead ++ dotted (init ++ [last])) ++ [segment] := by
            simp only [dotted_concat, List.append_assoc]
        _ = init ++ [last] ++ [segment] := by rw [hfront]

end SchemaAssist
