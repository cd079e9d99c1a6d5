import SchemaAssist.Editor.Run

/-!
# What runs give

A run gives a value if it comes to that value or to a fault that is let pass, and notes only what is
let pass. Each primitive gives what it is asked for; `Gives.bind` takes a sequence of steps apart.
-/

namespace SchemaAssist

namespace Run

variable {α β : Type} {fault : Failure → Prop} {noted : LogEntry → Prop}

/-- From every log the run ends with such a result, behind what it notes. -/
def Ends (noted : LogEntry → Prop) (run : Run α) (post : Except Failure α → Prop) : Prop :=
  ∀ log, ∃ result added, (ExceptT.run run).run log = (result, log ++ added) ∧ post result ∧
    ∀ entry ∈ added, noted entry

/-- The run ends with the value, or with a fault that is let pass. -/
def Gives (fault : Failure → Prop) (noted : LogEntry → Prop) (run : Run α) (value : α) : Prop :=
  Ends noted run fun result =>
    result = .ok value ∨ ∃ failure, fault failure ∧ result = .error failure

theorem gives_pure (value : α) : Gives fault noted (pure value) value :=
  fun log => ⟨.ok value, [], by rw [List.append_nil]; rfl, .inl rfl, by simp⟩

theorem gives_throw {failure : Failure} (h : fault failure) (value : α) :
    Gives fault noted (throw failure) value :=
  fun log => ⟨.error failure, [], by rw [List.append_nil]; rfl, .inr ⟨failure, h, rfl⟩, by simp⟩

theorem gives_note {entry : LogEntry} (h : noted entry) : Gives fault noted (note entry) () :=
  fun _ => ⟨.ok (), [entry], rfl, .inl rfl, by simpa⟩

theorem gives_need {failure : Failure} {found : Option α} {value : α} (h : found = some value) :
    Gives fault noted (need failure found) value := by
  subst h
  exact gives_pure value

theorem gives_check {checked : Except (List Problem) α} {value : α} (h : checked = .ok value) :
    Gives fault noted (check checked) value := by
  subst h
  exact gives_pure value

theorem Gives.bind {run : Run α} {value : α} {next : α → Run β} {result : β}
    (h : Gives fault noted run value) (hnext : Gives fault noted (next value) result) :
    Gives fault noted (run >>= next) result := by
  intro log
  obtain ⟨first, added, hrun, hfirst, hadded⟩ := h log
  rcases hfirst with rfl | ⟨failure, hfault, rfl⟩
  · obtain ⟨second, behind, hbehind, hsecond, hnoted⟩ := hnext (log ++ added)
    refine ⟨second, added ++ behind, ?_, hsecond, ?_⟩
    · rw [ExceptT.run_bind, StateT.run_bind, hrun, ← List.append_assoc]
      exact hbehind
    · intro entry hmem
      exact (List.mem_append.1 hmem).elim (hadded entry) (hnoted entry)
  · refine ⟨.error failure, added, ?_, .inr ⟨failure, hfault, rfl⟩, hadded⟩
    rw [ExceptT.run_bind, StateT.run_bind, hrun]
    rfl

theorem Gives.map {run : Run α} {value : α} (h : Gives fault noted run value) (f : α → β) :
    Gives fault noted (f <$> run) (f value) := by
  rw [map_eq_pure_bind]
  exact h.bind (gives_pure _)

theorem gives_mapM {list : List α} {f : α → Run β} {g : α → β}
    (h : ∀ a ∈ list, Gives fault noted (f a) (g a)) :
    Gives fault noted (list.mapM f) (list.map g) := by
  induction list with
  | nil => exact gives_pure []
  | cons a list ih =>
    rw [List.mapM_cons]
    refine (h a List.mem_cons_self).bind ?_
    exact (ih fun b hb => h b (List.mem_cons_of_mem a hb)).bind (gives_pure _)

theorem ends_pure {post : Except Failure α → Prop} {value : α} (h : post (.ok value)) :
    Ends noted (pure value) post :=
  fun log => ⟨.ok value, [], by rw [List.append_nil]; rfl, h, by simp⟩

theorem Ends.mono {run : Run α} {post after : Except Failure α → Prop} (h : Ends noted run post)
    (himp : ∀ result, post result → after result) : Ends noted run after := by
  intro log
  obtain ⟨result, added, hrun, hpost, hadded⟩ := h log
  exact ⟨result, added, hrun, himp result hpost, hadded⟩

theorem Ends.observe_bind {run : Run α} {post : Except Failure α → Prop}
    {next : Except Failure α → Run β} {after : Except Failure β → Prop} (h : Ends noted run post)
    (hnext : ∀ result, post result → Ends noted (next result) after) :
    Ends noted (observe run >>= next) after := by
  intro log
  obtain ⟨result, added, hrun, hpost, hadded⟩ := h log
  obtain ⟨second, behind, hbehind, hafter, hnoted⟩ := hnext result hpost (log ++ added)
  refine ⟨second, added ++ behind, ?_, hafter, ?_⟩
  · rw [ExceptT.run_bind, StateT.run_bind, observe, ExceptT.run_lift, StateT.run_map, hrun,
      ← List.append_assoc]
    exact hbehind
  · intro entry hmem
    exact (List.mem_append.1 hmem).elim (hadded entry) (hnoted entry)

theorem Ends.result {run : Run α} {post : Except Failure α → Prop} (h : Ends noted run post) :
    post run.result.1 ∧ ∀ entry ∈ run.result.2, noted entry := by
  obtain ⟨result, added, hrun, hpost, hadded⟩ := h []
  rw [Run.result, hrun]
  exact ⟨hpost, hadded⟩

end Run
end SchemaAssist
