import CheshireLane.Library.Transitions

/-!
# At most one between two resets

A history grows at its end. Some of its elements count, some reset the count, and
the question is whether two elements count without a reset between them. While
the history grows it is enough to know whether an element has counted since the
last reset: then the next one must not count.

A history may also be told so that each element fits what is in front of it. It stays
told while the new element fits, so a run's history is told if each step's label is.
-/

namespace Histories

universe u v w
variable {ω : Type u} (counts resets : ω → Bool)

/-- Wherever the history has no reset, at most one element counts. -/
def Sparse (history : List ω) : Prop :=
  ∀ before middle after, history = before ++ middle ++ after →
    (∀ event ∈ middle, resets event = false) → middle.countP counts ≤ 1

/-- An element has counted since the last reset. -/
def Spent (history : List ω) : Prop :=
  ∃ before middle, history = before ++ middle ∧ (∀ event ∈ middle, resets event = false) ∧
    0 < middle.countP counts

variable {counts resets} {history : List ω} {event : ω}

/-- An empty history has counted nothing. -/
theorem sparse_nil : Sparse counts resets ([] : List ω) := by
  intro before middle after joined _
  obtain ⟨rfl, rfl, rfl⟩ : before = [] ∧ middle = [] ∧ after = [] := by simpa using joined.symm
  simp

/-- An empty history has spent nothing. -/
theorem spent_nil : ¬ Spent counts resets ([] : List ω) := by
  rintro ⟨before, middle, joined, _, some⟩
  obtain ⟨rfl, rfl⟩ : before = [] ∧ middle = [] := by simpa using joined.symm
  simp at some

/-- A cut of a history with one more element is a cut of the history, or its last
piece ends with the new element. -/
theorem append_cut {before middle : List ω} (joined : history ++ [event] = before ++ middle) :
    middle = [] ∨ ∃ shorter, middle = shorter ++ [event] ∧ history = before ++ shorter := by
  rcases List.eq_nil_or_concat' middle with rfl | ⟨shorter, last, rfl⟩
  · exact .inl rfl
  · right
    rw [← List.append_assoc] at joined
    obtain ⟨same, final⟩ := List.append_inj' joined rfl
    obtain rfl := List.singleton_inj.mp final
    exact ⟨shorter, rfl, same⟩

/-- A history stays sparse if what it grows by does not count after one that did. A stretch that
ends with the new event either has no earlier one that counts, or the event does not count. -/
theorem sparse_append (sparse : Sparse counts resets history)
    (fresh : counts event = true → ¬ Spent counts resets history) :
    Sparse counts resets (history ++ [event]) := by
  intro before middle after joined quiet
  rcases append_cut joined with rfl | ⟨shorter, rfl, same⟩
  · rw [List.append_nil] at joined
    rcases append_cut joined with rfl | ⟨shorter, rfl, same⟩
    · simp
    · have earlier : ∀ event ∈ shorter, resets event = false :=
        fun event member => quiet event (List.mem_append_left _ member)
      have few := sparse before shorter [] (by rw [List.append_nil, same]) earlier
      rw [List.countP_append, List.countP_singleton]
      split
      · next counted =>
        have none : ¬ 0 < shorter.countP counts :=
          fun some => fresh counted ⟨before, shorter, same, earlier, some⟩
        omega
      · exact few
  · exact sparse before middle shorter same quiet

/-- A reset starts the count anew. -/
theorem spent_reset (reset : resets event = true) : ¬ Spent counts resets (history ++ [event]) := by
  rintro ⟨before, middle, joined, quiet, some⟩
  rcases append_cut joined with rfl | ⟨shorter, rfl, _⟩
  · simp at some
  · have impossible := quiet event (List.mem_append_right _ (List.mem_singleton.mpr rfl))
    rw [reset] at impossible
    cases impossible

/-- An element that does not count changes nothing. -/
theorem spent_idle (idle : counts event = false) (spent : Spent counts resets (history ++ [event])) :
    Spent counts resets history := by
  obtain ⟨before, middle, joined, quiet, some⟩ := spent
  rcases append_cut joined with rfl | ⟨shorter, rfl, same⟩
  · simp at some
  · refine ⟨before, shorter, same, fun event member => quiet event (List.mem_append_left _ member), ?_⟩
    simpa [List.countP_append, List.countP_singleton, idle] using some

/-- The new element is the one a history is cut at, or the cut lies before it. -/
theorem append_at {before after : List ω} {mark : ω}
    (joined : history ++ [event] = before ++ mark :: after) :
    (after = [] ∧ mark = event ∧ before = history) ∨
      ∃ shorter, after = shorter ++ [event] ∧ history = before ++ mark :: shorter := by
  rcases append_cut joined with empty | ⟨shorter, split, same⟩
  · cases empty
  · cases shorter with
    | nil =>
      obtain ⟨rfl, rfl⟩ := List.cons.inj split
      exact .inl ⟨rfl, rfl, by simpa using same.symm⟩
    | cons first shorter =>
      obtain ⟨rfl, rfl⟩ := List.cons.inj split
      exact .inr ⟨shorter, rfl, same⟩

/-- Every element fits the elements in front of it. -/
def Told (fits : List ω → ω → Prop) (history : List ω) : Prop :=
  ∀ before event after, history = before ++ event :: after → fits before event

variable {fits : List ω → ω → Prop}

/-- Of an empty history there is nothing to tell. -/
theorem told_nil : Told fits ([] : List ω) := by
  intro before event after joined
  simp at joined

/-- A history is told on by one event that fits what was told. -/
theorem told_append (told : Told fits history) (fresh : fits history event) :
    Told fits (history ++ [event]) := by
  intro before mark after joined
  rcases append_at joined with ⟨rfl, rfl, rfl⟩ | ⟨shorter, rfl, same⟩
  · exact fresh
  · exact told before mark shorter same

/-- A run whose steps keep an invariant and leave labels that fit is told. The steps may
rely on a condition that the run meets. -/
theorem run_told {σ : Type v} {ε : Type w} {machine : Transitions.Machine σ ε ω}
    (condition : σ → ε → Prop) (holds : List ω → σ → Prop)
    (kept : ∀ labels state event next label, holds labels state → condition state event →
      machine.step state event = some (next, label) →
        holds (labels ++ [label]) next ∧ fits labels label)
    (events : List ε) (state last : σ) (labels : List ω) (initial : holds [] state)
    (along : machine.Along condition state events)
    (ran : machine.run state events = some (last, labels)) :
    holds labels last ∧ Told fits labels :=
  machine.run_invariant condition (fun labels state => holds labels state ∧ Told fits labels)
    (fun labels state event next label before here taken =>
      have after := kept labels state event next label before.1 here taken
      ⟨after.1, told_append before.2 after.2⟩)
    events state last [] labels ⟨initial, told_nil⟩ along ran

end Histories
