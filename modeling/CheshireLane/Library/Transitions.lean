import Mathlib.Data.List.Basic
import Mathlib.Data.List.Induction

/-!
# Runs of a machine whose steps leave labels

A machine steps from state to state on events; an event may be disabled. A run
is a list of events that were all enabled, and it leaves one label per event.
Five rules carry everything: an invariant may speak about the labels left so
far, it may rely on a condition met by every step or on the run behind it, what
breaks may be restored by a later step, and the events that concern one part of
the state can be replayed without the others.
-/

namespace Transitions

universe u v w
variable {σ : Type u} {ε : Type v} {ω : Type w}

/-- An enabled event changes the state and leaves a label. -/
structure Machine (σ : Type u) (ε : Type v) (ω : Type w) where
  step : σ → ε → Option (σ × ω)

namespace Machine

/-- Run all events. `none` means that one of them was disabled. -/
def run (machine : Machine σ ε ω) : σ → List ε → Option (σ × List ω)
  | state, [] => some (state, [])
  | state, event :: events =>
    match machine.step state event with
    | none => none
    | some (next, label) =>
      (machine.run next events).map fun result => (result.1, label :: result.2)

/-- The condition holds in front of every event of the run. -/
def Along (machine : Machine σ ε ω) (condition : σ → ε → Prop) : σ → List ε → Prop
  | _, [] => True
  | state, event :: events =>
    condition state event ∧
      ∀ next label, machine.step state event = some (next, label) →
        machine.Along condition next events

variable {machine : Machine σ ε ω}

/-- A run without events goes nowhere and shows nothing. -/
theorem run_nil {state last : σ} {labels : List ω} (ran : machine.run state [] = some (last, labels)) :
    last = state ∧ labels = [] := by
  simp only [run, Option.some.injEq, Prod.mk.injEq] at ran
  exact ⟨ran.1.symm, ran.2.symm⟩

/-- A run starts with a step and continues with a run. -/
theorem run_cons {state last : σ} {event : ε} {events : List ε} {labels : List ω}
    (ran : machine.run state (event :: events) = some (last, labels)) :
    ∃ next label later, machine.step state event = some (next, label) ∧
      machine.run next events = some (last, later) ∧ labels = label :: later := by
  cases taken : machine.step state event with
  | none => simp [run, taken] at ran
  | some result =>
    obtain ⟨next, label⟩ := result
    simp only [run, taken, Option.map_eq_some_iff, Prod.mk.injEq] at ran
    obtain ⟨⟨last', later⟩, continued, rfl, rfl⟩ := ran
    exact ⟨next, label, later, rfl, continued, rfl⟩

/-- A run that begins with a step goes on behind it. -/
theorem run_step {state next : σ} {event : ε} {label : ω} {events : List ε}
    (taken : machine.step state event = some (next, label)) :
    machine.run state (event :: events) =
      (machine.run next events).map fun result => (result.1, label :: result.2) := by
  simp [run, taken]

/-- A step is a run. -/
theorem run_single {state next : σ} {event : ε} {label : ω}
    (taken : machine.step state event = some (next, label)) :
    machine.run state [event] = some (next, [label]) := by
  rw [run_step taken]
  rfl

/-- A run goes on where another one ended. -/
theorem run_append {state middle last : σ} {first second : List ε} {before after : List ω}
    (ran : machine.run state first = some (middle, before))
    (continued : machine.run middle second = some (last, after)) :
    machine.run state (first ++ second) = some (last, before ++ after) := by
  induction first generalizing state before with
  | nil =>
    obtain ⟨rfl, rfl⟩ := run_nil ran
    exact continued
  | cons event events inductionHypothesis =>
    obtain ⟨next, label, later, taken, onward, rfl⟩ := run_cons ran
    rw [List.cons_append, run_step taken, inductionHypothesis onward]
    rfl

/-- A run ends with a step behind a run. -/
theorem run_snoc {state last : σ} {events : List ε} {event : ε} {labels : List ω}
    (ran : machine.run state (events ++ [event]) = some (last, labels)) :
    ∃ middle before label, machine.run state events = some (middle, before) ∧
      machine.step middle event = some (last, label) ∧ labels = before ++ [label] := by
  induction events generalizing state labels with
  | nil =>
    obtain ⟨next, label, later, taken, ended, rfl⟩ := run_cons ran
    obtain ⟨rfl, rfl⟩ := run_nil ended
    exact ⟨state, [], label, rfl, taken, rfl⟩
  | cons first events inductionHypothesis =>
    obtain ⟨next, label, later, taken, continued, rfl⟩ := run_cons ran
    obtain ⟨middle, before, final, onward, ended, rfl⟩ := inductionHypothesis continued
    refine ⟨middle, label :: before, final, ?_, ended, rfl⟩
    rw [run_step taken, onward]
    rfl

/-- An invariant about the run so far, its events and its labels, may rely on that run when it
is kept. -/
theorem run_history (holds : List ε → List ω → σ → Prop) (initial : σ) (started : holds [] [] initial)
    (kept : ∀ events labels state event next label, machine.run initial events = some (state, labels) →
      holds events labels state → machine.step state event = some (next, label) →
        holds (events ++ [event]) (labels ++ [label]) next)
    (events : List ε) (last : σ) (labels : List ω)
    (ran : machine.run initial events = some (last, labels)) : holds events labels last := by
  induction events using List.reverseRecOn generalizing last labels with
  | nil =>
    obtain ⟨rfl, rfl⟩ := run_nil ran
    exact started
  | append_singleton events event inductionHypothesis =>
    obtain ⟨middle, before, label, onward, taken, rfl⟩ := run_snoc ran
    exact kept events before middle event last label onward
      (inductionHypothesis middle before onward) taken

/-- An invariant about the state and the labels left so far, kept by every step
that meets the condition, holds at the end of every run that meets it.

Induct on the events; the labels of the steps taken move into the prefix. -/
theorem run_invariant (condition : σ → ε → Prop) (holds : List ω → σ → Prop)
    (kept : ∀ labels state event next label, holds labels state → condition state event →
      machine.step state event = some (next, label) → holds (labels ++ [label]) next)
    (events : List ε) (state last : σ) (before labels : List ω) (initial : holds before state)
    (along : machine.Along condition state events)
    (ran : machine.run state events = some (last, labels)) : holds (before ++ labels) last := by
  induction events generalizing state before labels with
  | nil =>
    obtain ⟨rfl, rfl⟩ := run_nil ran
    simpa using initial
  | cons event events inductionHypothesis =>
    obtain ⟨next, label, later, taken, continued, rfl⟩ := run_cons ran
    obtain ⟨here, onward⟩ := along
    have stepped := kept before state event next label initial here taken
    have final := inductionHypothesis next (before ++ [label]) later stepped
      (onward next label taken) continued
    simpa using final

/-- Without a condition every run qualifies. -/
theorem along_trivial (state : σ) (events : List ε) :
    machine.Along (fun _ _ => True) state events := by
  induction events generalizing state with
  | nil => trivial
  | cons event events inductionHypothesis => exact ⟨trivial, fun next _ _ => inductionHypothesis next⟩

/-- The condition is met along a run that is known step by step. -/
theorem along_cons {condition : σ → ε → Prop} {state next : σ} {event : ε} {label : ω}
    {events : List ε} (taken : machine.step state event = some (next, label))
    (here : condition state event) (onward : machine.Along condition next events) :
    machine.Along condition state (event :: events) := by
  refine ⟨here, fun next' label' taken' => ?_⟩
  rw [taken] at taken'
  cases taken'
  exact onward

/-- An invariant of every step holds at the end of every run. -/
theorem run_always (holds : List ω → σ → Prop)
    (kept : ∀ labels state event next label, holds labels state →
      machine.step state event = some (next, label) → holds (labels ++ [label]) next)
    (events : List ε) (state last : σ) (labels : List ω) (initial : holds [] state)
    (ran : machine.run state events = some (last, labels)) : holds labels last := by
  have final := run_invariant (fun _ _ => True) holds
    (fun labels state event next label before _ taken =>
      kept labels state event next label before taken)
    events state last [] labels initial (along_trivial state events) ran
  simpa using final

/-- Every event that is not harmless has an event behind it that restores. -/
def Repaired (machine : Machine σ ε ω) (harmless restores : σ → ε → Prop) : σ → List ε → Prop
  | _, [] => True
  | state, event :: events =>
    ∀ next label, machine.step state event = some (next, label) →
      machine.Repaired harmless restores next events ∧
        (harmless state event ∨ ¬ machine.Along (fun state event => ¬ restores state event) next events)

/-- A run without harm needs no repair. -/
theorem harmless_repaired (harmless restores : σ → ε → Prop) (events : List ε) (state : σ)
    (along : machine.Along harmless state events) :
    machine.Repaired harmless restores state events := by
  induction events generalizing state with
  | nil => trivial
  | cons event events inductionHypothesis =>
    intro next label taken
    exact ⟨inductionHypothesis next (along.2 next label taken), .inl along.1⟩

/-- What harmless steps keep and restoring steps establish holds at the end of
every repaired run, if it holds at its beginning or is restored on the way.

Induct on the events; a step that does harm has its repair ahead. -/
theorem repaired_holds (harmless restores : σ → ε → Prop) (always holds : σ → Prop)
    (stays : ∀ state event next label, always state →
      machine.step state event = some (next, label) → always next)
    (kept : ∀ state event next label, always state → holds state → harmless state event →
      machine.step state event = some (next, label) → holds next)
    (restored : ∀ state event next label, always state → restores state event →
      machine.step state event = some (next, label) → holds next)
    (events : List ε) (state last : σ) (labels : List ω) (initial : always state)
    (sound : holds state ∨ ¬ machine.Along (fun state event => ¬ restores state event) state events)
    (repaired : machine.Repaired harmless restores state events)
    (ran : machine.run state events = some (last, labels)) : holds last := by
  induction events generalizing state labels with
  | nil =>
    obtain ⟨rfl, rfl⟩ := run_nil ran
    exact sound.resolve_right fun ahead => ahead trivial
  | cons event events inductionHypothesis =>
    obtain ⟨next, label, later, taken, continued, rfl⟩ := run_cons ran
    obtain ⟨onward, here⟩ := repaired next label taken
    refine inductionHypothesis next later (stays state event next label initial taken) ?_ onward
      continued
    by_cases restoring : restores state event
    · exact .inl (restored state event next label initial restoring taken)
    · rcases sound with sound | ahead
      · rcases here with harmless | ahead
        · exact .inl (kept state event next label initial sound harmless taken)
        · exact .inr ahead
      · right
        intro quiet
        refine ahead ⟨restoring, fun next' label' taken' => ?_⟩
        rw [taken] at taken'
        cases taken'
        exact quiet

/-- What a harmful step breaks and no step but a restoring one mends is broken at
the end of every run that is not repaired. -/
theorem unrepaired_broken (harmless restores : σ → ε → Prop) (always broken : σ → Prop)
    (stays : ∀ state event next label, always state →
      machine.step state event = some (next, label) → always next)
    (breaks : ∀ state event next label, always state → ¬ harmless state event →
      machine.step state event = some (next, label) → broken next)
    (stuck : ∀ state event next label, broken state → ¬ restores state event →
      machine.step state event = some (next, label) → broken next)
    (events : List ε) (state last : σ) (labels : List ω) (initial : always state)
    (unrepaired : ¬ machine.Repaired harmless restores state events)
    (ran : machine.run state events = some (last, labels)) : broken last := by
  induction events generalizing state labels with
  | nil => exact absurd trivial unrepaired
  | cons event events inductionHypothesis =>
    obtain ⟨next, label, later, taken, continued, rfl⟩ := run_cons ran
    by_cases onward : machine.Repaired harmless restores next events
    · have harm : ¬ harmless state event ∧
          machine.Along (fun state event => ¬ restores state event) next events := by
        by_contra contrary
        refine unrepaired fun next' label' taken' => ?_
        rw [taken] at taken'
        cases taken'
        exact ⟨onward, by tauto⟩
      have first := breaks state event next label initial harm.1 taken
      exact run_invariant (fun state event => ¬ restores state event) (fun _ => broken)
        (fun _ => stuck) events next last [] later first harm.2 continued
    · exact inductionHypothesis next later (stays state event next label initial taken) onward
        continued

/-- Replay only the events that concern one part of the state.

Events of that part are taken alike in both runs and leave the same label; the
others keep what the runs agree on. -/
theorem run_filtered (agrees : σ → σ → Prop) (mine : ε → Bool) (ours : ω → Bool)
    (same : ∀ state other event next label, agrees state other → mine event = true →
      machine.step state event = some (next, label) →
      ours label = true ∧ ∃ next', machine.step other event = some (next', label) ∧ agrees next next')
    (foreign : ∀ state other event next label, agrees state other → mine event = false →
      machine.step state event = some (next, label) → ours label = false ∧ agrees next other)
    (events : List ε) (state other last : σ) (labels : List ω) (initial : agrees state other)
    (ran : machine.run state events = some (last, labels)) :
    ∃ last', machine.run other (events.filter mine) = some (last', labels.filter ours) ∧
      agrees last last' := by
  induction events generalizing state other labels with
  | nil =>
    obtain ⟨rfl, rfl⟩ := run_nil ran
    exact ⟨other, rfl, initial⟩
  | cons event events inductionHypothesis =>
    obtain ⟨next, label, later, taken, continued, rfl⟩ := run_cons ran
    cases concerns : mine event with
    | true =>
      obtain ⟨own, next', replayed, agreed⟩ := same state other event next label initial concerns taken
      obtain ⟨last', ended, final⟩ := inductionHypothesis next next' later agreed continued
      refine ⟨last', ?_, final⟩
      rw [List.filter_cons_of_pos concerns, List.filter_cons_of_pos own, run_step replayed, ended]
      rfl
    | false =>
      obtain ⟨alien, agreed⟩ := foreign state other event next label initial concerns taken
      obtain ⟨last', ended, final⟩ := inductionHypothesis next other later agreed continued
      refine ⟨last', ?_, final⟩
      rw [List.filter_cons_of_neg (by simp [concerns]), List.filter_cons_of_neg (by simp [alien])]
      exact ended

end Machine

end Transitions
