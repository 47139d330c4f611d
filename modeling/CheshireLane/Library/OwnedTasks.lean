import Mathlib.Logic.Function.Basic

/-!
# Tasks that own tasks

Every task is held in the set of the task that spawned it, or of the caller. A set
aborts its tasks on demand, and it is dropped with its owner, which aborts them too. An
abort does not end a task: it ends on its own or is cancelled at some later time. An
owner may join a task that has ended, once.
-/

namespace OwnedTasks

universe u v
variable {τ : Type u} {ρ : Type v} [DecidableEq τ]

/-- How a task ends: with a result, by a panic, or because it was aborted. -/
inductive Outcome (ρ : Type v) where
  | returned (value : ρ)
  | panicked
  | cancelled

/-- How far a task is. An abort is asked for first and takes effect later. -/
inductive Progress (ρ : Type v) where
  | running
  | aborted
  | ended (outcome : Outcome ρ)

/-- A task that was spawned; one without an owner is the caller's. -/
structure Task (τ : Type u) (ρ : Type v) where
  owner : Option τ
  progress : Progress ρ := .running
  joined : Bool := false

/-- Asking for an abort does nothing to a task that has ended. -/
def Progress.abort : Progress ρ → Progress ρ
  | .running => .aborted
  | progress => progress

/-- The task has ended, in whatever way. -/
def Progress.isEnded : Progress ρ → Bool
  | .ended _ => true
  | _ => false

/-- Only an aborted task is cancelled. -/
def Progress.allows : Progress ρ → Outcome ρ → Bool
  | .ended _, _ => false
  | .running, .cancelled => false
  | _, _ => true

/-- The tasks by their names. A name without a task was never spawned. -/
abbrev Tasks (τ : Type u) (ρ : Type v) := τ → Option (Task τ ρ)

namespace Tasks

variable (tasks : Tasks τ ρ)

/-- A task that was spawned and has not ended. -/
def alive (id : τ) : Bool :=
  match tasks id with
  | some task => !task.progress.isEnded
  | none => false

/-- One task moves, the others stay. -/
def set (id : τ) (task : Task τ ρ) : Tasks τ ρ := Function.update tasks id (some task)

/-- The owner, if it is a task, is still there; the new task is not there yet. -/
def spawn (owner : Option τ) (id : τ) : Option (Tasks τ ρ) :=
  match tasks id, owner.all tasks.alive with
  | none, true => some (tasks.set id { owner })
  | _, _ => none

/-- Abort what the owner holds. -/
def abortAll (owner : Option τ) : Tasks τ ρ := fun id =>
  (tasks id).map fun task =>
    if task.owner = owner then { task with progress := task.progress.abort } else task

/-- A task ends, and the set that it holds is dropped. -/
def finish (id : τ) (outcome : Outcome ρ) : Option (Tasks τ ρ) :=
  match tasks id with
  | none => none
  | some task =>
    if task.progress.allows outcome then
      some ((tasks.abortAll (some id)).set id { task with progress := .ended outcome })
    else none

/-- The owner takes an ended task out of its set. -/
def join (owner : Option τ) (id : τ) : Option (Outcome ρ × Tasks τ ρ) :=
  match tasks id with
  | some ⟨holder, .ended outcome, false⟩ =>
    if holder = owner then some (outcome, tasks.set id ⟨holder, .ended outcome, true⟩) else none
  | _ => none

end Tasks

/-- The owner of a task is known, and if it has ended the task was aborted or has ended too. A
joined task has ended. -/
structure Orderly (tasks : Tasks τ ρ) : Prop where
  owned : ∀ id task owner, tasks id = some task → task.owner = some owner →
    ∃ holder, tasks owner = some holder ∧
      (holder.progress.isEnded = true → task.progress ≠ .running)
  ended : ∀ id task, tasks id = some task → task.joined = true → task.progress.isEnded = true

variable {tasks next : Tasks τ ρ}

/-- The task that moved is where it moved to. -/
@[simp] theorem set_self (id : τ) (task : Task τ ρ) : tasks.set id task id = some task :=
  Function.update_self ..

/-- All other tasks stay. -/
theorem set_other {id other : τ} (different : other ≠ id) (task : Task τ ρ) :
    tasks.set id task other = tasks other :=
  Function.update_of_ne different ..

/-- An abort ends no task by itself. -/
theorem abort_ended (progress : Progress ρ) : progress.abort.isEnded = progress.isEnded := by
  cases progress <;> rfl

/-- A task that is to be aborted no longer counts as running. -/
theorem abort_stopped {progress : Progress ρ} : progress.abort ≠ .running := by
  cases progress <;> nofun

/-- What a task is after an abort of a set. -/
theorem abort_all_some {owner : Option τ} {id : τ} {task : Task τ ρ}
    (known : tasks.abortAll owner id = some task) :
    ∃ before, tasks id = some before ∧ task.owner = before.owner ∧ task.joined = before.joined ∧
      task.progress.isEnded = before.progress.isEnded ∧
      (task.progress = before.progress ∨ task.progress = before.progress.abort) ∧
      (before.owner = owner → task.progress = before.progress.abort) := by
  simp only [Tasks.abortAll, Option.map_eq_some_iff] at known
  obtain ⟨before, held, rfl⟩ := known
  refine ⟨before, held, ?_⟩
  split
  · exact ⟨rfl, rfl, abort_ended _, .inr rfl, fun _ => rfl⟩
  · next other => exact ⟨rfl, rfl, rfl, .inl rfl, fun same => absurd same other⟩

/-- Aborting the tasks of an owner forgets none, and none of them has ended by it. -/
theorem abort_all_known (owner : Option τ) {id : τ} {before : Task τ ρ}
    (known : tasks id = some before) :
    ∃ task, tasks.abortAll owner id = some task ∧
      task.progress.isEnded = before.progress.isEnded := by
  refine ⟨_, by rw [Tasks.abortAll, known]; rfl, ?_⟩
  dsimp only
  split
  · exact abort_ended _
  · rfl

namespace Orderly

omit [DecidableEq τ] in

/-- Without tasks nothing can be out of order. -/
theorem empty : Orderly (fun _ => none : Tasks τ ρ) :=
  ⟨fun _ _ _ known => (Option.some_ne_none _ known.symm).elim,
    fun _ _ known => (Option.some_ne_none _ known.symm).elim⟩

/-- Aborting all tasks of an owner keeps the order: it ends nobody, so nobody who is owned is left
behind. -/
theorem abortAll (orderly : Orderly tasks) (owner : Option τ) : Orderly (tasks.abortAll owner) where
  owned id task holder known owned := by
    obtain ⟨before, held, same, _, _, progress, _⟩ := abort_all_some known
    obtain ⟨above, present, stopped⟩ := orderly.owned id before holder held (same ▸ owned)
    obtain ⟨after, found, ended⟩ := abort_all_known owner present
    refine ⟨after, found, fun finished => ?_⟩
    rcases progress with same | same
    · rw [same]
      exact stopped (ended ▸ finished)
    · rw [same]
      exact abort_stopped
  ended id task known joined := by
    obtain ⟨before, held, _, same, ended, _⟩ := abort_all_some known
    rw [ended]
    exact orderly.ended id before held (same ▸ joined)

/-- A new task keeps the order, since its owner is known and has not ended. Nothing was owned by its
id before, so the other tasks have the owners they had. -/
theorem spawn (orderly : Orderly tasks) {owner : Option τ} {id : τ}
    (taken : tasks.spawn owner id = some next) : Orderly next := by
  unfold Tasks.spawn at taken
  split at taken
  · next fresh there =>
    cases taken
    constructor
    · intro other task holder known owned
      by_cases same : other = id
      · subst same
        rw [set_self] at known
        cases known
        subst owned
        simp only [Option.all_some, Tasks.alive] at there
        split at there
        · next above present =>
          have different : holder ≠ other := by
            rintro rfl
            rw [fresh] at present
            cases present
          refine ⟨above, by rw [set_other different, present], fun finished => ?_⟩
          rw [finished] at there
          cases there
        · cases there
      · rw [set_other same] at known
        obtain ⟨above, present, stopped⟩ := orderly.owned other task holder known owned
        have different : holder ≠ id := by
          rintro rfl
          rw [fresh] at present
          cases present
        exact ⟨above, by rw [set_other different, present], stopped⟩
    · intro other task known joined
      by_cases same : other = id
      · subst same
        rw [set_self] at known
        cases known
        cases joined
      · rw [set_other same] at known
        exact orderly.ended other task known joined
  · cases taken

/-- A task changes, but keeps its owner, and what it holds is aborted if it has ended. Its owner
keeps its place, and as the owner of others it is as before unless it has ended now. -/
theorem changed (orderly : Orderly tasks) {id : τ} {before after : Task τ ρ}
    (known : tasks id = some before) (owner : after.owner = before.owner)
    (stopped : before.progress ≠ .running → after.progress ≠ .running)
    (joined : after.joined = true → after.progress.isEnded = true)
    (dropped : after.progress.isEnded = true → before.progress.isEnded = true ∨
      ∀ other task, tasks other = some task → task.owner = some id → task.progress ≠ .running) :
    Orderly (tasks.set id after) where
  owned other task holder present owned := by
    have above : ∀ task, tasks other = some task → task.owner = some holder →
        ∃ holder', tasks.set id after holder = some holder' ∧
          (holder'.progress.isEnded = true → task.progress ≠ .running) := by
      intro task before owned
      obtain ⟨above, held, quiet⟩ := orderly.owned other task holder before owned
      by_cases same : holder = id
      · subst same
        rw [known] at held
        cases held
        refine ⟨after, set_self .., fun finished => ?_⟩
        rcases dropped finished with already | dropped
        · exact quiet already
        · exact dropped other task before owned
      · exact ⟨above, by rw [set_other same, held], quiet⟩
    by_cases same : other = id
    · subst same
      rw [set_self] at present
      cases present
      obtain ⟨holder', held, quiet⟩ := above before known (owner ▸ owned)
      exact ⟨holder', held, fun finished => stopped (quiet finished)⟩
    · rw [set_other same] at present
      exact above task present owned
  ended other task present taken := by
    by_cases same : other = id
    · subst same
      rw [set_self] at present
      cases present
      exact joined taken
    · rw [set_other same] at present
      exact orderly.ended other task present taken

end Orderly

/-- Ending a task is aborting what it holds and ending it. It may end by itself while it runs or is
aborted, and as cancelled only if it was aborted. -/
theorem finish_cases {id : τ} {outcome : Outcome ρ} (taken : tasks.finish id outcome = some next) :
    ∃ task, tasks id = some task ∧ task.progress.isEnded = false ∧
      (outcome = .cancelled → task.progress = .aborted) ∧
      next = (tasks.abortAll (some id)).set id { task with progress := .ended outcome } := by
  unfold Tasks.finish at taken
  split at taken
  · cases taken
  · next task known =>
    split at taken
    · next allowed =>
      cases taken
      obtain ⟨owner, progress, joined⟩ := task
      refine ⟨_, known, ?_, ?_, rfl⟩
      · cases progress <;> first | rfl | cases allowed
      · rintro rfl
        cases progress <;> first | rfl | cases allowed
    · cases taken

/-- A join is of an own task that has ended and was not joined, and only marks it. -/
theorem join_cases {owner : Option τ} {id : τ} {outcome : Outcome ρ}
    (taken : tasks.join owner id = some (outcome, next)) :
    tasks id = some ⟨owner, .ended outcome, false⟩ ∧
      next = tasks.set id ⟨owner, .ended outcome, true⟩ := by
  unfold Tasks.join at taken
  split at taken
  · split at taken
    · next same =>
      subst same
      cases taken
      exact ⟨‹_›, rfl⟩
    · cases taken
  · cases taken

namespace Orderly

/-- The end of a task keeps the order, because it takes the tasks it owns with it. -/
theorem finish (orderly : Orderly tasks) {id : τ} {outcome : Outcome ρ}
    (taken : tasks.finish id outcome = some next) : Orderly next := by
  obtain ⟨task, known, unended, _, rfl⟩ := finish_cases taken
  have aborted : tasks.abortAll (some id) id = some (if task.owner = some id then
      { task with progress := task.progress.abort } else task) := by
    rw [Tasks.abortAll, known]
    rfl
  refine (orderly.abortAll (some id)).changed aborted ?_ nofun (fun _ => rfl) fun _ => .inr ?_
  · split <;> rfl
  · intro other held known owned
    obtain ⟨before, _, same, _, _, _, stopped⟩ := abort_all_some known
    rw [stopped (same ▸ owned)]
    exact abort_stopped

/-- A join keeps the order. The task has ended already. -/
theorem join (orderly : Orderly tasks) {owner : Option τ} {id : τ} {outcome : Outcome ρ}
    (taken : tasks.join owner id = some (outcome, next)) : Orderly next := by
  obtain ⟨known, rfl⟩ := join_cases taken
  exact orderly.changed known rfl nofun (fun _ => rfl) fun _ => .inl rfl

end Orderly

end OwnedTasks
