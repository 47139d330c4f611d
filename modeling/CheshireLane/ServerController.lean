import CheshireLane.Library.Transitions
import Mathlib.Logic.Function.Basic

/-!
# The server of the desktop application

The controller spawns a runtime thread, asks it to stop and waits for it. Its calls
are made one after another by the UI thread. The runtime thread takes the lock once,
behind the server, and ends some time later. Every section under the lock is one
step, and so is every join, spawn and send between the sections.
-/

namespace CheshireLane.Desktop

open Transitions

/-- `State`. A sender and a handle are known by the run they belong to. -/
structure State where
  running : Bool := false
  shutdown : Option Nat := none
  thread : Option Nat := none

/-- A runtime thread is in the server, behind its section, or at its end. -/
inductive Phase where
  | serving
  | reporting
  | terminated (panicked : Bool)

/-- A thread spawned, and whether its handle was joined. -/
structure Runtime where
  phase : Phase
  joined : Bool

/-- What a call returns. Of an error this is the outermost context. -/
inductive Answer where
  | started (result : Except String Unit)
  | stopped (asked : Bool)
  | waited (result : Except String Unit)

/-- What a call does that others can see: it takes and frees the lock, joins and spawns threads,
sends the shutdown and returns. -/
inductive Action where
  | lock
  | unlock
  | joined (run : Nat)
  | spawned (run : Nat)
  | sent (run : Nat)
  | returned (answer : Answer)

/-- What the UI thread does next: `start` reaps, claims, spawns and stores, `stop` and
`shutdown_and_wait` ask, and the latter takes the handle, waits and clears. -/
inductive Call where
  | idle
  | reaping (run : Nat)
  | claiming
  | spawning (run : Nat)
  | storing (run : Nat)
  | asking (sender : Option Nat) (waits : Bool)
  | taking
  | waiting (run : Nat)
  | clearing (panicked : Bool)

/-- The state of the program: what the controller holds under its lock, the call in progress on the
UI thread, and every runtime thread that was ever spawned. -/
structure Application where
  state : State := {}
  call : Call := .idle
  runtimes : Nat → Option Runtime := fun _ => none
  runs : Nat := 0

/-- A call is made or goes on, or a runtime thread moves. A spawn or a send may fail. -/
inductive Event where
  | start
  | stop
  | shutdownAndWait
  | proceed (succeeds : Bool)
  | finish (run : Nat)
  | terminate (run : Nat) (panicked : Bool)

/-- The refusal of a second start. -/
def alreadyRunning : Answer := .started (.error "the server is already running")

namespace Application

/-- One thread moves, the others stay as they are. -/
def setRuntime (app : Application) (run : Nat) (runtime : Runtime) : Application :=
  { app with runtimes := Function.update app.runtimes run (some runtime) }

/-- The first section of `start`. -/
def start (app : Application) : Application × List Action :=
  if app.state.running then (app, [.lock, .unlock, .returned alreadyRunning])
  else
    let call := match app.state.thread with
      | some run => Call.reaping run
      | none => .claiming
    ({ app with state := { app.state with thread := none }, call }, [.lock, .unlock])

/-- `stop` is over, on its own or as a part of `shutdown_and_wait`. -/
def stopped (app : Application) (waits asked : Bool) : Application × List Action :=
  if waits then ({ app with call := .taking }, [])
  else ({ app with call := .idle }, [.returned (.stopped asked)])

/-- The section of `stop`. -/
def stop (app : Application) (waits : Bool) : Application × List Action :=
  if app.state.running then
    ({ app with
        state := { app.state with shutdown := none }
        call := .asking app.state.shutdown waits }, [.lock, .unlock])
  else ((app.stopped waits false).1, [.lock, .unlock] ++ (app.stopped waits false).2)

/-- The state behind the failure of a spawn and at the end of `shutdown_and_wait`. -/
def released (app : Application) : Application :=
  { app with state := { app.state with running := false, shutdown := none }, call := .idle }

/-- The next step of the call in progress. A join waits until the thread has ended. -/
def proceed (app : Application) (succeeds : Bool) : Option (Application × List Action) :=
  match app.call with
  | .idle => none
  | .reaping run =>
    match app.runtimes run with
    | some ⟨.terminated panicked, _⟩ =>
      let app := app.setRuntime run ⟨.terminated panicked, true⟩
      if panicked then
        some ({ app with call := .idle },
          [.joined run, .returned (.started (.error "reap previous server runtime thread"))])
      else some ({ app with call := .claiming }, [.joined run])
    | _ => none
  | .claiming =>
    if app.state.running then
      some ({ app with call := .idle }, [.lock, .unlock, .returned alreadyRunning])
    else
      some ({ app with
        state := { app.state with running := true, shutdown := some app.runs }
        call := .spawning app.runs
        runs := app.runs + 1 }, [.lock, .unlock])
  | .spawning run =>
    if succeeds then
      some ({ app.setRuntime run ⟨.serving, false⟩ with call := .storing run }, [.spawned run])
    else
      -- A failed spawn changes nothing, so it is one step with the section behind it.
      some (app.released,
        [.lock, .unlock, .returned (.started (.error "start server runtime thread"))])
  | .storing run =>
    some ({ app with state := { app.state with thread := some run }, call := .idle },
      [.lock, .unlock, .returned (.started (.ok ()))])
  | .asking sender waits =>
    let (next, actions) := app.stopped waits (sender.isSome && succeeds)
    some (next, sender.toList.map .sent ++ actions)
  | .taking =>
    let call := match app.state.thread with
      | some run => Call.waiting run
      | none => .clearing false
    some ({ app with state := { app.state with thread := none }, call }, [.lock, .unlock])
  | .waiting run =>
    match app.runtimes run with
    | some ⟨.terminated panicked, _⟩ =>
      some ({ app.setRuntime run ⟨.terminated panicked, true⟩ with call := .clearing panicked },
        [.joined run])
    | _ => none
  | .clearing panicked =>
    some (app.released, [.lock, .unlock,
      .returned (.waited (if panicked then .error "join server runtime thread" else .ok ()))])

/-- The section of a runtime thread whose server has stopped or failed. -/
def finish (app : Application) (run : Nat) : Option (Application × List Action) :=
  match app.runtimes run with
  | some ⟨.serving, joined⟩ =>
    let app := app.setRuntime run ⟨.reporting, joined⟩
    some ({ app with state := { app.state with running := false, shutdown := none } },
      [.lock, .unlock])
  | _ => none

/-- The thread ends behind its report, by itself or by a panic. -/
def terminate (app : Application) (run : Nat) (panicked : Bool) :
    Option (Application × List Action) :=
  match app.runtimes run with
  | some ⟨.reporting, joined⟩ => some (app.setRuntime run ⟨.terminated panicked, joined⟩, [])
  | _ => none

end Application

/-- The UI thread and the runtime threads. A call is made when the last one is over. -/
def desktop : Machine Application Event (List Action) where
  step app event :=
    match event, app.call with
    | .start, .idle => some app.start
    | .stop, .idle => some (app.stop false)
    | .shutdownAndWait, .idle => some (app.stop true)
    | .proceed succeeds, _ => app.proceed succeeds
    | .finish run, _ => app.finish run
    | .terminate run panicked, _ => app.terminate run panicked
    | _, _ => none

namespace Application

/-- The thread that moved is where it moved to. -/
@[simp] theorem set_self (app : Application) (run : Nat) (runtime : Runtime) :
    (app.setRuntime run runtime).runtimes run = some runtime := Function.update_self ..

/-- All other threads stay. -/
theorem set_other {app : Application} {run other : Nat} {runtime : Runtime} (different : other ≠ run) :
    (app.setRuntime run runtime).runtimes other = app.runtimes other :=
  Function.update_of_ne different ..

/-- A thread moves without the lock, so what the lock guards stays. -/
@[simp] theorem set_state (app : Application) (run : Nat) (runtime : Runtime) :
    (app.setRuntime run runtime).state = app.state := rfl

/-- The handle that is stored, or held by the call in progress. -/
def tracked (app : Application) : Option Nat :=
  match app.call with
  | .reaping run | .storing run | .waiting run => some run
  | _ => app.state.thread

/-- The call in progress has taken the handle out of the controller. -/
def Taken (app : Application) : Prop :=
  match app.call with
  | .idle | .asking _ _ | .taking => False
  | _ => True

/-- The thread is still inside the server it was spawned for. -/
def Serving (app : Application) (run : Nat) : Prop :=
  ∃ joined, app.runtimes run = some ⟨.serving, joined⟩

/-- Whether a thread serves after a move of some thread: only the one that moved can differ. -/
theorem serving_set (app : Application) (run : Nat) (runtime : Runtime) (other : Nat) :
    (app.setRuntime run runtime).Serving other ↔
      if other = run then runtime.phase = .serving else app.Serving other := by
  unfold Serving
  split
  · next same =>
    subst same
    simp only [set_self, Option.some.injEq]
    exact ⟨fun ⟨joined, same⟩ => same ▸ rfl, fun serving => ⟨runtime.joined, serving ▸ rfl⟩⟩
  · next different => rw [set_other different]

/-- A thread behind its section does not serve again. -/
theorem serving_kept {app : Application} {run : Nat} {before after : Phase} {held joined : Bool}
    (known : app.runtimes run = some ⟨before, held⟩) (ended : before ≠ .serving)
    (behind : after ≠ .serving) (other : Nat) :
    (app.setRuntime run ⟨after, joined⟩).Serving other ↔ app.Serving other := by
  rw [serving_set]
  split
  · next same =>
    subst same
    refine iff_of_false behind ?_
    rintro ⟨held', serving⟩
    rw [known] at serving
    injection serving with same
    injection same with phase _
    exact ended phase
  · rfl

/-- A run that was claimed, whose thread is yet to spawn or to take its section. -/
def Current (app : Application) (run : Nat) : Prop := app.call = .spawning run ∨ app.Serving run

/-- A thread that was spawned and has not terminated. -/
def Alive (app : Application) (run : Nat) : Prop :=
  ∃ runtime, app.runtimes run = some runtime ∧ ∀ panicked, runtime.phase ≠ .terminated panicked

end Application

open Application

/-- What one step can do. The lock is taken and given back within a step, and whatever is done
without it is a step of its own. -/
inductive Step (app : Application) : Application → List Action → Prop
  | started (idle : app.call = .idle) : Step app app.start.1 app.start.2
  | stopped (waits : Bool) (idle : app.call = .idle) : Step app (app.stop waits).1 (app.stop waits).2
  | reaped (run : Nat) (joined : Bool) (call : app.call = .reaping run)
      (known : app.runtimes run = some ⟨.terminated false, joined⟩) :
      Step app { app.setRuntime run ⟨.terminated false, true⟩ with call := .claiming } [.joined run]
  | broken (run : Nat) (joined : Bool) (call : app.call = .reaping run)
      (known : app.runtimes run = some ⟨.terminated true, joined⟩) :
      Step app { app.setRuntime run ⟨.terminated true, true⟩ with call := .idle }
        [.joined run, .returned (.started (.error "reap previous server runtime thread"))]
  | refused (call : app.call = .claiming) :
      Step app { app with call := .idle } [.lock, .unlock, .returned alreadyRunning]
  | claimed (call : app.call = .claiming) :
      Step app { app with
        state := { app.state with running := true, shutdown := some app.runs }
        call := .spawning app.runs
        runs := app.runs + 1 } [.lock, .unlock]
  | spawned (run : Nat) (call : app.call = .spawning run) :
      Step app { app.setRuntime run ⟨.serving, false⟩ with call := .storing run } [.spawned run]
  | failed (run : Nat) (call : app.call = .spawning run) :
      Step app app.released
        [.lock, .unlock, .returned (.started (.error "start server runtime thread"))]
  | stored (run : Nat) (call : app.call = .storing run) :
      Step app { app with state := { app.state with thread := some run }, call := .idle }
        [.lock, .unlock, .returned (.started (.ok ()))]
  | asked (sender : Option Nat) (waits asked : Bool) (call : app.call = .asking sender waits) :
      Step app (app.stopped waits asked).1 (sender.toList.map .sent ++ (app.stopped waits asked).2)
  | took (call : app.call = .taking) :
      Step app { app with
        state := { app.state with thread := none }
        call := match app.state.thread with
          | some run => .waiting run
          | none => .clearing false } [.lock, .unlock]
  | waited (run : Nat) (panicked joined : Bool) (call : app.call = .waiting run)
      (known : app.runtimes run = some ⟨.terminated panicked, joined⟩) :
      Step app { app.setRuntime run ⟨.terminated panicked, true⟩ with call := .clearing panicked }
        [.joined run]
  | cleared (panicked : Bool) (call : app.call = .clearing panicked) :
      Step app app.released [.lock, .unlock,
        .returned (.waited (if panicked then .error "join server runtime thread" else .ok ()))]
  | finished (run : Nat) (joined : Bool) (known : app.runtimes run = some ⟨.serving, joined⟩) :
      Step app { app.setRuntime run ⟨.reporting, joined⟩ with
        state := { app.state with running := false, shutdown := none } } [.lock, .unlock]
  | terminated (run : Nat) (panicked joined : Bool)
      (known : app.runtimes run = some ⟨.reporting, joined⟩) :
      Step app (app.setRuntime run ⟨.terminated panicked, joined⟩) []

/-- What the call in progress does next. One case for each place at which it may stand. What it may
do depends on the thread that it waits for, and on whether spawning succeeds. -/
theorem proceed_cases {app next : Application} {succeeds : Bool} {actions : List Action}
    (taken : app.proceed succeeds = some (next, actions)) : Step app next actions := by
  unfold Application.proceed at taken
  cases call : app.call with
  | idle => simp [call] at taken
  | reaping run =>
    simp only [call] at taken
    split at taken
    · next panicked joined known =>
      cases panicked <;> cases taken
      · exact .reaped run joined call known
      · exact .broken run joined call known
    · cases taken
  | claiming =>
    simp only [call] at taken
    split at taken <;> cases taken
    · exact .refused call
    · exact .claimed call
  | spawning run =>
    simp only [call] at taken
    split at taken <;> cases taken
    · exact .spawned run call
    · exact .failed run call
  | storing run =>
    simp only [call] at taken
    cases taken
    exact .stored run call
  | asking sender waits =>
    simp only [call] at taken
    cases taken
    exact .asked sender waits _ call
  | taking =>
    simp only [call] at taken
    cases taken
    exact .took call
  | waiting run =>
    simp only [call] at taken
    split at taken
    · next panicked joined known =>
      cases taken
      exact .waited run panicked joined call known
    · cases taken
  | clearing panicked =>
    simp only [call] at taken
    cases taken
    exact .cleared panicked call

/-- Everything a step can do, with what it needs. All invariants below are derived from these cases
and unfold no step themselves. -/
theorem step_cases {app next : Application} {event : Event} {actions : List Action}
    (taken : desktop.step app event = some (next, actions)) : Step app next actions := by
  simp only [desktop] at taken
  split at taken
  · next idle =>
    obtain ⟨rfl, rfl⟩ : app.start.1 = next ∧ app.start.2 = actions :=
      Prod.ext_iff.mp (Option.some.inj taken)
    exact .started idle
  · next idle =>
    obtain ⟨rfl, rfl⟩ : (app.stop false).1 = next ∧ (app.stop false).2 = actions :=
      Prod.ext_iff.mp (Option.some.inj taken)
    exact .stopped false idle
  · next idle =>
    obtain ⟨rfl, rfl⟩ : (app.stop true).1 = next ∧ (app.stop true).2 = actions :=
      Prod.ext_iff.mp (Option.some.inj taken)
    exact .stopped true idle
  · exact proceed_cases taken
  · next run =>
    unfold finish at taken
    split at taken
    · next joined known =>
      cases taken
      exact .finished run joined known
    · cases taken
  · next run panicked =>
    unfold terminate at taken
    split at taken
    · next joined known =>
      cases taken
      exact .terminated run panicked joined known
    · cases taken
  · cases taken

/-- The one handle tracked is that of the one thread not joined, and the flag and the
sender belong to the current run. -/
structure Tracked (app : Application) : Prop where
  fresh : ∀ run, app.runs ≤ run → app.runtimes run = none
  handle : ∀ run, app.tracked = some run ↔ ∃ phase, app.runtimes run = some ⟨phase, false⟩
  reaped : ∀ run phase, app.runtimes run = some ⟨phase, true⟩ →
    ∃ panicked, phase = .terminated panicked
  taken : app.Taken → app.state.thread = none
  spawning : ∀ run, app.call = .spawning run → app.runtimes run = none ∧ run < app.runs
  running : app.state.running = true ↔ ∃ run, app.Current run
  sender : ∀ run, app.state.shutdown = some run → app.Current run

namespace Tracked

variable {app : Application}

/-- The program starts without threads and with nothing tracked. -/
theorem fresh_start : Tracked {} where
  fresh _ _ := rfl
  handle run := by simp [Application.tracked]
  reaped run phase known := nomatch known
  taken _ := rfl
  spawning run call := nomatch call
  running := by simp [Current, Serving]
  sender run sender := nomatch sender

/-- A thread that has not terminated is the one tracked. -/
theorem alive (tracked : Tracked app) {run : Nat} (alive : app.Alive run) :
    app.tracked = some run := by
  obtain ⟨⟨phase, _ | _⟩, known, running⟩ := alive
  · exact (tracked.handle run).mpr ⟨phase, known⟩
  · obtain ⟨panicked, ended⟩ := tracked.reaped run phase known
    exact absurd ended (running panicked)

/-- A thread that serves has not terminated. -/
theorem serving_alive {run : Nat} (serving : app.Serving run) : app.Alive run := by
  obtain ⟨joined, known⟩ := serving
  exact ⟨_, known, fun _ => nofun⟩

/-- The handle tracked has not been joined. -/
theorem unjoined (tracked : Tracked app) {run : Nat} {phase : Phase} {joined : Bool}
    (held : app.tracked = some run) (known : app.runtimes run = some ⟨phase, joined⟩) :
    joined = false := by
  obtain ⟨other, waiting⟩ := (tracked.handle run).mp held
  rw [known] at waiting
  injection waiting with same
  injection same

/-- A thread that is known stays below the number of runs. -/
theorem set_fresh (tracked : Tracked app) {run : Nat} {runtime next : Runtime}
    (known : app.runtimes run = some runtime) :
    ∀ other, app.runs ≤ other → (app.setRuntime run next).runtimes other = none := by
  intro other outside
  have absent := tracked.fresh other outside
  have different : other ≠ run := by
    rintro rfl
    rw [absent] at known
    cases known
  rw [set_other different, absent]

/-- A thread that is not joined leaves the joined ones as they are. -/
theorem set_reaped (tracked : Tracked app) (run : Nat) (phase : Phase) :
    ∀ other phase', (app.setRuntime run ⟨phase, false⟩).runtimes other = some ⟨phase', true⟩ →
      ∃ panicked, phase' = .terminated panicked := by
  intro other phase' joined
  by_cases same : other = run
  · subst same
    simp at joined
  · rw [set_other same] at joined
    exact tracked.reaped other phase' joined

/-- While a run is spawned no server runs. -/
theorem current_unique (tracked : Tracked app) {left right : Nat} (first : app.Current left)
    (second : app.Current right) : left = right := by
  have apart : ∀ {spawned serving : Nat}, app.call = .spawning spawned → ¬ app.Serving serving := by
    intro spawned serving call server
    have handle := tracked.alive (serving_alive server)
    have none := tracked.taken (by simp [Taken, call])
    simp [Application.tracked, call, none] at handle
  rcases first with call | left <;> rcases second with call' | right
  · rw [call] at call'
    injection call'
  · exact absurd right (apart call)
  · exact absurd left (apart call')
  · exact Option.some.inj ((tracked.alive (serving_alive left)).symm.trans
      (tracked.alive (serving_alive right)))

/-- The handle moves between the controller and the call, and no run is spawned. Neither the threads
nor the flag change by it, so everything that is said of them stays true. -/
theorem moved (tracked : Tracked app) (thread : Option Nat) (call : Call)
    (before : ∀ run, app.call ≠ .spawning run) (after : ∀ run, call ≠ .spawning run)
    (same : { app with state := { app.state with thread }, call }.tracked = app.tracked)
    (taken : { app with state := { app.state with thread }, call }.Taken → thread = none) :
    Tracked { app with state := { app.state with thread }, call } where
  fresh := tracked.fresh
  handle run := by rw [same]; exact tracked.handle run
  reaped := tracked.reaped
  taken := taken
  spawning run spawning := absurd spawning (after run)
  running := by
    have running := tracked.running
    simp only [Current, before, after, false_or] at running ⊢
    exact running
  sender run sender := by
    have current := tracked.sender run sender
    exact .inr (current.resolve_left (before run))

/-- The handle held by the call is joined, and the call goes on without it. A thread that was joined
has ended, and so it is not the current one. -/
theorem joined (tracked : Tracked app) {run : Nat} {panicked : Bool} {next : Call}
    (known : app.runtimes run = some ⟨.terminated panicked, false⟩) (taken : app.Taken)
    (before : ∀ run, app.call ≠ .spawning run) (after : ∀ run, next ≠ .spawning run)
    (free : ∀ app : Application, { app with call := next }.tracked = app.state.thread) :
    Tracked { app.setRuntime run ⟨.terminated panicked, true⟩ with call := next } := by
  have held : app.tracked = some run := (tracked.handle run).mpr ⟨_, known⟩
  have same : ∀ other, { app.setRuntime run ⟨.terminated panicked, true⟩ with call := next }.Current
      other ↔ app.Current other := by
    intro other
    simp only [Current, before, after, false_or]
    exact serving_kept known (by nofun) (by nofun) other
  exact {
    fresh := tracked.set_fresh known
    handle := by
      intro other
      rw [free, set_state, tracked.taken taken]
      refine iff_of_false nofun ?_
      rintro ⟨phase, waiting⟩
      by_cases same : other = run
      · subst same
        simp at waiting
      · rw [set_other same] at waiting
        have other := (tracked.handle other).mpr ⟨phase, waiting⟩
        exact same (Option.some.inj (other.symm.trans held))
    reaped := by
      intro other phase waiting
      by_cases same : other = run
      · subst same
        simp only [set_self, Option.some.injEq, Runtime.mk.injEq] at waiting
        exact ⟨panicked, waiting.1.symm⟩
      · rw [set_other same] at waiting
        exact tracked.reaped other phase waiting
    taken := fun _ => tracked.taken taken
    spawning := fun other call => absurd call (after other)
    running := tracked.running.trans (exists_congr fun other => (same other).symm)
    sender := fun other sender => (same other).mpr (tracked.sender other sender) }

/-- The runtime thread moves on, and the flag and the sender follow it. Which thread is the current
one may change, since it goes by the phase; flag and sender are set together with it. -/
theorem progressed (tracked : Tracked app) {run : Nat} {phase : Phase} (next : Phase)
    {running : Bool} {shutdown : Option Nat}
    (known : app.runtimes run = some ⟨phase, false⟩)
    (flag : running = true ↔ ∃ other, (app.setRuntime run ⟨next, false⟩).Current other)
    (owner : ∀ other, shutdown = some other → (app.setRuntime run ⟨next, false⟩).Current other) :
    Tracked { app.setRuntime run ⟨next, false⟩ with
      state := { app.state with running, shutdown } } where
  fresh := tracked.set_fresh known
  handle other := by
    refine (tracked.handle other).trans ?_
    by_cases same : other = run
    · subst same
      simp [known]
    · simp [set_other same]
  reaped := tracked.set_reaped run next
  taken := tracked.taken
  spawning other call := by
    obtain ⟨absent, small⟩ := tracked.spawning other call
    refine ⟨?_, small⟩
    rw [set_other]
    · exact absent
    · rintro rfl
      rw [absent] at known
      cases known
  running := flag
  sender := owner

/-- The server has ended, and the section of its thread is taken. -/
theorem finished (tracked : Tracked app) {run : Nat}
    (known : app.runtimes run = some ⟨.serving, false⟩) :
    Tracked { app.setRuntime run ⟨.reporting, false⟩ with
      state := { app.state with running := false, shutdown := none } } := by
  refine tracked.progressed .reporting known (iff_of_false nofun ?_) (fun other sender => nomatch sender)
  rintro ⟨other, spawning | serving⟩
  · obtain rfl := tracked.current_unique (.inl spawning) (.inr ⟨_, known⟩)
    rw [(tracked.spawning other spawning).1] at known
    cases known
  · rw [serving_set] at serving
    split at serving
    · cases serving
    · next different =>
      exact different (tracked.current_unique (.inr serving) (.inr ⟨_, known⟩))

/-- A thread that was not joined may terminate: it stays the one tracked, until somebody joins it.
-/
theorem terminated (tracked : Tracked app) {run : Nat} (panicked : Bool)
    (known : app.runtimes run = some ⟨.reporting, false⟩) :
    Tracked (app.setRuntime run ⟨.terminated panicked, false⟩) := by
  have same : ∀ other, (app.setRuntime run ⟨.terminated panicked, false⟩).Current other ↔
      app.Current other :=
    fun other => or_congr Iff.rfl (serving_kept known (by nofun) (by nofun) other)
  exact tracked.progressed _ known
    (tracked.running.trans (exists_congr fun other => (same other).symm))
    (fun other sender => (same other).mpr (tracked.sender other sender))

/-- `start` claims the next run under the lock. No thread serves yet, but the run that is claimed
counts as the current one. -/
theorem claimed (tracked : Tracked app) (claiming : app.call = .claiming) :
    Tracked { app with
      state := { app.state with running := true, shutdown := some app.runs }
      call := .spawning app.runs
      runs := app.runs + 1 } where
  fresh run outside := tracked.fresh run (by simp only at outside; omega)
  handle run := by
    have handle := tracked.handle run
    rw [Application.tracked, claiming] at handle
    exact handle
  reaped := tracked.reaped
  taken _ := tracked.taken (by simp [Taken, claiming])
  spawning run call := by
    injection call with same
    subst same
    exact ⟨tracked.fresh _ (Nat.le_refl _), Nat.lt_succ_self _⟩
  running := iff_of_true rfl ⟨app.runs, .inl rfl⟩
  sender run sender := .inl (congrArg Call.spawning (Option.some.inj sender))

/-- The thread that `start` spawns is the one it claimed the run for. Its number was claimed with
the flag, so no other thread has it, and the flag is on for it already. -/
theorem spawned (tracked : Tracked app) {run : Nat} (spawning : app.call = .spawning run) :
    Tracked { app.setRuntime run ⟨.serving, false⟩ with call := .storing run } := by
  obtain ⟨absent, small⟩ := tracked.spawning run spawning
  have nothing : app.tracked = none := by
    rw [Application.tracked, spawning]
    exact tracked.taken (by simp [Taken, spawning])
  have serving : { app.setRuntime run ⟨.serving, false⟩ with call := .storing run }.Current run :=
    .inr ⟨false, set_self ..⟩
  exact {
    fresh := by
      intro other outside
      rw [set_other]
      · exact tracked.fresh other outside
      · rintro rfl
        exact absurd outside (Nat.not_le_of_lt small)
    handle := by
      intro other
      by_cases same : other = run
      · subst same
        simp [Application.tracked]
      · rw [set_other same]
        refine Iff.trans ?_ (tracked.handle other)
        rw [nothing]
        exact iff_of_false (fun also => same (Option.some.inj also).symm) nofun
    reaped := tracked.set_reaped run .serving
    taken := fun _ => tracked.taken (by simp [Taken, spawning])
    spawning := fun other call => nomatch call
    running := iff_of_true (tracked.running.mpr ⟨run, .inl spawning⟩) ⟨run, serving⟩
    sender := by
      intro other sender
      obtain rfl := tracked.current_unique (tracked.sender other sender) (.inl spawning)
      exact serving }

/-- Without a handle there is no thread left, and the controller is released. So the flag goes off,
and no sender is left behind. -/
theorem released (tracked : Tracked app) (taken : app.Taken) (same : app.tracked = app.state.thread) :
    Tracked app.released := by
  have nothing : app.tracked = none := same.trans (tracked.taken taken)
  exact {
    fresh := tracked.fresh
    handle := by
      have handle := tracked.handle
      rw [same] at handle
      exact handle
    reaped := tracked.reaped
    taken := fun idle => idle.elim
    spawning := fun run call => nomatch call
    running := by
      refine iff_of_false nofun ?_
      rintro ⟨run, spawning | serving⟩
      · cases spawning
      · have handle := tracked.alive (serving_alive serving)
        rw [nothing] at handle
        cases handle
    sender := fun run sender => nomatch sender }

/-- Entering `start` keeps the invariant: with a run that is current it refuses, else it reaps or
claims. -/
theorem start (tracked : Tracked app) (idle : app.call = .idle) : Tracked app.start.1 := by
  have before : ∀ run, app.call ≠ .spawning run := by simp [idle]
  have same : app.tracked = app.state.thread := by rw [Application.tracked, idle]
  unfold Application.start
  split
  · exact tracked
  · refine tracked.moved none _ before ?_ ?_ (fun _ => rfl)
    · cases app.state.thread <;> simp
    · rw [same]
      cases app.state.thread <;> rfl

/-- The lock section that `stop` and `shutdown_and_wait` share keeps the invariant, since it only
takes the sender. -/
theorem stopped (tracked : Tracked app) (waits asked : Bool)
    (before : ∀ run, app.call ≠ .spawning run) (same : app.tracked = app.state.thread) :
    Tracked (app.stopped waits asked).1 := by
  unfold Application.stopped
  split
  · exact tracked.moved app.state.thread _ before nofun same.symm False.elim
  · exact tracked.moved app.state.thread _ before nofun same.symm False.elim

/-- Entering `stop` keeps the invariant. -/
theorem stop (tracked : Tracked app) (waits : Bool) (idle : app.call = .idle) :
    Tracked (app.stop waits).1 := by
  have before : ∀ run, app.call ≠ .spawning run := by simp [idle]
  have same : app.tracked = app.state.thread := by rw [Application.tracked, idle]
  unfold Application.stop
  split
  · exact { tracked.moved app.state.thread (.asking app.state.shutdown waits) before nofun same.symm
      False.elim with sender := nofun }
  · exact tracked.stopped waits false before same

/-- Every step keeps the invariant. One case for each constructor of the step relation. The lemmas
above treat the kinds of moves; here each constructor is brought into the form of one of them. -/
theorem step (tracked : Tracked app) {next : Application} {actions : List Action}
    (taken : Step app next actions) : Tracked next := by
  cases taken with
  | started idle => exact tracked.start idle
  | stopped waits idle => exact tracked.stop waits idle
  | reaped run joined call known =>
    obtain rfl := tracked.unjoined (by rw [Application.tracked, call]) known
    exact tracked.joined known (by simp [Taken, call]) (by simp [call]) nofun fun _ => rfl
  | broken run joined call known =>
    obtain rfl := tracked.unjoined (by rw [Application.tracked, call]) known
    exact tracked.joined known (by simp [Taken, call]) (by simp [call]) nofun fun _ => rfl
  | refused call =>
    exact tracked.moved app.state.thread .idle (by simp [call]) nofun
      (by simp [Application.tracked, call]) False.elim
  | claimed call => exact tracked.claimed call
  | spawned run call => exact tracked.spawned call
  | failed run call =>
    exact tracked.released (by simp [Taken, call]) (by rw [Application.tracked, call])
  | stored run call =>
    exact tracked.moved (some run) .idle (by simp [call]) nofun (by simp [Application.tracked, call])
      False.elim
  | asked sender waits asked call =>
    exact tracked.stopped waits asked (by simp [call]) (by rw [Application.tracked, call])
  | took call =>
    refine tracked.moved none _ (by simp [call]) ?_ ?_ (fun _ => rfl)
    · cases app.state.thread <;> simp
    · rw [show app.tracked = app.state.thread by rw [Application.tracked, call]]
      cases app.state.thread <;> rfl
  | waited run panicked joined call known =>
    obtain rfl := tracked.unjoined (by rw [Application.tracked, call]) known
    exact tracked.joined known (by simp [Taken, call]) (by simp [call]) nofun fun _ => rfl
  | cleared panicked call =>
    exact tracked.released (by simp [Taken, call]) (by rw [Application.tracked, call])
  | finished run joined known =>
    obtain rfl := tracked.unjoined (tracked.alive (serving_alive ⟨_, known⟩)) known
    exact tracked.finished known
  | terminated run panicked joined known =>
    obtain rfl := tracked.unjoined (tracked.alive ⟨_, known, nofun⟩) known
    exact tracked.terminated panicked known

end Tracked

/-- No handle is joined under the lock, and the lock is free at the end. -/
def unlockedJoins : Bool → List Action → Bool
  | held, [] => !held
  | _, .lock :: actions => unlockedJoins true actions
  | _, .unlock :: actions => unlockedJoins false actions
  | held, .joined _ :: actions => !held && unlockedJoins held actions
  | held, .spawned _ :: actions => unlockedJoins held actions
  | held, .sent _ :: actions => unlockedJoins held actions
  | held, .returned _ :: actions => unlockedJoins held actions

/-- Calls that each leave the lock free can follow each other. By induction on the actions of the
first. -/
theorem unlocked_append (held : Bool) (left right : List Action) (first : unlockedJoins held left)
    (second : unlockedJoins false right) : unlockedJoins held (left ++ right) := by
  induction held, left using unlockedJoins.induct with
  | case1 held =>
    obtain rfl : held = false := by simpa [unlockedJoins] using first
    exact second
  | case4 held run actions inductionHypothesis =>
    simp only [unlockedJoins, Bool.and_eq_true] at first
    simp only [List.cons_append, unlockedJoins, first.1, Bool.true_and]
    exact inductionHypothesis first.2
  | _ =>
    rename_i inductionHypothesis
    exact inductionHypothesis first

/-- `stop` sends with the lock held and frees it before it waits. -/
theorem stopped_unlocked (app : Application) (waits asked : Bool) :
    unlockedJoins false (app.stopped waits asked).2 := by
  cases waits <;> rfl

/-- A step joins outside of its section, if it has one. -/
theorem step_unlocked {app next : Application} {actions : List Action}
    (taken : Step app next actions) : unlockedJoins false actions := by
  cases taken with
  | started idle =>
    unfold Application.start
    split <;> rfl
  | stopped waits idle =>
    unfold Application.stop
    split
    · rfl
    · exact stopped_unlocked app waits false
  | asked sender waits asked call => cases sender <;> exact stopped_unlocked app waits asked
  | _ => rfl

/-- In every run the threads are tracked, and the lock is free at every join. -/
theorem desktop_sound (events : List Event) (app : Application) (labels : List (List Action))
    (ran : desktop.run {} events = some (app, labels)) :
    Tracked app ∧ unlockedJoins false labels.flatten := by
  refine Machine.run_always (fun labels app => Tracked app ∧ unlockedJoins false labels.flatten) ?_
    events {} app labels ⟨.fresh_start, rfl⟩ ran
  intro labels app event next actions sound taken
  refine ⟨sound.1.step (step_cases taken), ?_⟩
  rw [List.flatten_append, List.flatten_singleton]
  exact unlocked_append false _ _ sound.2 (step_unlocked (step_cases taken))

/-- Asking for the shutdown does not yet answer one who waits for it. -/
theorem stopped_waits (app : Application) (waits asked : Bool) (result : Except String Unit) :
    Action.returned (.waited result) ∉ (app.stopped waits asked).2 := by
  cases waits <;> simp [Application.stopped]

/-- A call of `shutdown_and_wait` returns from its last section only. -/
theorem step_waited {app next : Application} {actions : List Action} {result : Except String Unit}
    (taken : Step app next actions) (waited : Action.returned (.waited result) ∈ actions) :
    ∃ panicked, app.call = .clearing panicked ∧ next = app.released := by
  cases taken with
  | started idle =>
    unfold Application.start at waited
    split at waited <;> simp [alreadyRunning] at waited
  | stopped waits idle =>
    unfold Application.stop at waited
    split at waited <;> simp [stopped_waits] at waited
  | asked sender waits asked call => simp [stopped_waits] at waited
  | cleared panicked call => exact ⟨panicked, call, rfl⟩
  | _ => simp [alreadyRunning] at waited

/-- One server runs at most, and no runtime thread is lost.

The invariant ties the handle that the controller tracks to the one thread that was not joined, and
the flag and the sender to the current run. Two threads that are alive are both the one tracked. -/
theorem desktop_tracked (events : List Event) (app : Application) (labels : List (List Action))
    (ran : desktop.run {} events = some (app, labels)) :
    (∀ left right, app.Alive left → app.Alive right → left = right) ∧
      (app.state.running = true ↔ ∃ run, app.Current run) ∧
      (∀ owner, app.state.shutdown = some owner →
        app.Current owner ∧ ∀ run, app.Serving run → run = owner) ∧
      (∀ run runtime, app.runtimes run = some runtime →
        app.tracked = some run ∨ runtime.joined = true) ∧
      (app.call = .idle → ∀ run runtime, app.runtimes run = some runtime →
        app.state.thread = some run ∨ runtime.joined = true) ∧
      unlockedJoins false labels.flatten ∧
      (app.call = .idle → app.state.running = true →
        desktop.step app .start = some (app, [.lock, .unlock, .returned alreadyRunning])) ∧
      ∀ event next actions result, desktop.step app event = some (next, actions) →
        Action.returned (.waited result) ∈ actions →
        next.state.running = false ∧ ∀ run, ¬ next.Alive run := by
  obtain ⟨tracked, unlocked⟩ := desktop_sound events app labels ran
  have handles : ∀ run runtime, app.runtimes run = some runtime →
      app.tracked = some run ∨ runtime.joined = true := by
    rintro run ⟨phase, _ | _⟩ known
    · exact .inl ((tracked.handle run).mpr ⟨phase, known⟩)
    · exact .inr rfl
  refine ⟨?_, tracked.running, ?_, handles, ?_, unlocked, ?_, ?_⟩
  · intro left right first second
    exact Option.some.inj ((tracked.alive first).symm.trans (tracked.alive second))
  · intro owner sender
    have current := tracked.sender owner sender
    exact ⟨current, fun run serving => tracked.current_unique (.inr serving) current⟩
  · intro idle
    rw [Application.tracked, idle] at handles
    exact handles
  · intro idle running
    simp [desktop, idle, Application.start, running]
  · intro event next actions result taken waited
    obtain ⟨panicked, call, rfl⟩ := step_waited (step_cases taken) waited
    have none := tracked.taken (by simp [Taken, call])
    refine ⟨rfl, fun run alive => ?_⟩
    have handle := tracked.alive alive
    rw [Application.tracked, call, none] at handle
    cases handle

/-- A server fails on its own, the next one is asked to stop, and then the window is
closed. -/
theorem desktop_tracked_twice :
    let events : List Event :=
      [.start, .proceed true, .proceed true, .proceed true, .finish 0, .terminate 0 false,
        .start, .proceed true, .proceed true, .proceed true, .proceed true,
        .shutdownAndWait, .proceed true, .proceed true, .finish 1, .terminate 1 false,
        .proceed true, .proceed true]
    ∃ app labels, desktop.run {} events = some (app, labels) ∧
      (∀ left right, app.Alive left → app.Alive right → left = right) ∧
      unlockedJoins false labels.flatten := by
  intro events
  have ran : (desktop.run {} events).isSome := rfl
  obtain ⟨⟨app, labels⟩, ran⟩ := Option.isSome_iff_exists.mp ran
  obtain ⟨one, _, _, _, _, unlocked, _⟩ := desktop_tracked events app labels ran
  exact ⟨app, labels, ran, one, unlocked⟩

end CheshireLane.Desktop
