import CheshireLane.ConfigRoundTrip
import CheshireLane.DesktopWindow
import Mathlib.Data.List.Nodup

/-!
# What the window shows of the server

The buttons of the window are enabled by a flag that the callbacks and the closures of
the runtime threads set. The flag is on just while a thread has been spawned whose closure
has not run. So Start never finds a server, Save and Start never write while one runs, and
what a server was given is what the file holds.
-/

namespace CheshireLane.Desktop

open Transitions

variable {SocketAddr : Type} {sockets : SocketTexts SocketAddr} {toml : Toml SocketAddr}

namespace Program

/-- A thread was spawned, and its closure has not run. -/
def Live (program : Program SocketAddr) (run : Nat) : Prop :=
  program.app.runtimes run ≠ none ∧
    (program.posted run = false ∨ run ∈ program.queue.map Prod.fst)

end Program

/-- The file holds the configuration, which was read off a form. -/
def OnDisk (sockets : SocketTexts SocketAddr) (toml : Toml SocketAddr) (file : ConfigFile)
    (config : Option (Config SocketAddr)) : Prop :=
  ∃ text known form, config = some known ∧ file = .text text ∧ toml.parse text = some known ∧
    FormValues.intoConfig sockets form = .ok known

/-- Where the call of a callback may stand. Start is called while the window shows no server. -/
def Allowed (serverRunning : Bool) : Process → Call → Prop
  | .closed, call => call = .idle
  | .running, .idle => True
  | .running, .asking _ waits => waits = false
  | .running, .reaping _ | .running, .claiming | .running, .spawning _ | .running, .storing _ =>
    serverRunning = false
  | .running, .taking | .running, .waiting _ | .running, .clearing _ => False
  | .closing, .asking _ waits => waits = true
  | .closing, .taking | .closing, .waiting _ | .closing, .clearing _ => True
  | .closing, .idle | .closing, .reaping _ | .closing, .claiming | .closing, .spawning _
  | .closing, .storing _ => False

/-- Start has a configuration that no thread was given yet. -/
def Starting : Call → Prop
  | .reaping _ | .claiming | .spawning _ => True
  | _ => False

/-- The window shows a server just when there is a thread whose closure has not run, and such
a thread was given what the file holds. -/
structure Guarded (sockets : SocketTexts SocketAddr) (toml : Toml SocketAddr)
    (program : Program SocketAddr) : Prop where
  tracked : Tracked program.app
  allowed : Allowed program.window.serverRunning program.process program.app.call
  closed : program.process = .closed → ∀ run, program.app.runtimes run = none
  posted : ∀ run, program.posted run = true →
    ∃ phase joined, program.app.runtimes run = some ⟨phase, joined⟩ ∧ phase ≠ .serving
  queued : ∀ run ∈ program.queue.map Prod.fst, program.posted run = true
  apart : (program.queue.map Prod.fst).Nodup
  live : program.process = .running → ∀ run, program.Live run →
    program.app.tracked = some run ∧
      (program.window.serverRunning = true ∨ program.app.call = .storing run)
  shown : program.process = .running → program.window.serverRunning = true →
    ∃ run, program.Live run
  given : ∀ run, program.Live run → OnDisk sockets toml program.file (program.given run)
  starting : Starting program.app.call → OnDisk sockets toml program.file program.starting
  stored : ∀ run, program.app.call = .storing run → program.Live run

namespace Application

variable {app : Application}

/-- A thread that moves on stays spawned, and no other thread does anything. -/
theorem set_spawned {run : Nat} {before : Runtime} (after : Runtime)
    (known : app.runtimes run = some before) (other : Nat) :
    (app.setRuntime run after).runtimes other = none ↔ app.runtimes other = none := by
  by_cases same : other = run
  · subst same
    simp [known]
  · rw [set_other same]

/-- A thread behind its section stays behind it. -/
theorem set_behind {run : Nat} {after : Runtime} (ended : after.phase ≠ .serving) (other : Nat)
    (phase : Phase) (joined : Bool) (known : app.runtimes other = some ⟨phase, joined⟩)
    (behind : phase ≠ .serving) :
    ∃ phase joined, (app.setRuntime run after).runtimes other = some ⟨phase, joined⟩ ∧
      phase ≠ .serving := by
  by_cases same : other = run
  · subst same
    exact ⟨after.phase, after.joined, set_self .., ended⟩
  · exact ⟨phase, joined, by rw [set_other same, known], behind⟩

end Application

namespace Guarded

variable {program : Program SocketAddr}

/-- A thread that serves is one whose server is live. -/
theorem live_serving (guarded : Guarded sockets toml program) {run : Nat}
    (serving : program.app.Serving run) : program.Live run := by
  obtain ⟨joined, known⟩ := serving
  refine ⟨by rw [known]; exact Option.some_ne_none _, .inl ?_⟩
  by_contra posted
  obtain ⟨phase, _, behind, ended⟩ := guarded.posted run (by simpa using posted)
  rw [known] at behind
  cases behind
  exact ended rfl

/-- While the window shows no server there is no live thread but one that is being stored. -/
theorem quiet (guarded : Guarded sockets toml program) (running : program.process = .running)
    (flag : program.window.serverRunning = false) (call : ∀ run, program.app.call ≠ .storing run)
    (run : Nat) : ¬ program.Live run := by
  intro live
  rcases (guarded.live running run live).2 with shown | storing
  · rw [flag] at shown
    cases shown
  · exact call run storing

/-- Without a live thread no server runs unless one is being spawned. -/
theorem stopped (guarded : Guarded sockets toml program) (quiet : ∀ run, ¬ program.Live run)
    (call : ∀ run, program.app.call ≠ .spawning run) : program.app.state.running = false := by
  by_contra running
  obtain ⟨run, spawning | serving⟩ := guarded.tracked.running.mp (by simpa using running)
  · exact call run spawning
  · exact quiet run (guarded.live_serving serving)

/-- The controller moves, and every thread that was spawned is still known. What the fields say of
the threads and of the window is about the new state; the queue of the event loop and the closures
that were posted are as they were. -/
theorem advanced (guarded : Guarded sockets toml program) {app : Application} {window : AppWindow}
    {process : Process} (tracked : Tracked app)
    (allowed : Allowed window.serverRunning process app.call)
    (there : process ≠ .closed)
    (spawned : ∀ run, app.runtimes run = none ↔ program.app.runtimes run = none)
    (behind : ∀ run phase joined, program.app.runtimes run = some ⟨phase, joined⟩ →
      phase ≠ .serving → ∃ phase joined, app.runtimes run = some ⟨phase, joined⟩ ∧ phase ≠ .serving)
    (live : process = .running → ∀ run, program.Live run →
      app.tracked = some run ∧ (window.serverRunning = true ∨ app.call = .storing run))
    (shown : process = .running → window.serverRunning = true → ∃ run, program.Live run)
    (starting : Starting app.call → OnDisk sockets toml program.file program.starting)
    (stored : ∀ run, app.call = .storing run → program.Live run) :
    Guarded sockets toml { program with app, window, process } := by
  have same : ∀ run, { program with app, window, process }.Live run ↔ program.Live run :=
    fun run => and_congr (not_congr (spawned run)) Iff.rfl
  exact {
    tracked
    allowed
    closed := fun closed => absurd closed there
    posted := by
      intro run posted
      obtain ⟨phase, joined, known, ended⟩ := guarded.posted run posted
      exact behind run phase joined known ended
    queued := guarded.queued
    apart := guarded.apart
    live := fun running run alive => live running run ((same run).mp alive)
    shown := fun running flag =>
      have ⟨run, alive⟩ := shown running flag
      ⟨run, (same run).mpr alive⟩
    given := fun run alive => guarded.given run ((same run).mp alive)
    starting
    stored := fun run storing => (same run).mpr (stored run storing) }

/-- While no server is shown the file may change. No thread is live then, so no server was given
what the file held. -/
theorem refiled (guarded : Guarded sockets toml program) (running : program.process = .running)
    (flag : program.window.serverRunning = false) (call : program.app.call = .idle)
    (file : ConfigFile) (window : AppWindow) (starting : Option (Config SocketAddr))
    (hidden : window.serverRunning = false) :
    Guarded sockets toml { program with file, window, starting } := by
  have quiet : ∀ run, ¬ { program with file, window, starting }.Live run :=
    guarded.quiet running flag fun run storing => by simp [call] at storing
  exact { guarded with
    allowed := by
      rw [hidden, ← flag]
      exact guarded.allowed
    live := fun _ run alive => absurd alive (quiet run)
    shown := fun _ shown => by
      rw [hidden] at shown
      cases shown
    given := fun run alive => absurd alive (quiet run)
    starting := fun stage => by simp [call, Starting] at stage
    stored := fun run storing => by simp [call] at storing }

/-- A program that is gone has no thread. -/
theorem gone (file : ConfigFile) : Guarded sockets toml { file } where
  tracked := .fresh_start
  allowed := rfl
  closed _ _ := rfl
  posted _ posted := nomatch posted
  queued _ member := nomatch member
  apart := List.nodup_nil
  live running := nomatch running
  shown running := nomatch running
  given _ alive := absurd rfl alive.1
  starting stage := stage.elim
  stored _ storing := nomatch storing

/-- Filling the form does not switch the running flag on. Either a configuration is filled in or an
error is shown, and neither touches the flag. -/
theorem load_hidden (window : AppWindow) (loaded : Except String (Config SocketAddr))
    (hidden : window.serverRunning = false) :
    (loadInitialConfig sockets toml window loaded).serverRunning = false := by
  have populated : ∀ config shown, populate sockets window config = .ok shown →
      shown.serverRunning = false := by
    intro config shown made
    cases form : FormValues.fromConfig sockets config with
    | error error => simp [populate, form, Except.map] at made
    | ok form' =>
      simp only [populate, form, Except.map, Except.ok.injEq] at made
      rw [← made]
      exact hidden
  unfold loadInitialConfig
  split
  · split
    · next shown made => exact populated _ shown made
    · exact hidden
  · cases made : populate sockets window toml.default with
    | error error => exact hidden
    | ok shown => exact populated _ shown made

/-- A new window finds no server, whatever became of the last process. -/
theorem launch (program : Program SocketAddr) (write : Write) :
    Guarded sockets toml (program.launch sockets toml write) where
  tracked := .fresh_start
  allowed := trivial
  closed closed := nomatch closed
  posted _ posted := nomatch posted
  queued _ member := nomatch member
  apart := List.nodup_nil
  live _ _ alive := absurd rfl alive.1
  shown _ shown := by
    rw [Program.launch, load_hidden _ _ rfl] at shown
    cases shown
  given _ alive := absurd rfl alive.1
  starting stage := stage.elim
  stored _ storing := nomatch storing

/-- A closure is posted by a thread that was live before. Each thread posts once, when it has ended
serving, and its closure waits in the queue until it runs. -/
theorem post (guarded : Guarded sockets toml program) {run : Nat} {result : Except String Unit}
    {next : Program SocketAddr} (taken : program.post run result = some next) :
    Guarded sockets toml next := by
  unfold Program.post at taken
  split at taken
  · next joined known fresh =>
    cases taken
    have unqueued : run ∉ program.queue.map Prod.fst := by
      intro member
      rw [guarded.queued run member] at fresh
      cases fresh
    have same : ∀ other, Program.Live { program with
        posted := Function.update program.posted run true
        queue := program.queue ++ [(run, result)] } other ↔ program.Live other := by
      intro other
      unfold Program.Live
      by_cases mine : other = run
      · subst mine
        simp [fresh]
      · simp [mine]
    exact { guarded with
      posted := by
        intro other posted
        by_cases mine : other = run
        · subst mine
          exact ⟨.reporting, joined, known, nofun⟩
        · exact guarded.posted other (by simpa [mine] using posted)
      queued := by
        intro other member
        by_cases mine : other = run
        · simp [mine]
        · simpa [mine] using guarded.queued other (by simpa [mine] using member)
      apart := by simpa using guarded.apart.concat unqueued
      live := fun running other alive => guarded.live running other ((same other).mp alive)
      shown := fun running flag =>
        have ⟨other, alive⟩ := guarded.shown running flag
        ⟨other, (same other).mpr alive⟩
      given := fun other alive => guarded.given other ((same other).mp alive)
      stored := fun other storing => (same other).mpr (guarded.stored other storing) }
  · cases taken

/-- The closure that runs is that of the one live thread. So it is the one that the flag stands for.
It turns the flag off, and with its closure gone the thread is live no longer. -/
theorem reported (guarded : Guarded sockets toml program) (running : program.process = .running)
    (call : program.app.call = .idle) {run : Nat} {result : Except String Unit}
    {queue : List (Nat × Except String Unit)} (queued : program.queue = (run, result) :: queue) :
    Guarded sockets toml (program.reported result queue) := by
  have head : run ∈ program.queue.map Prod.fst := by simp [queued]
  have posted := guarded.queued run head
  have apart := guarded.apart
  rw [queued, List.map_cons, List.nodup_cons] at apart
  have known : program.app.runtimes run ≠ none := by
    obtain ⟨phase, joined, known, _⟩ := guarded.posted run posted
    rw [known]
    exact Option.some_ne_none _
  have quiet : ∀ other, ¬ (program.reported result queue).Live other := by
    rintro other ⟨spawned, waiting⟩
    have alive : program.Live other := by
      refine ⟨spawned, waiting.imp id fun member => ?_⟩
      rw [queued, List.map_cons]
      exact List.mem_cons_of_mem _ member
    have mine : other = run := Option.some.inj ((guarded.live running other alive).1.symm.trans
      (guarded.live running run ⟨known, .inr head⟩).1)
    subst mine
    rcases waiting with fresh | member
    · exact absurd (posted.symm.trans fresh) nofun
    · exact apart.1 member
  have hidden : (program.reported result queue).window.serverRunning = false := by
    cases result <;> rfl
  exact {
    tracked := guarded.tracked
    allowed := by
      rw [hidden]
      simp only [Program.reported, running, call, Allowed]
    closed := guarded.closed
    posted := guarded.posted
    queued := fun other member => guarded.queued other (by
      rw [queued, List.map_cons]
      exact List.mem_cons_of_mem _ member)
    apart := apart.2
    live := fun _ other alive => absurd alive (quiet other)
    shown := fun _ shown => by
      rw [hidden] at shown
      cases shown
    given := fun other alive => absurd alive (quiet other)
    starting := guarded.starting
    stored := fun other storing => by simp [Program.reported, call] at storing }

/-- Threads exist only while the window is there. -/
theorem there (guarded : Guarded sockets toml program) {run : Nat} {runtime : Runtime}
    (known : program.app.runtimes run = some runtime) : program.process ≠ .closed := by
  intro closed
  rw [guarded.closed closed run] at known
  cases known

/-- A runtime thread behind its server takes its section. -/
theorem finished (guarded : Guarded sockets toml program) {run : Nat} {joined : Bool}
    (known : program.app.runtimes run = some ⟨.serving, joined⟩) :
    Guarded sockets toml { program with
      app := { program.app.setRuntime run ⟨.reporting, joined⟩ with
        state := { program.app.state with running := false, shutdown := none } } } :=
  guarded.advanced (guarded.tracked.step (.finished run joined known)) guarded.allowed
    (guarded.there known) (Application.set_spawned _ known) (Application.set_behind (by simp))
    guarded.live guarded.shown guarded.starting guarded.stored

/-- The end of a thread that has made its report changes nothing else. -/
theorem terminated (guarded : Guarded sockets toml program) {run : Nat} {joined : Bool}
    (panicked : Bool) (known : program.app.runtimes run = some ⟨.reporting, joined⟩) :
    Guarded sockets toml { program with
      app := program.app.setRuntime run ⟨.terminated panicked, joined⟩ } :=
  guarded.advanced (guarded.tracked.step (.terminated run panicked joined known)) guarded.allowed
    (guarded.there known) (Application.set_spawned _ known) (Application.set_behind (by simp))
    guarded.live guarded.shown guarded.starting guarded.stored

/-- A call of Start goes on while the window shows no server. -/
theorem calling (guarded : Guarded sockets toml program) (stage : Starting program.app.call) :
    program.process = .running ∧ program.window.serverRunning = false := by
  have allowed := guarded.allowed
  cases process : program.process <;> cases call : program.app.call <;>
    simp_all [Allowed, Starting]

/-- A step of Start keeps the threads, and leaves a call that is in order. No server is shown while
Start is under way, and so no thread is live that could be lost. -/
theorem restarted (guarded : Guarded sockets toml program) (stage : Starting program.app.call)
    {app : Application} {window : AppWindow} (taken : ∃ actions, Step program.app app actions)
    (hidden : window.serverRunning = false)
    (next : app.call = .idle ∨ Starting app.call)
    (spawned : ∀ run, app.runtimes run = none ↔ program.app.runtimes run = none)
    (behind : ∀ run phase joined, program.app.runtimes run = some ⟨phase, joined⟩ →
      phase ≠ .serving → ∃ phase joined, app.runtimes run = some ⟨phase, joined⟩ ∧ phase ≠ .serving) :
    Guarded sockets toml { program with app, window } := by
  obtain ⟨running, flag⟩ := guarded.calling stage
  obtain ⟨actions, taken⟩ := taken
  have quiet := guarded.quiet running flag fun run storing => by simp [storing, Starting] at stage
  refine guarded.advanced (guarded.tracked.step taken) ?_ (by simp [running]) spawned behind
    (fun _ run alive => absurd alive (quiet run)) ?_ (fun _ => guarded.starting stage) ?_
  · rw [hidden, running]
    cases call : app.call <;> simp_all [Allowed, Starting]
  · intro _ shown
    rw [hidden] at shown
    cases shown
  · intro run storing
    simp [storing, Starting] at next

/-- A thread is spawned and given the configuration of the call. Its number was claimed by the call,
and it is the only live thread from then on. -/
theorem spawned (guarded : Guarded sockets toml program) {run : Nat}
    (call : program.app.call = .spawning run) :
    Guarded sockets toml { program with
      app := { program.app.setRuntime run ⟨.serving, false⟩ with call := .storing run }
      given := Function.update program.given run program.starting } := by
  obtain ⟨running, flag⟩ := guarded.calling (by simp [call, Starting])
  obtain ⟨absent, _⟩ := guarded.tracked.spawning run call
  have quiet := guarded.quiet running flag fun run storing => by simp [call] at storing
  have tracked := guarded.tracked.step (.spawned run call)
  have only : ∀ other, Program.Live { program with
      app := { program.app.setRuntime run ⟨.serving, false⟩ with call := .storing run }
      given := Function.update program.given run program.starting } other → other = run := by
    rintro other ⟨known, waiting⟩
    by_contra mine
    exact quiet other ⟨by simpa [Application.set_other mine] using known, waiting⟩
  exact {
    tracked
    allowed := by simp [running, flag, Allowed]
    closed := fun closed => by simp [running] at closed
    posted := by
      intro other posted
      obtain ⟨phase, joined, known, ended⟩ := guarded.posted other posted
      have mine : other ≠ run := by
        rintro rfl
        rw [absent] at known
        cases known
      exact ⟨phase, joined, by simpa [Application.set_other mine] using known, ended⟩
    queued := guarded.queued
    apart := guarded.apart
    live := by
      intro _ other alive
      obtain rfl := only other alive
      exact ⟨rfl, .inr rfl⟩
    shown := fun _ shown => by simp [flag] at shown
    given := by
      intro other alive
      obtain rfl := only other alive
      simpa using guarded.starting (by simp [call, Starting])
    starting := fun stage => stage.elim
    stored := by
      intro other storing
      cases storing
      refine ⟨by simp, .inl ?_⟩
      by_contra posted
      obtain ⟨_, _, known, _⟩ := guarded.posted run (by simpa using posted)
      rw [absent] at known
      cases known }

/-- A call of the window is over while a thread is live, or none is. -/
theorem answering (guarded : Guarded sockets toml program) (running : program.process = .running)
    {app : Application} {window : AppWindow} (taken : ∃ actions, Step program.app app actions)
    (idle : app.call = .idle) (threads : app.runtimes = program.app.runtimes)
    (live : ∀ run, program.Live run → app.tracked = some run ∧ window.serverRunning = true)
    (shown : window.serverRunning = true → ∃ run, program.Live run) :
    Guarded sockets toml { program with app, window } := by
  obtain ⟨actions, taken⟩ := taken
  refine guarded.advanced (guarded.tracked.step taken) ?_ (by simp [running]) ?_ ?_
    (fun _ run alive => ⟨(live run alive).1, .inl (live run alive).2⟩) (fun _ => shown) ?_ ?_
  · simp [running, idle, Allowed]
  · simp [threads]
  · intro run phase joined known ended
    exact ⟨phase, joined, by rw [threads, known], ended⟩
  · simp [idle, Starting]
  · simp [idle]

/-- Behind the event loop the window no longer matters. -/
theorem leaving (guarded : Guarded sockets toml program) (closing : program.process = .closing)
    {app : Application} (taken : ∃ actions, Step program.app app actions)
    (allowed : ∀ flag, Allowed flag .closing app.call)
    (spawned : ∀ run, app.runtimes run = none ↔ program.app.runtimes run = none)
    (behind : ∀ run phase joined, program.app.runtimes run = some ⟨phase, joined⟩ →
      phase ≠ .serving → ∃ phase joined, app.runtimes run = some ⟨phase, joined⟩ ∧ phase ≠ .serving) :
    Guarded sockets toml { program with app } := by
  obtain ⟨actions, taken⟩ := taken
  have here := allowed program.window.serverRunning
  refine guarded.advanced (guarded.tracked.step taken) (by rw [closing]; exact here) (by simp [closing])
    spawned behind (fun running => by simp [closing] at running)
    (fun running => by simp [closing] at running) ?_ ?_
  · cases call : app.call <;> simp_all [Allowed, Starting]
  · intro run storing
    simp [storing, Allowed] at here

/-- The call in progress goes on, and its answer ends the callback. One case for each step of the
controller. The steps of Start keep to what was collected, and those of Stop and of closing let go
of a thread that has ended. -/
theorem proceeded (guarded : Guarded sockets toml program) {app : Application} {actions : List Action}
    (taken : Step program.app app actions) (called : program.app.call ≠ .idle) :
    Guarded sockets toml (actions.foldl Program.note { program with app }) := by
  have step : ∃ actions, Step program.app app actions := ⟨actions, taken⟩
  have allowed := guarded.allowed
  cases taken with
  | started idle => exact absurd idle called
  | stopped waits idle => exact absurd idle called
  | reaped run joined call known =>
    have stage : Starting program.app.call := by simp [call, Starting]
    exact guarded.restarted stage step (guarded.calling stage).2 (.inr trivial)
      (Application.set_spawned _ known) (Application.set_behind (by simp))
  | broken run joined call known =>
    have stage : Starting program.app.call := by simp [call, Starting]
    exact guarded.restarted stage step (guarded.calling stage).2 (.inl rfl)
      (Application.set_spawned _ known) (Application.set_behind (by simp))
  | refused call =>
    have stage : Starting program.app.call := by simp [call, Starting]
    exact guarded.restarted stage step (guarded.calling stage).2 (.inl rfl) (fun _ => Iff.rfl)
      fun _ phase joined known ended => ⟨phase, joined, known, ended⟩
  | claimed call =>
    have stage : Starting program.app.call := by simp [call, Starting]
    exact guarded.restarted stage step (guarded.calling stage).2 (.inr trivial) (fun _ => Iff.rfl)
      fun _ phase joined known ended => ⟨phase, joined, known, ended⟩
  | spawned run call => exact guarded.spawned call
  | failed run call =>
    have stage : Starting program.app.call := by simp [call, Starting]
    exact guarded.restarted stage step (guarded.calling stage).2 (.inl rfl) (fun _ => Iff.rfl)
      fun _ phase joined known ended => ⟨phase, joined, known, ended⟩
  | stored run call =>
    have running : program.process = .running := by
      cases process : program.process <;> simp_all [Allowed]
    refine guarded.answering running step rfl rfl (fun other alive => ⟨?_, rfl⟩)
      fun _ => ⟨run, guarded.stored run call⟩
    have held := (guarded.live running other alive).1
    rwa [Application.tracked, call] at held
  | asked sender waits asked call =>
    have sent : ∀ rest, (sender.toList.map Action.sent ++ rest).foldl Program.note
        { program with app := (program.app.stopped waits asked).1 } =
          rest.foldl Program.note { program with app := (program.app.stopped waits asked).1 } := by
      intro rest
      cases sender <;> rfl
    have place : (program.process = .running ∧ waits = false) ∨
        (program.process = .closing ∧ waits = true) := by
      cases process : program.process <;> simp_all [Allowed]
    rw [sent]
    rcases place with ⟨running, rfl⟩ | ⟨closing, rfl⟩
    · have shows : ∀ run, program.Live run → program.app.state.thread = some run ∧
          program.window.serverRunning = true := by
        intro run alive
        obtain ⟨held, flag⟩ := guarded.live running run alive
        rw [Application.tracked, call] at held
        exact ⟨held, flag.resolve_right (by simp [call])⟩
      show Guarded sockets toml (Program.answered
        { program with app := { program.app with call := .idle } } (.stopped asked))
      cases asked <;>
        exact guarded.answering running step rfl rfl shows (guarded.shown running)
    · show Guarded sockets toml { program with app := { program.app with call := .taking } }
      exact guarded.leaving closing step (fun _ => trivial) (fun _ => Iff.rfl)
        fun _ phase joined known ended => ⟨phase, joined, known, ended⟩
  | took call =>
    have closing : program.process = .closing := by
      cases process : program.process <;> simp_all [Allowed]
    refine guarded.leaving closing step (fun _ => ?_) (fun _ => Iff.rfl)
      fun _ phase joined known ended => ⟨phase, joined, known, ended⟩
    cases program.app.state.thread <;> trivial
  | waited run panicked joined call known =>
    have closing : program.process = .closing := by
      cases process : program.process <;> simp_all [Allowed]
    exact guarded.leaving closing step (fun _ => trivial) (Application.set_spawned _ known)
      (Application.set_behind (by simp))
  | cleared panicked call => exact gone program.file
  | finished run joined known => exact guarded.finished known
  | terminated run panicked joined known => exact guarded.terminated panicked known

/-- The words in the window do not matter. -/
theorem reworded (guarded : Guarded sockets toml program) (window : AppWindow)
    (same : window.serverRunning = program.window.serverRunning) :
    Guarded sockets toml { program with window } :=
  { guarded with
    allowed := by rw [same]; exact guarded.allowed
    live := by rw [same]; exact guarded.live
    shown := by rw [same]; exact guarded.shown }

/-- Start reaps or claims, as no server runs. The flag of the controller is off, since no thread is
current, and so it does not refuse. -/
theorem begun (guarded : Guarded sockets toml program) (running : program.process = .running)
    (flag : program.window.serverRunning = false) (call : program.app.call = .idle)
    (disk : OnDisk sockets toml program.file program.starting) :
    program.app.start.2 = [.lock, .unlock] ∧
      Guarded sockets toml { program with app := program.app.start.1 } := by
  have quiet := guarded.quiet running flag fun run storing => by simp [call] at storing
  have stopped := guarded.stopped quiet (by simp [call])
  have tracked := guarded.tracked.start call
  simp only [Application.start, stopped, Bool.false_eq_true, ↓reduceIte] at tracked ⊢
  refine ⟨trivial, guarded.advanced tracked ?_ (by simp [running]) (fun _ => Iff.rfl)
    (fun _ phase joined known ended => ⟨phase, joined, known, ended⟩)
    (fun _ run alive => absurd alive (quiet run)) (fun _ shown => by simp [flag] at shown)
    (fun _ => disk) ?_⟩
  · rw [running, flag]
    cases program.app.state.thread <;> rfl
  · intro run storing
    cases thread : program.app.state.thread <;> simp [thread] at storing

/-- Stop asks the server that the window shows, or finds that it has ended. The live thread is the
one that the controller holds, so the sender reaches it if it is still serving. -/
theorem asked (guarded : Guarded sockets toml program) (running : program.process = .running)
    (call : program.app.call = .idle) :
    Guarded sockets toml
      ((program.app.stop false).2.foldl Program.note
        { program with app := (program.app.stop false).1 }) := by
  have step := guarded.tracked.stop false call
  have live : ∀ run, program.Live run → program.app.state.thread = some run ∧
      program.window.serverRunning = true := by
    intro run alive
    obtain ⟨held, flag⟩ := guarded.live running run alive
    rw [Application.tracked, call] at held
    exact ⟨held, flag.resolve_right (by simp [call])⟩
  cases serving : program.app.state.running with
  | true =>
    simp only [Application.stop, serving, ↓reduceIte] at step ⊢
    exact guarded.advanced step (by simp [running, Allowed]) (by simp [running]) (fun _ => Iff.rfl)
      (fun _ phase joined known ended => ⟨phase, joined, known, ended⟩)
      (fun _ run alive => ⟨(live run alive).1, .inl (live run alive).2⟩) guarded.shown
      (fun stage => stage.elim) (fun _ storing => by simp at storing)
  | false =>
    simp only [Application.stop, serving, Bool.false_eq_true, ↓reduceIte] at step ⊢
    show Guarded sockets toml (Program.answered
      { program with app := { program.app with call := .idle } } (.stopped false))
    exact guarded.advanced step (by simp [running, Allowed]) (by simp [running]) (fun _ => Iff.rfl)
      (fun _ phase joined known ended => ⟨phase, joined, known, ended⟩)
      (fun _ run alive => ⟨(live run alive).1, .inl (live run alive).2⟩) guarded.shown
      (fun stage => stage.elim) (fun _ storing => by simp at storing)

/-- Behind the event loop the controller is asked to stop and waited for. The window is gone by
then, and nothing is said of the flag any more. -/
theorem shutting (guarded : Guarded sockets toml program) (call : program.app.call = .idle) :
    Guarded sockets toml { program with
      process := .closing
      app := (program.app.stop true).1 } := by
  have step := guarded.tracked.stop true call
  have apart : ∀ {α : Prop}, Process.closing = .running → α := nofun
  cases serving : program.app.state.running with
  | true =>
    simp only [Application.stop, serving, ↓reduceIte] at step ⊢
    exact guarded.advanced step rfl nofun (fun _ => Iff.rfl)
      (fun _ phase joined known ended => ⟨phase, joined, known, ended⟩) apart apart
      (fun stage => stage.elim) nofun
  | false =>
    simp only [Application.stop, serving, Bool.false_eq_true, ↓reduceIte] at step ⊢
    exact guarded.advanced step trivial nofun (fun _ => Iff.rfl)
      (fun _ phase joined known ended => ⟨phase, joined, known, ended⟩) apart apart
      (fun stage => stage.elim) nofun

end Guarded

/-- The program is idle if its window is open and no call is in progress. -/
theorem idle_cases {program : Program SocketAddr} (idle : program.idle = true) :
    program.process = .running ∧ program.app.call = .idle := by
  unfold Program.idle at idle
  split at idle
  · next running call => exact ⟨running, call⟩
  · cases idle

/-- Only a start that finds a server running is refused. -/
theorem proceed_unrefused {app next : Application} {succeeds : Bool} {actions : List Action}
    (taken : app.proceed succeeds = some (next, actions))
    (free : app.call = .claiming → app.state.running = false) :
    Action.returned alreadyRunning ∉ actions := by
  by_cases claiming : app.call = .claiming
  · simp only [Application.proceed, claiming, free claiming, Bool.false_eq_true, ↓reduceIte,
      Option.some.injEq, Prod.mk.injEq] at taken
    simp [← taken.2]
  · cases proceed_cases taken with
    | refused call => exact absurd call claiming
    | started idle => simp [Application.proceed, idle] at taken
    | stopped waits idle => simp [Application.proceed, idle] at taken
    | asked sender waits asked call => cases waits <;> simp [Application.stopped, alreadyRunning]
    | _ => simp [alreadyRunning]

/-- What a step of Save or Start makes of the file. The text that is written is the one that was
printed, and what is printed is read as the same configuration. -/
theorem collected_on_disk {file saved : ConfigFile} {form : FormValues} {write : Write}
    {config : Config SocketAddr}
    (collected : collectAndSave sockets toml file form write = (.ok config, saved)) :
    OnDisk sockets toml saved (some config) := by
  unfold collectAndSave at collected
  split at collected
  · cases collected
  · next known read =>
    split at collected
    · cases collected
    · next text printed =>
      cases write with
      | done =>
        cases collected
        exact ⟨text, config, form, rfl, rfl, toml.parse_print config text printed, read⟩
      | failed left => cases collected

/-- The callback of Save. -/
theorem guarded_saved {program next : Program SocketAddr} {write : Write} {mark : Mark SocketAddr}
    (guarded : Guarded sockets toml program) (idle : program.idle = true)
    (flag : program.window.serverRunning = false)
    (taken : program.save sockets toml write = (next, mark)) :
    Guarded sockets toml next ∧ Action.returned alreadyRunning ∉ mark.actions := by
  obtain ⟨running, call⟩ := idle_cases idle
  simp only [Program.save] at taken
  split at taken <;> cases taken <;>
    exact ⟨guarded.refiled running flag call _ _ _ flag, List.not_mem_nil⟩

/-- The callback of Start saves first, and starts what it saved. It is offered only while no server
is shown, and writes the file before it asks the controller, so the configuration of the call is the
one on disk. -/
theorem guarded_started {program next : Program SocketAddr} {write : Write} {mark : Mark SocketAddr}
    (guarded : Guarded sockets toml program) (idle : program.idle = true)
    (flag : program.window.serverRunning = false)
    (taken : program.startServer sockets toml write = some (next, mark)) :
    Guarded sockets toml next ∧ Action.returned alreadyRunning ∉ mark.actions := by
  obtain ⟨running, call⟩ := idle_cases idle
  cases collected : collectAndSave sockets toml program.file program.window.form write with
  | mk result file =>
    simp only [Program.startServer, collected] at taken
    cases result with
    | error error =>
      cases taken
      exact ⟨guarded.refiled running flag call _ _ _ flag, List.not_mem_nil⟩
    | ok config =>
      have refiled := guarded.refiled running flag call file program.window (some config) flag
      obtain ⟨actions, begun⟩ := refiled.begun running flag call (collected_on_disk collected)
      simp only [Program.control, desktop, call, Option.map_some, Option.some.injEq,
        Prod.mk.injEq] at taken
      obtain ⟨rfl, rfl⟩ := taken
      rw [actions]
      exact ⟨begun, by simp⟩

/-- The callback of Stop. -/
theorem guarded_stopped {program next : Program SocketAddr} {mark : Mark SocketAddr}
    (guarded : Guarded sockets toml program) (idle : program.idle = true)
    (taken : program.control .stop none = some (next, mark)) :
    Guarded sockets toml next ∧ Action.returned alreadyRunning ∉ mark.actions := by
  obtain ⟨running, call⟩ := idle_cases idle
  simp only [Program.control, desktop, call, Option.map_some, Option.some.injEq,
    Prod.mk.injEq] at taken
  obtain ⟨rfl, rfl⟩ := taken
  refine ⟨guarded.asked running call, ?_⟩
  cases serving : program.app.state.running <;>
    simp [Application.stop, Application.stopped, serving, alreadyRunning]

/-- The window is closed. -/
theorem guarded_closed {program next : Program SocketAddr} {mark : Mark SocketAddr}
    (guarded : Guarded sockets toml program) (idle : program.idle = true)
    (taken : { program with process := .closing }.control .shutdownAndWait none = some (next, mark)) :
    Guarded sockets toml next ∧ Action.returned alreadyRunning ∉ mark.actions := by
  obtain ⟨running, call⟩ := idle_cases idle
  have closing := guarded.shutting call
  simp only [Program.control, desktop, call, Option.map_some, Option.some.injEq,
    Prod.mk.injEq] at taken
  obtain ⟨rfl, rfl⟩ := taken
  cases serving : program.app.state.running <;>
    simp [Application.stop, Application.stopped, serving, Program.note] at closing ⊢ <;>
    exact closing

/-- What a step of the program keeps. One case for each input; those of the controller and of the
event loop are the lemmas above. -/
theorem guarded_step {program next : Program SocketAddr} {input : Input} {mark : Mark SocketAddr}
    (guarded : Guarded sockets toml program)
    (taken : (desk sockets toml).step program input = some (next, mark)) :
    Guarded sockets toml next ∧ Action.returned alreadyRunning ∉ mark.actions := by
  cases input with
  | launch write =>
    simp only [desk] at taken
    split at taken
    · cases taken
      exact ⟨.launch program write, List.not_mem_nil⟩
    · cases taken
  | kill =>
    cases taken
    exact ⟨.gone program.file, List.not_mem_nil⟩
  | close =>
    simp only [desk] at taken
    split at taken
    · next idle => exact guarded_closed guarded idle taken
    · cases taken
  | edit form =>
    simp only [desk] at taken
    split at taken
    · cases taken
      exact ⟨guarded.reworded _ rfl, List.not_mem_nil⟩
    · cases taken
  | toggleLogs =>
    simp only [desk] at taken
    split at taken
    · cases taken
      exact ⟨guarded.reworded _ rfl, List.not_mem_nil⟩
    · cases taken
  | save write =>
    simp only [desk, Bool.and_eq_true, Bool.not_eq_true'] at taken
    split at taken
    · next enabled => exact guarded_saved guarded enabled.1 enabled.2 (Option.some.inj taken)
    · cases taken
  | start write =>
    simp only [desk, Bool.and_eq_true, Bool.not_eq_true'] at taken
    split at taken
    · next enabled => exact guarded_started guarded enabled.1 enabled.2 taken
    · cases taken
  | stop =>
    simp only [desk, Bool.and_eq_true] at taken
    split at taken
    · next enabled => exact guarded_stopped guarded enabled.1 taken
    · cases taken
  | proceed succeeds =>
    simp only [desk, Program.control, desktop, Option.map_eq_some_iff] at taken
    obtain ⟨⟨app, actions⟩, moved, same⟩ := taken
    cases same
    have called : program.app.call ≠ .idle := by
      intro call
      simp [Application.proceed, call] at moved
    refine ⟨guarded.proceeded (proceed_cases moved) called, proceed_unrefused moved fun claiming => ?_⟩
    obtain ⟨running, flag⟩ := guarded.calling (by simp [claiming, Starting])
    exact guarded.stopped (guarded.quiet running flag (by simp [claiming])) (by simp [claiming])
  | finish run =>
    simp only [desk, Program.control, desktop, Option.map_eq_some_iff] at taken
    obtain ⟨⟨app, actions⟩, moved, same⟩ := taken
    unfold Application.finish at moved
    split at moved
    · next joined known =>
      cases moved
      cases same
      exact ⟨guarded.finished known, by simp⟩
    · cases moved
  | post run result =>
    simp only [desk, Option.map_eq_some_iff] at taken
    obtain ⟨posted, moved, same⟩ := taken
    cases same
    exact ⟨guarded.post moved, List.not_mem_nil⟩
  | terminate run panicked =>
    simp only [desk] at taken
    split at taken
    · simp only [Program.control, desktop, Option.map_eq_some_iff] at taken
      obtain ⟨⟨app, actions⟩, moved, same⟩ := taken
      unfold Application.terminate at moved
      split at moved
      · next joined known =>
        cases moved
        cases same
        exact ⟨guarded.terminated panicked known, List.not_mem_nil⟩
      · cases moved
    · cases taken
  | handle =>
    simp only [desk] at taken
    split at taken
    · next idle =>
      obtain ⟨running, call⟩ := idle_cases idle
      split at taken
      · cases taken
      · next run result queue queued =>
        cases taken
        exact ⟨guarded.reported running call queued, List.not_mem_nil⟩
    · cases taken

/-- Showing what a call did leaves the file alone. -/
theorem note_file (program : Program SocketAddr) (action : Action) :
    (program.note action).file = program.file := by
  cases action with
  | returned answer =>
    cases answer with
    | started result => cases result <;> rfl
    | stopped asked => cases asked <;> rfl
    | waited result => rfl
  | _ => rfl

/-- Showing what several calls did leaves the file alone. -/
theorem notes_file (program : Program SocketAddr) (actions : List Action) :
    (actions.foldl Program.note program).file = program.file := by
  induction actions generalizing program with
  | nil => rfl
  | cons action actions inductionHypothesis =>
    exact (inductionHypothesis _).trans (note_file program action)

/-- The controller never writes the file. -/
theorem control_file {program next : Program SocketAddr} {event : Event}
    {saved : Option (Config SocketAddr)} {mark : Mark SocketAddr}
    (taken : program.control event saved = some (next, mark)) : next.file = program.file := by
  simp only [Program.control, Option.map_eq_some_iff] at taken
  obtain ⟨moved, _, same⟩ := taken
  cases same
  exact notes_file _ _

/-- The file changes in a launch, or by Save and Start while the window shows no server. Writing it
is part of these three inputs alone. -/
theorem step_file {program next : Program SocketAddr} {input : Input} {mark : Mark SocketAddr}
    (taken : (desk sockets toml).step program input = some (next, mark)) :
    next.file = program.file ∨ program.process = .closed ∨
      (program.idle = true ∧ program.window.serverRunning = false) := by
  cases input with
  | launch write =>
    simp only [desk] at taken
    split at taken
    · next closed => exact .inr (.inl closed)
    · cases taken
  | save write | start write =>
    simp only [desk, Bool.and_eq_true, Bool.not_eq_true'] at taken
    split at taken
    · next enabled => exact .inr (.inr enabled)
    · cases taken
  | kill =>
    cases taken
    exact .inl rfl
  | proceed | finish => exact .inl (control_file taken)
  | post run result =>
    simp only [desk, Option.map_eq_some_iff, Program.post] at taken
    obtain ⟨posted, moved, same⟩ := taken
    cases same
    split at moved <;> cases moved
    exact .inl rfl
  | close | stop | terminate =>
    simp only [desk] at taken
    split at taken
    · have same := control_file taken
      exact .inl same
    · cases taken
  | edit form | toggleLogs =>
    simp only [desk] at taken
    split at taken
    · cases taken
      exact .inl rfl
    · cases taken
  | handle =>
    simp only [desk] at taken
    split at taken
    · split at taken <;> cases taken
      exact .inl rfl
    · cases taken

/-- In every run the window guards the server, and no start is refused. -/
theorem guarded_run (inputs : List Input) (file : ConfigFile) (program : Program SocketAddr)
    (marks : List (Mark SocketAddr))
    (ran : (desk sockets toml).run { file } inputs = some (program, marks)) :
    Guarded sockets toml program ∧ ∀ mark ∈ marks, Action.returned alreadyRunning ∉ mark.actions := by
  refine Machine.run_always
    (fun marks program => Guarded sockets toml program ∧
      ∀ mark ∈ marks, Action.returned alreadyRunning ∉ mark.actions) ?_
    inputs _ program marks ⟨.gone file, List.forall_mem_nil _⟩ ran
  intro marks program input next mark before taken
  obtain ⟨guarded, unrefused⟩ := guarded_step before.1 taken
  exact ⟨guarded, List.forall_mem_append.mpr ⟨before.2, List.forall_mem_singleton.mpr unrefused⟩⟩

/-- Over all launches, the window shows a server just when there is a thread whose closure has not
run, and then there is one. Start is never refused. A server runs with what the file holds, and no
step changes the file meanwhile.

The invariant relates the flag of the window, the state of the controller, the thread and the file,
also in the middle of a call; each input is looked at once for all of them. -/
theorem window_guards_server (sockets : SocketTexts SocketAddr) (toml : Toml SocketAddr)
    (inputs : List Input) (file : ConfigFile) (program : Program SocketAddr)
    (marks : List (Mark SocketAddr))
    (ran : (desk sockets toml).run { file } inputs = some (program, marks)) :
    (∀ mark ∈ marks, Action.returned alreadyRunning ∉ mark.actions) ∧
      (program.idle = true → (program.window.serverRunning = true ↔ ∃ run, program.Live run)) ∧
      (program.idle = true → program.window.serverRunning = false →
        program.app.state.running = false ∧ ∀ run, ¬ program.app.Serving run) ∧
      (program.process = .running → ∀ left right, program.Live left → program.Live right →
        left = right) ∧
      ∀ run, program.app.Serving run →
        OnDisk sockets toml program.file (program.given run) ∧
          ∀ input next mark, (desk sockets toml).step program input = some (next, mark) →
            next.file = program.file := by
  obtain ⟨guarded, unrefused⟩ := guarded_run inputs file program marks ran
  have quiet : program.idle = true → program.window.serverRunning = false →
      ∀ run, ¬ program.Live run := by
    intro idle flag
    obtain ⟨running, call⟩ := idle_cases idle
    exact guarded.quiet running flag (by simp [call])
  refine ⟨unrefused, ?_, ?_, ?_, ?_⟩
  · intro idle
    refine ⟨guarded.shown (idle_cases idle).1, fun ⟨run, alive⟩ => ?_⟩
    by_contra hidden
    exact quiet idle (by simpa using hidden) run alive
  · intro idle flag
    refine ⟨guarded.stopped (quiet idle flag) (by simp [(idle_cases idle).2]), fun run serving => ?_⟩
    exact quiet idle flag run (guarded.live_serving serving)
  · intro running left right first second
    exact Option.some.inj ((guarded.live running left first).1.symm.trans
      (guarded.live running right second).1)
  · intro run serving
    have alive := guarded.live_serving serving
    refine ⟨guarded.given run alive, fun input next mark taken => ?_⟩
    rcases step_file taken with same | closed | ⟨idle, flag⟩
    · exact same
    · exact absurd (guarded.closed closed run) alive.1
    · exact absurd alive (quiet idle flag run)

/-- The lines of the default configuration in front of its paths. -/
def addressLines : List String :=
  ["database_url = \"sqlite://cheshire.sqlite\"", "sdk_http_addr = \"0.0.0.0:21080\"",
    "sdk_https_addr = \"0.0.0.0:21443\"", "sdk_ip = \"127.0.0.1\"",
    "sdk_proxy_addr = \"0.0.0.0:28080\"", "sdk_proxy_upstream_addr = \"127.0.0.1:21080\"",
    "dispatch_addr = \"0.0.0.0:21180\"", "gate_addr = \"0.0.0.0:21280\"",
    "dispatch_ip = \"127.0.0.1\"", "dispatch_port = 21180"]

/-- The paths of its certificates. -/
def pathLines : List String :=
  ["mitm_ca_cert_path = \"assets/ca/ca-cert.cer\"", "mitm_ca_key_path = \"assets/ca/ca-key.pem\"",
    "tls_cert_path = \"assets/tls/cert.pem\"", "tls_key_path = \"assets/tls/key.pem\""]

/-- Its versions, a line each with some blanks in front. -/
def versionLines (indent : String) : List String :=
  "dispatch_version = [" ::
    defaultConfig.dispatchVersion.map (fun version => indent ++ "\"" ++ version ++ "\",") ++ ["]"]

/-- Its server, under a name. -/
def serverLines (name : String) : List String :=
  ["", "[[dispatch_servers]]", "ids = [1]", "ip = \"127.0.0.1\"", "port = 21280", "state = 0",
    "name = \"" ++ name ++ "\"", "tag_state = 2", "sort = 0", "proxy_ip = \"127.0.0.1\"",
    "proxy_port = 21280"]

/-- Lines as the text of a file. -/
def fileText (lines : List String) : String := String.join (lines.map (· ++ "\n"))

/-- The text of `config.default.toml`. -/
def defaultText : String :=
  fileText (addressLines ++ pathLines ++ "" :: versionLines "  " ++ serverLines "CheshireDev")

/-- What `to_string_pretty` prints for the default configuration with the server under a name: values
come in front of tables, and versions are indented by four. -/
def printedText (name : String) : String :=
  fileText (addressLines ++ versionLines "    " ++ pathLines ++ serverLines name)

/-- `toml` on the default configuration, with its text in the repository and as it is printed. -/
def defaultToml : Toml SocketAddrV4 where
  parse text :=
    if text = defaultText ∨ text = printedText "CheshireDev" then some defaultConfig else none
  print config := if config = defaultConfig then some (printedText "CheshireDev") else none
  defaultText
  default := defaultConfig
  parse_default := by simp
  parse_print config text printed := by
    split at printed
    · next same =>
      cases printed
      simp [same]
    · cases printed

/-- The thread runs its closure, as a test. -/
def serves (app : Application) (run : Nat) : Bool :=
  match app.runtimes run with
  | some ⟨.serving, _⟩ => true
  | _ => false

/-- The check that can be computed is the predicate. -/
theorem serves_iff {app : Application} {run : Nat} : serves app run = true ↔ app.Serving run := by
  unfold serves Application.Serving
  constructor
  · intro serving
    split at serving
    · next joined known => exact ⟨joined, known⟩
    · cases serving
  · rintro ⟨joined, known⟩
    rw [known]

/-- The server is started with the default configuration. It is given the configuration that the
file then holds. -/
theorem window_guards_server_started :
    let inputs : List Input :=
      [.launch .done, .start .done, .proceed true, .proceed true, .proceed true]
    ∃ program marks,
      (desk socketTextsV4 defaultToml).run { file := .missing } inputs = some (program, marks) ∧
        program.window.serverRunning = true ∧
        OnDisk socketTextsV4 defaultToml program.file (program.given 0) := by
  intro inputs
  have shown : ((desk socketTextsV4 defaultToml).run { file := .missing } inputs).map
      (fun result => (result.1.window.serverRunning, serves result.1.app 0)) =
        some (true, true) := by decide +kernel
  obtain ⟨⟨program, marks⟩, ran, same⟩ := Option.map_eq_some_iff.mp shown
  obtain ⟨flag, serves⟩ := Prod.ext_iff.mp same
  obtain ⟨_, _, _, _, guarded⟩ :=
    window_guards_server socketTextsV4 defaultToml inputs .missing program marks ran
  exact ⟨program, marks, ran, flag, (guarded 0 (serves_iff.mp serves)).1⟩

end CheshireLane.Desktop
