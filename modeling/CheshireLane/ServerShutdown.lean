import CheshireLane.ServerRuntime

/-!
# How the server ends

The server returns for a preparation that fails, a service that ends or a shutdown that
was requested, and for nothing that a client does. When it returns no service is left and
no client runs on: what has not ended was aborted.
-/

namespace CheshireLane.ServerRuntime

open OwnedTasks Transitions

/-- What the caller looks at: the tasks of the four services. -/
abbrev Services := Service → Option (Task TaskId (Except Failure Unit))

/-- What a service can return. -/
def Returns (service : Service) : Except Failure Unit → Prop
  | .ok () => service.accepts = false
  | .error failure => ∃ cause, failure = [service.context, cause]

/-- No service was aborted or joined so far. -/
def Fresh (services : Services) : Prop :=
  ∀ service task, services service = some task → task.joined = false ∧
    match task.progress with
    | .running | .ended .panicked => True
    | .ended (.returned result) => Returns service result
    | .aborted | .ended .cancelled => False

/-- Every service was spawned and aborted. -/
def Stopped (services : Services) : Prop :=
  ∀ service, ∃ task, services service = some task ∧ task.progress ≠ .running

/-- A service was joined that returned the result, or failed in another way. -/
def Reported (services : Services) (result : Except Failure Unit) : Prop :=
  ∃ service owner outcome, services service = some ⟨owner, .ended outcome, true⟩ ∧
    ((outcome = .returned result ∧ Returns service result) ∨
      (outcome = .panicked ∧ ∃ text, result = .error ["server service task failed: " ++ text]))

/-- What holds of the services at each point of the caller. Before the first join no service was
joined or aborted, and behind it each of them was aborted or has ended. -/
def Stage (services : Services) (shutdown : Bool) : Phase → Prop
  | .preparing _ => ∀ service, services service = none
  | .spawning left => left.Nodup ∧ Fresh services ∧
    ∀ service, services service = none ↔ service ∈ left
  | .serving => Fresh services ∧ ∀ service, services service ≠ none
  | .draining result => Stopped services ∧
    ((shutdown = true ∧ result = .ok ()) ∨ Reported services result)
  | .returned result =>
    ((∃ preparation cause, result = .error (Preparation.failure cause preparation)) ∧
        ∀ service, services service = none) ∨
      (Stopped services ∧ ((shutdown = true ∧ result = .ok ()) ∨ Reported services result) ∧
        ∀ service task, services service = some task → task.joined = true)

/-- The services among all tasks. -/
def Server.services (server : Server) : Services := fun service => server.tasks (.service service)

/-- The invariant: tasks are held by whom their names say, and the services are as the phase of the
caller has them. -/
structure Supervised (server : Server) : Prop where
  orderly : Orderly server.tasks
  owners : ∀ id task, server.tasks id = some task → task.owner = id.owner
  stage : Stage server.services server.shutdown server.phase

/-- A service that has not ended may end at any time. What each phase says of the services allows
for it: behind the first join they were aborted, and before it none of them was joined. -/
theorem stage_ended {services : Services} {shutdown : Bool} {phase : Phase}
    (stage : Stage services shutdown phase) {service : Service}
    {task : Task TaskId (Except Failure Unit)} (known : services service = some task)
    (unended : task.progress.isEnded = false) (unjoined : task.joined = false)
    {outcome : Outcome (Except Failure Unit)}
    (cancelled : outcome = .cancelled → task.progress = .aborted)
    (returned : ∀ result, outcome = .returned result → Returns service result) :
    Stage (Function.update services service (some { task with progress := .ended outcome }))
      shutdown phase := by
  have fresh : Fresh services →
      Fresh (Function.update services service (some { task with progress := .ended outcome })) := by
    intro fresh other held present
    by_cases same : other = service
    · subst same
      rw [Function.update_self] at present
      cases present
      refine ⟨unjoined, ?_⟩
      cases outcome with
      | returned result => exact returned result rfl
      | panicked => trivial
      | cancelled =>
        have aborted := (fresh other task known).2
        rw [cancelled rfl] at aborted
        exact aborted
    · rw [Function.update_of_ne same] at present
      exact fresh other held present
  have stopped : Stopped services →
      Stopped (Function.update services service (some { task with progress := .ended outcome })) := by
    intro stopped other
    by_cases same : other = service
    · subst same
      exact ⟨_, Function.update_self .., nofun⟩
    · rw [Function.update_of_ne same]
      exact stopped other
  have reported : ∀ result, Reported services result → Reported
      (Function.update services service (some { task with progress := .ended outcome })) result := by
    rintro result ⟨other, owner, ended, present, reason⟩
    refine ⟨other, owner, ended, ?_, reason⟩
    rw [Function.update_of_ne, present]
    rintro rfl
    rw [known] at present
    cases present
    cases unjoined
  have spawned : ∀ other, Function.update services service
      (some { task with progress := .ended outcome }) other = none ↔ services other = none := by
    intro other
    by_cases same : other = service
    · subst same
      simp [known]
    · rw [Function.update_of_ne same]
  cases phase with
  | preparing left =>
    have absent := stage service
    rw [known] at absent
    cases absent
  | spawning left =>
    exact ⟨stage.1, fresh stage.2.1, fun other => (spawned other).trans (stage.2.2 other)⟩
  | serving => exact ⟨fresh stage.1, fun other absent => stage.2 other ((spawned other).mp absent)⟩
  | draining result => exact ⟨stopped stage.1, stage.2.imp id (reported result)⟩
  | returned result =>
    rcases stage with ⟨_, absent⟩ | ⟨_, _, joined⟩
    · rw [absent service] at known
      cases known
    · rw [joined service task known] at unjoined
      cases unjoined

/-- Every task is held by the owner that its name says. -/
def Owned (tasks : Tasks TaskId (Except Failure Unit)) : Prop :=
  ∀ id task, tasks id = some task → task.owner = id.owner

variable {tasks : Tasks TaskId (Except Failure Unit)}

/-- A task may move as long as its owner stays. -/
theorem Owned.set (owned : Owned tasks) {id : TaskId} {task : Task TaskId (Except Failure Unit)}
    (owner : task.owner = id.owner) : Owned (tasks.set id task) := by
  intro other held known
  by_cases same : other = id
  · subst same
    rw [set_self] at known
    cases known
    exact owner
  · rw [set_other same] at known
    exact owned other held known

/-- An abort changes no owner. -/
theorem Owned.abortAll (owned : Owned tasks) (owner : Option TaskId) : Owned (tasks.abortAll owner) := by
  intro id task known
  obtain ⟨before, held, same, _⟩ := abort_all_some known
  exact same.trans (owned id before held)

/-- A move of a client leaves the services alone. -/
theorem services_set_client (service other : Service) (number : Nat)
    (task : Task TaskId (Except Failure Unit)) :
    tasks.set (.client service number) task (.service other) = tasks (.service other) :=
  set_other (by simp) task

/-- No service is in the set of a task. -/
theorem services_abort (owned : Owned tasks) (holder : TaskId) (service : Service) :
    tasks.abortAll (some holder) (.service service) = tasks (.service service) := by
  cases known : tasks (.service service) with
  | none => rw [Tasks.abortAll, known, Option.map_none]
  | some task =>
    have owner : task.owner = none := owned _ task known
    rw [Tasks.abortAll, known, Option.map_some, owner, if_neg (by simp)]

/-- A move of a service changes that service only. -/
theorem services_set (service : Service) (task : Task TaskId (Except Failure Unit)) :
    (fun other => tasks.set (.service service) task (.service other)) =
      Function.update (fun other => tasks (.service other)) service (some task) := by
  funext other
  by_cases same : other = service
  · subst same
    rw [set_self, Function.update_self]
  · rw [Function.update_of_ne same]
    exact set_other (fun equal => same (TaskId.service.inj equal)) task

namespace Supervised

variable {server : Server}

/-- Before the first preparation there are no tasks. -/
theorem started : Supervised {} where
  orderly := .empty
  owners _ _ known := (Option.some_ne_none _ known.symm).elim
  stage _ := rfl

/-- The clients change, and the services do not. -/
theorem apart (supervised : Supervised server) {tasks : Tasks TaskId (Except Failure Unit)}
    (orderly : Orderly tasks) (owned : Owned tasks)
    (same : ∀ service, tasks (.service service) = server.tasks (.service service)) :
    Supervised { server with tasks } where
  orderly
  owners := owned
  stage := by
    have services : Server.services { server with tasks } = server.services := funext same
    rw [services]
    exact supervised.stage

/-- Accepting a client keeps the invariant, since the new task is not a service. -/
theorem accepted (supervised : Supervised server) {service : Service} {number : Nat}
    {tasks : Tasks TaskId (Except Failure Unit)}
    (taken : server.tasks.spawn (some (.service service)) (.client service number) = some tasks) :
    Supervised { server with tasks } := by
  have orderly := supervised.orderly.spawn taken
  unfold Tasks.spawn at taken
  split at taken
  · cases taken
    exact supervised.apart orderly (Owned.set supervised.owners rfl)
      fun other => services_set_client service other number _
  · cases taken

/-- Reaping a client keeps the invariant, since it was not a service. -/
theorem reaped (supervised : Supervised server) {service : Service} {number : Nat}
    {outcome : Outcome (Except Failure Unit)} {tasks : Tasks TaskId (Except Failure Unit)}
    (taken : server.tasks.join (some (.service service)) (.client service number) =
      some (outcome, tasks)) : Supervised { server with tasks } := by
  have orderly := supervised.orderly.join taken
  obtain ⟨known, rfl⟩ := join_cases taken
  exact supervised.apart orderly (Owned.set supervised.owners rfl)
    fun other => services_set_client service other number _

/-- A task ends, and what it returns is what it can. A client is no concern of the caller, and a
service that ends keeps to what is said of its phase. -/
theorem finished (supervised : Supervised server) {id : TaskId}
    {outcome : Outcome (Except Failure Unit)} {tasks : Tasks TaskId (Except Failure Unit)}
    (taken : server.tasks.finish id outcome = some tasks)
    (returned : ∀ service result, id = .service service → outcome = .returned result →
      Returns service result) : Supervised { server with tasks } := by
  have orderly := supervised.orderly.finish taken
  obtain ⟨task, known, unended, cancelled, rfl⟩ := finish_cases taken
  have owned : Owned ((server.tasks.abortAll (some id)).set id
      { task with progress := .ended outcome }) :=
    (Owned.abortAll supervised.owners (some id)).set (supervised.owners id task known)
  cases id with
  | client service number =>
    refine supervised.apart orderly owned fun other => ?_
    rw [services_set_client, services_abort supervised.owners]
  | service service =>
    refine ⟨orderly, owned, ?_⟩
    have unjoined : task.joined = false := by
      by_contra joined
      have ended := supervised.orderly.ended _ task known (by simpa using joined)
      rw [unended] at ended
      cases ended
    have services : Server.services { server with
        tasks := (server.tasks.abortAll (some (.service service))).set (.service service)
          { task with progress := .ended outcome } } =
        Function.update server.services service (some { task with progress := .ended outcome }) := by
      refine (services_set service _).trans (congrArg (Function.update · service _) ?_)
      exact funext fun other => services_abort supervised.owners _ other
    rw [services]
    exact stage_ended supervised.stage known unended unjoined cancelled
      fun result same => returned service result rfl same

/-- A preparation keeps the invariant. If it fails the caller returns, and there are no tasks yet.
The preparations are made one after the other, and spawning begins behind the last one. -/
theorem prepared (supervised : Supervised server) {cause : Option String} {next : Server}
    (taken : server.prepare cause = some next) : Supervised next := by
  have stage := supervised.stage
  unfold Server.prepare at taken
  split at taken
  · next preparing =>
    cases taken
    rw [preparing] at stage
    refine { supervised with stage := ⟨by decide, fun service task known => ?_, fun service => ?_⟩ }
    · have absent := (stage service).symm.trans known
      cases absent
    · refine iff_of_true (stage service) ?_
      cases service <;> decide
  · next preparation left preparing =>
    cases taken
    rw [preparing] at stage
    exact { supervised with stage }
  · next preparation left cause preparing =>
    cases taken
    rw [preparing] at stage
    exact { supervised with stage := .inl ⟨⟨preparation, cause, rfl⟩, stage⟩ }
  · cases taken

/-- Spawning the services keeps the invariant; behind the last one the caller waits. A service is
spawned once, under no owner, and it runs from then on. -/
theorem spawned (supervised : Supervised server) {next : Server}
    (taken : server.spawn = some next) : Supervised next := by
  have stage := supervised.stage
  unfold Server.spawn at taken
  split at taken
  · next spawning =>
    cases taken
    rw [spawning] at stage
    exact { supervised with
      stage := ⟨stage.2.1, fun service absent => List.not_mem_nil ((stage.2.2 service).mp absent)⟩ }
  · next service left spawning =>
    rw [spawning] at stage
    obtain ⟨nodup, fresh, waiting⟩ := stage
    obtain ⟨tasks, moved, rfl⟩ := Option.map_eq_some_iff.mp taken
    have orderly := supervised.orderly.spawn moved
    unfold Tasks.spawn at moved
    split at moved
    · cases moved
      refine ⟨orderly, Owned.set supervised.owners rfl, ?_⟩
      have services : Server.services { server with
          phase := .spawning left, tasks := server.tasks.set (.service service) { owner := none } } =
          Function.update server.services service (some { owner := none }) :=
        services_set service _
      rw [services]
      refine ⟨nodup.of_cons, fun other task known => ?_, fun other => ?_⟩
      · by_cases same : other = service
        · subst same
          rw [Function.update_self] at known
          cases known
          exact ⟨rfl, trivial⟩
        · rw [Function.update_of_ne same] at known
          exact fresh other task known
      · by_cases same : other = service
        · subst same
          rw [Function.update_self]
          exact iff_of_false nofun nodup.notMem
        · rw [Function.update_of_ne same, waiting other, List.mem_cons, or_iff_right same]
    · cases moved
  · cases taken

/-- The services are aborted, each of which was spawned. So whichever of them was running is
aborted, and the reason of the result is known already. -/
theorem wound (server : Server) (result : Except Failure Unit)
    {tasks : Tasks TaskId (Except Failure Unit)} (orderly : Orderly tasks) (owned : Owned tasks)
    (spawned : ∀ service, tasks (.service service) ≠ none)
    (reason : (server.shutdown = true ∧ result = .ok ()) ∨
      Reported (fun service => tasks (.service service)) result) :
    Supervised (server.wind tasks result) := by
  have aborted : ∀ service task, tasks (.service service) = some task →
      (server.wind tasks result).services service =
        some { task with progress := task.progress.abort } := by
    intro service task known
    have owner : task.owner = none := owned _ task known
    simp only [Server.services, Server.wind, Tasks.abortAll, known, Option.map_some, owner, ↓reduceIte]
  refine ⟨orderly.abortAll none, owned.abortAll none, fun service => ?_, reason.imp id ?_⟩
  · obtain ⟨task, known⟩ := Option.ne_none_iff_exists'.mp (spawned service)
    exact ⟨_, aborted service task known, abort_stopped⟩
  · rintro ⟨service, owner, outcome, known, why⟩
    exact ⟨service, owner, outcome, aborted service _ known, why⟩

/-- A service that was joined returned a result, or it panicked. The join gives its outcome, and
that is what the caller reports once the others are wound up. -/
theorem selected (supervised : Supervised server) (serving : server.phase = .serving)
    {service : Service} {outcome : Outcome (Except Failure Unit)}
    {tasks : Tasks TaskId (Except Failure Unit)} (error : String)
    (taken : server.tasks.join none (.service service) = some (outcome, tasks)) :
    Supervised (server.wind tasks (Server.joinResult error outcome)) := by
  have orderly := supervised.orderly.join taken
  obtain ⟨known, rfl⟩ := join_cases taken
  have stage := supervised.stage
  rw [serving] at stage
  obtain ⟨fresh, spawned⟩ := stage
  refine wound server _ orderly (Owned.set supervised.owners rfl) ?_ (.inr ?_)
  · intro other
    by_cases same : other = service
    · subst same
      rw [set_self]
      exact Option.some_ne_none _
    · rw [set_other fun equal => same (TaskId.service.inj equal)]
      exact spawned other
  · refine ⟨service, none, outcome, set_self .., ?_⟩
    have ended := (fresh service _ known).2
    cases outcome with
    | returned result => exact .inl ⟨rfl, ended⟩
    | panicked => exact .inr ⟨rfl, error, rfl⟩
    | cancelled => exact ended.elim

/-- A service taken out of the set stays as it ended. Its outcome is thrown away, as in the source;
the result was settled when the first service was joined. -/
theorem drained (supervised : Supervised server) {result : Except Failure Unit}
    (draining : server.phase = .draining result) {service : Service}
    {outcome : Outcome (Except Failure Unit)} {tasks : Tasks TaskId (Except Failure Unit)}
    (taken : server.tasks.join none (.service service) = some (outcome, tasks)) :
    Supervised { server with tasks } := by
  have orderly := supervised.orderly.join taken
  obtain ⟨known, rfl⟩ := join_cases taken
  have stage := supervised.stage
  rw [draining] at stage
  obtain ⟨stopped, reason⟩ := stage
  refine ⟨orderly, Owned.set supervised.owners rfl, ?_⟩
  have services : Server.services { server with
      tasks := server.tasks.set (.service service) ⟨none, .ended outcome, true⟩ } =
      Function.update server.services service (some ⟨none, .ended outcome, true⟩) :=
    services_set service _
  rw [services]
  show Stage _ server.shutdown server.phase
  rw [draining]
  refine ⟨fun other => ?_, reason.imp id ?_⟩
  · by_cases same : other = service
    · subst same
      exact ⟨_, Function.update_self .., nofun⟩
    · rw [Function.update_of_ne same]
      exact stopped other
  · rintro ⟨other, owner, ended, present, why⟩
    refine ⟨other, owner, ended, ?_, why⟩
    rw [Function.update_of_ne, present]
    rintro rfl
    rw [show server.services other = _ from known] at present
    cases present

/-- The set is empty when every service was joined. -/
theorem emptied_joined (emptied : server.emptied = true) (service : Service)
    (task : Task TaskId (Except Failure Unit)) (known : server.services service = some task) :
    task.joined = true := by
  have joined : server.joined service = true :=
    List.all_eq_true.mp emptied service (by cases service <;> decide)
  rwa [Server.joined, show server.tasks (.service service) = _ from known] at joined

/-- While the caller serves, its set is not empty. -/
theorem unemptied (supervised : Supervised server) (serving : server.phase = .serving) :
    server.emptied = false := by
  by_contra emptied
  have stage := supervised.stage
  rw [serving] at stage
  obtain ⟨task, known⟩ := Option.ne_none_iff_exists'.mp (stage.2 .dispatch)
  have joined := emptied_joined (by simpa using emptied) .dispatch task known
  rw [(stage.1 .dispatch task known).1] at joined
  cases joined

/-- A request for a shutdown moves nobody. What was concluded without one still stands. -/
theorem requested (supervised : Supervised server) :
    Supervised { server with shutdown := true } := by
  have stage := supervised.stage
  refine { supervised with stage := ?_ }
  cases phase : server.phase with
  | draining result =>
    rw [phase] at stage
    exact ⟨stage.1, stage.2.imp (And.imp_left fun _ => rfl) id⟩
  | returned result =>
    rw [phase] at stage
    exact stage.imp id (And.imp_right (And.imp_left (Or.imp (And.imp_left fun _ => rfl) id)))
  | _ =>
    rw [phase] at stage
    exact stage

/-- Every step keeps the services in order. A step is a move of the caller, an event of a service,
or one of a client, and each kind has its lemma above. -/
theorem step (supervised : Supervised server) {event : Event} {next : Server}
    (taken : server.step event = some next) : Supervised next := by
  cases event with
  | prepare cause => exact supervised.prepared taken
  | spawn => exact supervised.spawned taken
  | requestShutdown =>
    cases taken
    exact supervised.requested
  | accept service number =>
    simp only [Server.step] at taken
    split at taken
    · obtain ⟨tasks, moved, rfl⟩ := Option.map_eq_some_iff.mp taken
      exact supervised.accepted moved
    · cases taken
  | reap service number =>
    simp only [Server.step] at taken
    split at taken
    · obtain ⟨⟨outcome, tasks⟩, moved, rfl⟩ := Option.map_eq_some_iff.mp taken
      exact supervised.reaped moved
    · cases taken
  | finish id result =>
    obtain ⟨value, returns, taken⟩ := Option.bind_eq_some_iff.mp taken
    obtain ⟨tasks, moved, rfl⟩ := Option.map_eq_some_iff.mp taken
    refine supervised.finished moved fun service result' same returned => ?_
    subst same
    cases returned
    cases result with
    | error cause =>
      cases service <;> cases returns <;> exact ⟨cause, rfl⟩
    | ok _ => cases service <;> cases returns <;> rfl
  | panic id =>
    obtain ⟨tasks, moved, rfl⟩ := Option.map_eq_some_iff.mp taken
    exact supervised.finished moved nofun
  | cancel id =>
    obtain ⟨tasks, moved, rfl⟩ := Option.map_eq_some_iff.mp taken
    exact supervised.finished moved nofun
  | select service error =>
    simp only [Server.step] at taken
    split at taken
    · next serving =>
      obtain ⟨⟨outcome, tasks⟩, moved, rfl⟩ := Option.map_eq_some_iff.mp taken
      exact supervised.selected serving error moved
    · cases taken
  | selectEmpty =>
    simp only [Server.step] at taken
    split at taken
    · next serving =>
      rw [supervised.unemptied serving] at taken
      cases taken
    · cases taken
  | selectShutdown =>
    simp only [Server.step] at taken
    split at taken
    · next serving =>
      split at taken
      · next requested =>
        cases taken
        have stage := supervised.stage
        rw [serving] at stage
        exact wound server _ supervised.orderly supervised.owners stage.2 (.inl ⟨requested, rfl⟩)
      · cases taken
    · cases taken
  | drain service =>
    simp only [Server.step] at taken
    split at taken
    · next result draining =>
      obtain ⟨⟨outcome, tasks⟩, moved, rfl⟩ := Option.map_eq_some_iff.mp taken
      exact supervised.drained draining moved
    · cases taken
  | leave =>
    simp only [Server.step] at taken
    split at taken
    · next result draining =>
      split at taken
      · next emptied =>
        cases taken
        have stage := supervised.stage
        rw [draining] at stage
        exact { supervised with stage := .inr ⟨stage.1, stage.2, emptied_joined emptied⟩ }
      · cases taken
    · cases taken

/-- The invariant holds at the end of every run. -/
theorem run (supervised : Supervised server) (events : List Event) (last : Server)
    (marks : List Unit) (ran : runtime.run server events = some (last, marks)) : Supervised last := by
  refine Machine.run_always (fun _ server => Supervised server) ?_ events server last marks supervised
    ran
  intro _ server event next mark supervised taken
  simp only [runtime, Option.map_eq_some_iff] at taken
  obtain ⟨stepped, moved, same⟩ := taken
  cases same
  exact supervised.step moved

end Supervised

/-- The client whose step an event is: it is accepted, its task ends in whatever way, or its service
takes note of that. -/
def Event.client : Event → Option (Service × Nat)
  | .accept service number | .reap service number => some (service, number)
  | .finish (.client service number) _ => some (service, number)
  | .panic (.client service number) | .cancel (.client service number) => some (service, number)
  | _ => none

/-- The service that ends in an event, by returning, by a panic or behind an abort. -/
def Event.ends : Event → Option Service
  | .finish (.service service) _ => some service
  | .panic (.service service) | .cancel (.service service) => some service
  | _ => none

/-- One event that is enabled is a run. -/
theorem run_one {server next : Server} {event : Event} (taken : server.step event = some next) :
    runtime.run server [event] = some (next, [()]) :=
  Machine.run_single (by simp [runtime, taken])

/-- The services that are left are spawned, and the server serves. By induction on those left; the
steps of the caller alone are enough. -/
theorem spawns {server : Server} (supervised : Supervised server) {left : List Service}
    (spawning : server.phase = .spawning left) :
    ∃ events last marks, runtime.run server events = some (last, marks) ∧ Supervised last ∧
      last.phase = .serving ∧ last.shutdown = server.shutdown := by
  induction left generalizing server with
  | nil =>
    have taken : server.step .spawn = some { server with phase := .serving } := by
      simp [Server.step, Server.spawn, spawning]
    exact ⟨_, _, _, run_one taken, supervised.step taken, rfl, rfl⟩
  | cons service left inductionHypothesis =>
    have stage := supervised.stage
    rw [spawning] at stage
    have absent : server.tasks (.service service) = none :=
      (stage.2.2 service).mpr List.mem_cons_self
    have taken : server.step .spawn = some { server with
        phase := .spawning left
        tasks := server.tasks.set (.service service) { owner := none } } := by
      simp [Server.step, Server.spawn, spawning, Tasks.spawn, absent]
    obtain ⟨events, last, marks, ran, kept, serving, same⟩ :=
      inductionHypothesis (supervised.step taken) rfl
    exact ⟨_, last, _, Machine.run_append (run_one taken) ran, kept, serving, same⟩

/-- What is left to prepare may succeed, and the services are spawned behind it. By induction on
those left. -/
theorem prepares {server : Server} (supervised : Supervised server) {left : List Preparation}
    (preparing : server.phase = .preparing left) :
    ∃ events last marks, runtime.run server events = some (last, marks) ∧ Supervised last ∧
      last.phase = .serving ∧ last.shutdown = server.shutdown := by
  induction left generalizing server with
  | nil =>
    have taken : server.step (.prepare none) = some { server with phase := .spawning Service.all } := by
      simp [Server.step, Server.prepare, preparing]
    obtain ⟨events, last, marks, ran, kept, serving, same⟩ := spawns (supervised.step taken) rfl
    exact ⟨_, last, _, Machine.run_append (run_one taken) ran, kept, serving, same⟩
  | cons preparation left inductionHypothesis =>
    have taken : server.step (.prepare none) = some { server with phase := .preparing left } := by
      simp [Server.step, Server.prepare, preparing]
    obtain ⟨events, last, marks, ran, kept, serving, same⟩ :=
      inductionHypothesis (supervised.step taken) rfl
    exact ⟨_, last, _, Machine.run_append (run_one taken) ran, kept, serving, same⟩

/-- The result a server has, if it is winding down or has returned. -/
def Server.result (server : Server) : Option (Except Failure Unit) :=
  match server.phase with
  | .draining result | .returned result => some result
  | _ => none

end CheshireLane.ServerRuntime
