import CheshireLane.Library.OwnedTasks
import CheshireLane.Library.Transitions
import Mathlib.Data.List.Nodup

/-!
# The runtime of the server

The server prepares, spawns its four services and serves until one of them ends or a
shutdown is requested. Then it aborts the services and waits for each. The dispatch and
the gate service hold one task for each client. Tasks move at any time between the steps
of the caller.
-/

namespace CheshireLane.ServerRuntime

open OwnedTasks Transitions

/-- The four services of the program. -/
inductive Service where
  | dispatch
  | gate
  | sdk
  | sdkProxy
  deriving DecidableEq

/-- The services in the order in which they are spawned. -/
def Service.all : List Service := [.dispatch, .gate, .sdk, .sdkProxy]

/-- The context of what a service returns. -/
def Service.context : Service → String
  | .dispatch => "dispatch service"
  | .gate => "gate service"
  | .sdk => "SDK service"
  | .sdkProxy => "SDK proxy service"

/-- The service spawns a task for each connection. -/
def Service.accepts : Service → Bool
  | .dispatch | .gate => true
  | .sdk | .sdkProxy => false

/-- Every task is a service, or a client that a service has accepted. -/
inductive TaskId where
  | service (service : Service)
  | client (service : Service) (number : Nat)
  deriving DecidableEq

/-- The task in whose set a task is held; services are held by the caller. -/
def TaskId.owner : TaskId → Option TaskId
  | .service _ => none
  | .client holder _ => some (.service holder)

/-- What stands in front of the services. -/
inductive Preparation where
  | cryptoProvider
  | certificates
  | gameData
  | database

/-- An error with its contexts, the outermost first. -/
abbrev Failure := List String

/-- The error of a failed preparation with its context, as `anyhow` prints it. -/
def Preparation.failure (cause : String) : Preparation → Failure
  | .cryptoProvider => ["failed to install rustls crypto provider"]
  | .certificates => ["prepare server certificates", cause]
  | .gameData => ["load game data", cause]
  | .database => ["connect server database", cause]

/-- What a task returns. Only the SDK service and the proxy return without an error; a client's
error is logged. -/
def TaskId.returns : TaskId → Except String Unit → Option (Except Failure Unit)
  | .service .dispatch, .ok () | .service .gate, .ok () => none
  | .service _, .ok () => some (.ok ())
  | .service name, .error cause => some (.error [name.context, cause])
  | .client _ _, _ => some (.ok ())

/-- Where `run_until_shutdown` stands. -/
inductive Phase where
  | preparing (left : List Preparation)
  | spawning (left : List Service)
  | serving
  | draining (result : Except Failure Unit)
  | returned (result : Except Failure Unit)

/-- The caller's phase, whether a shutdown was requested, and all tasks. -/
structure Server where
  phase : Phase := .preparing [.cryptoProvider, .certificates, .gameData, .database]
  tasks : Tasks TaskId (Except Failure Unit) := fun _ => none
  shutdown : Bool := false

/-- The caller moves on, a shutdown is requested, a service accepts a client or joins one, and
a task ends. Of a join that fails the event has the text. -/
inductive Event where
  | prepare (cause : Option String)
  | spawn
  | requestShutdown
  | accept (service : Service) (number : Nat)
  | reap (service : Service) (number : Nat)
  | finish (id : TaskId) (result : Except String Unit)
  | panic (id : TaskId)
  | cancel (id : TaskId)
  | select (service : Service) (error : String)
  | selectEmpty
  | selectShutdown
  | drain (service : Service)
  | leave

namespace Server

variable (server : Server)

/-- A service that was never spawned needs no join. -/
def joined (service : Service) : Bool :=
  match server.tasks (.service service) with
  | some task => task.joined
  | none => true

/-- The set of services holds none. -/
def emptied : Bool := Service.all.all server.joined

/-- `install_crypto_provider`, `certificates::ensure`, `data::load_all` and `Database::connect`. -/
def prepare (cause : Option String) : Option Server :=
  match server.phase, cause with
  | .preparing [], none => some { server with phase := .spawning Service.all }
  | .preparing (_ :: left), none => some { server with phase := .preparing left }
  | .preparing (next :: _), some cause =>
    some { server with phase := .returned (.error (next.failure cause)) }
  | _, _ => none

/-- One spawn after the other; behind the last one the caller waits. -/
def spawn : Option Server :=
  match server.phase with
  | .spawning [] => some { server with phase := .serving }
  | .spawning (service :: left) =>
    (server.tasks.spawn none (.service service)).map fun tasks =>
      { server with phase := .spawning left, tasks }
  | _ => none

/-- The result of the task that `join_next` yields. -/
def joinResult (error : String) : Outcome (Except Failure Unit) → Except Failure Unit
  | .returned result => result
  | .panicked | .cancelled => .error ["server service task failed: " ++ error]

/-- A branch of the select is taken, and the services are aborted. -/
def wind (tasks : Tasks TaskId (Except Failure Unit)) (result : Except Failure Unit) : Server :=
  { server with phase := .draining result, tasks := tasks.abortAll none }

/-- A task ends by itself, and takes the clients it holds with it. -/
def finish (id : TaskId) (outcome : Outcome (Except Failure Unit)) : Option Server :=
  (server.tasks.finish id outcome).map fun tasks => { server with tasks }

/-- A service accepts and joins clients while it has not ended. Tasks end, panic or are cancelled in
any order; the caller prepares, spawns, waits, and winds up when it was asked to stop or has joined
the first service. -/
def step (event : Event) : Option Server :=
  match event with
  | .prepare cause => server.prepare cause
  | .spawn => server.spawn
  | .requestShutdown => some { server with shutdown := true }
  | .accept service number =>
    if service.accepts then
      (server.tasks.spawn (some (.service service)) (.client service number)).map fun tasks =>
        { server with tasks }
    else none
  | .reap service number =>
    if server.tasks.alive (.service service) then
      (server.tasks.join (some (.service service)) (.client service number)).map fun joined =>
        { server with tasks := joined.2 }
    else none
  | .finish id result => (id.returns result).bind fun result => server.finish id (.returned result)
  | .panic id => server.finish id .panicked
  | .cancel id => server.finish id .cancelled
  | .select service error =>
    match server.phase with
    | .serving => (server.tasks.join none (.service service)).map fun joined =>
      server.wind joined.2 (joinResult error joined.1)
    | _ => none
  | .selectEmpty =>
    match server.phase with
    | .serving =>
      if server.emptied then
        some (server.wind server.tasks (.error ["server started without any services"]))
      else none
    | _ => none
  | .selectShutdown =>
    match server.phase with
    | .serving => if server.shutdown then some (server.wind server.tasks (.ok ())) else none
    | _ => none
  | .drain service =>
    match server.phase with
    | .draining _ => (server.tasks.join none (.service service)).map fun joined =>
      { server with tasks := joined.2 }
    | _ => none
  | .leave =>
    match server.phase with
    | .draining result => if server.emptied then some { server with phase := .returned result } else none
    | _ => none

end Server

/-- The server as a machine whose steps are the caller's and those of all tasks. -/
def runtime : Machine Server Event Unit where
  step server event := (server.step event).map fun next => (next, ())

end CheshireLane.ServerRuntime
