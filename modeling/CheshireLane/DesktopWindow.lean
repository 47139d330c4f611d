import CheshireLane.ConfigEditor
import CheshireLane.ServerController

/-!
# The window of the desktop application

The program opens a window over `config.toml`: the form shows the configuration, Save
and Start write what the form holds, and Start hands it to the controller. A runtime
thread reports its end through a closure that the event loop runs later. The program
may be closed or killed and launched again over the same file.
-/

namespace CheshireLane.Desktop

open Transitions

/-- What is found at `config.toml`. -/
inductive ConfigFile where
  | missing
  | unreadable
  | text (content : String)

/-- How a write of `config.toml` ends. One that fails may leave anything. -/
inductive Write where
  | done
  | failed (left : ConfigFile)

/-- `toml` and `serde` for configurations, with the text of `DEFAULT_CONFIG`: what is printed
is read back. -/
structure Toml (SocketAddr : Type) where
  parse : String → Option (Config SocketAddr)
  print : Config SocketAddr → Option String
  defaultText : String
  default : Config SocketAddr
  parse_default : parse defaultText = some default
  parse_print : ∀ config text, print config = some text → parse text = some config

/-- The status line: a text, or a summary with the error behind it. Of an error this is the
outermost context. -/
inductive Status where
  | line (text : String)
  | report (summary error : String)

/-- What the window shows: the form, the status, the running flag and whether the logs are open. -/
structure AppWindow where
  form : FormValues
  status : Status := .line "Ready — configuration loaded, server stopped."
  serverRunning : Bool := false
  showLogs : Bool := false

/-- The fields of a window before anything is shown in them. -/
def blankForm : FormValues :=
  ⟨"", "", "", "", "", "", "", "", "", "", "", "", "", "", "", "", "", "", "", "", "", "", "", "", "", ""⟩

/-- `report_error`: the error is shown, and the logs are opened. -/
def AppWindow.reportError (window : AppWindow) (summary error : String) : AppWindow :=
  { window with status := .report summary error, showLogs := true }

/-- The status line of a fresh start. -/
def readyLine : String :=
  "Ready — config.toml loaded. The server waits for Start, as civilized software should."

/-- The program is not there, in its event loop, or behind it. -/
inductive Process where
  | closed
  | running
  | closing

/-- The program and its file. A closure that waits for the event loop is known by its run and
the result of the server. -/
structure Program (SocketAddr : Type) where
  file : ConfigFile
  process : Process := .closed
  window : AppWindow := ⟨blankForm, .line "", false, false⟩
  app : Application := {}
  starting : Option (Config SocketAddr) := none
  given : Nat → Option (Config SocketAddr) := fun _ => none
  posted : Nat → Bool := fun _ => false
  queue : List (Nat × Except String Unit) := []

/-- The user and the system launch, close and kill the program; the user edits and clicks;
a call goes on, a runtime thread moves, and the event loop runs a closure. -/
inductive Input where
  | launch (write : Write)
  | kill
  | close
  | edit (form : FormValues)
  | toggleLogs
  | save (write : Write)
  | start (write : Write)
  | stop
  | proceed (succeeds : Bool)
  | finish (run : Nat)
  | post (run : Nat) (result : Except String Unit)
  | terminate (run : Nat) (panicked : Bool)
  | handle

/-- What a step leaves: the configuration it saved, and what the controller did. -/
structure Mark (SocketAddr : Type) where
  saved : Option (Config SocketAddr) := none
  actions : List Action := []

section

variable {SocketAddr : Type} (sockets : SocketTexts SocketAddr) (toml : Toml SocketAddr)

/-- `Config::load_or_create`. A missing file is written with the default text; the write may fail
and leave a part of it. -/
def loadOrCreate (file : ConfigFile) (write : Write) :
    Except String (Config SocketAddr) × ConfigFile :=
  match file with
  | .text data =>
    match toml.parse data with
    | some config => (.ok config, file)
    | none => (.error "parse configuration config.toml", file)
  | .missing =>
    match write with
    | .done => (.ok toml.default, .text toml.defaultText)
    | .failed left => (.error "write default configuration config.toml", left)
  | .unreadable => (.error "read configuration config.toml", file)

/-- `config_editor::populate`. -/
def populate (window : AppWindow) (config : Config SocketAddr) : Except String AppWindow :=
  (FormValues.fromConfig sockets config).map fun form => { window with form }

/-- `load_initial_config`. If there is no configuration to show, the form shows the defaults, and
the status line says why. -/
def loadInitialConfig (window : AppWindow) (loaded : Except String (Config SocketAddr)) : AppWindow :=
  match loaded with
  | .ok config =>
    match populate sockets window config with
    | .ok window => { window with status := .line readyLine }
    | .error error => window.reportError "Could not display configuration" error
  | .error error =>
    let shown := (populate sockets window toml.default).toOption.getD window
    shown.reportError "Could not load config.toml; showing defaults" error

/-- `collect_and_save`, with `Config::save`. The form is checked and printed before the file is
opened, so only a failed write can spoil the file. -/
def collectAndSave (file : ConfigFile) (form : FormValues) (write : Write) :
    Except String (Config SocketAddr) × ConfigFile :=
  match form.intoConfig sockets with
  | .error error => (.error error, file)
  | .ok config =>
    match toml.print config with
    | none => (.error "serialize server configuration", file)
    | some text =>
      match write with
      | .done => (.ok config, .text text)
      | .failed left => (.error "write configuration config.toml", left)

namespace Program

variable (program : Program SocketAddr)

/-- The event loop waits for the next thing to do. -/
def idle : Bool :=
  match program.process, program.app.call with
  | .running, .idle => true
  | _, _ => false

/-- `main` up to its event loop: the file is loaded or created, and the window is filled. -/
def launch (write : Write) : Program SocketAddr :=
  let (loaded, file) := loadOrCreate toml program.file write
  { file, process := .running, window := loadInitialConfig sockets toml ⟨blankForm, .line
      "Ready — configuration loaded, server stopped.", false, false⟩ loaded }

/-- The callback of Save. It changes the status line and the file, and leaves the controller alone.
-/
def save (write : Write) : Program SocketAddr × Mark SocketAddr :=
  let (collected, file) := collectAndSave sockets toml program.file program.window.form write
  match collected with
  | .ok config =>
    ({ program with
        file
        window := { program.window with
          status := .line "Configuration saved to config.toml. No sockets were harmed." } },
      ⟨some config, []⟩)
  | .error error =>
    ({ program with
        file
        window := program.window.reportError "Configuration was not saved" error }, {})

/-- The rest of a callback, behind the call of the controller. Behind `shutdown_and_wait` the
program is over. -/
def answered : Answer → Program SocketAddr
  | .started (.ok ()) => { program with
      window := { program.window with
        serverRunning := true
        status := .line "Starting server… configuration was saved first." } }
  | .started (.error error) => { program with
      window := program.window.reportError "Server did not start" error }
  | .stopped true => { program with
      window := { program.window with
        status := .line "Stopping server… persuading every task to leave politely." } }
  | .stopped false => { program with
      window := { program.window with
        status := .line "The server is already stopping or stopped." } }
  | .waited _ => { file := program.file }

/-- A thread is spawned with the configuration of the call in progress. -/
def note (program : Program SocketAddr) : Action → Program SocketAddr
  | .spawned run => { program with given := Function.update program.given run program.starting }
  | .returned answer => program.answered answer
  | _ => program

/-- The controller moves, and its answer ends the callback. -/
def control (event : Event) (saved : Option (Config SocketAddr)) :
    Option (Program SocketAddr × Mark SocketAddr) :=
  (desktop.step program.app event).map fun moved =>
    (moved.2.foldl note { program with app := moved.1 }, ⟨saved, moved.2⟩)

/-- The callback of Start, up to the first section of the controller. -/
def startServer (write : Write) : Option (Program SocketAddr × Mark SocketAddr) :=
  let (collected, file) := collectAndSave sockets toml program.file program.window.form write
  match collected with
  | .ok config => { program with file, starting := some config }.control .start (some config)
  | .error error =>
    some ({ program with
      file
      window := program.window.reportError
        "Server did not start because configuration is invalid" error }, {})

/-- A runtime thread behind its section posts its closure. -/
def post (run : Nat) (result : Except String Unit) : Option (Program SocketAddr) :=
  match program.app.runtimes run, program.posted run with
  | some ⟨.reporting, _⟩, false => some { program with
      posted := Function.update program.posted run true
      queue := program.queue ++ [(run, result)] }
  | _, _ => none

/-- The closure of a runtime thread. It runs on the event loop, turns the running flag off and tells
how the server has ended. -/
def reported (result : Except String Unit) (queue : List (Nat × Except String Unit)) :
    Program SocketAddr :=
  let window := { program.window with serverRunning := false }
  { program with
    queue
    window := match result with
      | .ok () => { window with status := .line "Server stopped. Configuration remains loaded." }
      | .error error => window.reportError "Server failed" error }

end Program

/-- The program over its file. Save and Start are disabled while a server runs, and Stop while
none runs; a thread that ends on its own has posted its closure. -/
def desk : Machine (Program SocketAddr) Input (Mark SocketAddr) where
  step program input :=
    match input with
    | .launch write =>
      match program.process with
      | .closed => some (program.launch sockets toml write, {})
      | _ => none
    | .kill => some ({ file := program.file }, {})
    | .close =>
      if program.idle then { program with process := .closing }.control .shutdownAndWait none else none
    | .edit form =>
      if program.idle then some ({ program with window := { program.window with form } }, {}) else none
    | .toggleLogs =>
      if program.idle then
        some ({ program with
          window := { program.window with showLogs := !program.window.showLogs } }, {})
      else none
    | .save write =>
      if program.idle && !program.window.serverRunning then some (program.save sockets toml write)
      else none
    | .start write =>
      if program.idle && !program.window.serverRunning then program.startServer sockets toml write
      else none
    | .stop =>
      if program.idle && program.window.serverRunning then program.control .stop none else none
    | .proceed succeeds => program.control (.proceed succeeds) none
    | .finish run => program.control (.finish run) none
    | .post run result => (program.post run result).map fun next => (next, {})
    | .terminate run panicked =>
      if program.posted run || panicked then program.control (.terminate run panicked) none else none
    | .handle =>
      if program.idle then
        match program.queue with
        | [] => none
        | (_, result) :: queue => some (program.reported result queue, {})
      else none

end

end CheshireLane.Desktop
