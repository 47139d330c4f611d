import CheshireLane.WindowedServer

/-!
# The settings over restarts

What the last Save or Start wrote is what the next launch shows and what a server was
given, however often the program was closed or killed in between, as long as the writes
succeed and no version that is saved reads like the automatic one.
-/

namespace CheshireLane.Desktop

open Transitions

/-- The configuration that a file stands for; a missing one is made by the next launch. -/
def Stands {SocketAddr : Type} (toml : Toml SocketAddr) (config : Config SocketAddr) :
    ConfigFile → Prop
  | .missing => config = toml.default
  | .unreadable => False
  | .text content => toml.parse content = some config

/-- The form shows the configuration, and it is collected from the form again. -/
def Presentable {SocketAddr : Type} (sockets : SocketTexts SocketAddr)
    (config : Config SocketAddr) : Prop :=
  ∃ form, FormValues.fromConfig sockets config = .ok form ∧ form.intoConfig sockets = .ok config

/-- Writes succeed, and no version that is saved reads like the automatic one. -/
def Careful {SocketAddr : Type} (program : Program SocketAddr) : Input → Prop
  | .launch write => write = .done
  | .save write | .start write =>
    write = .done ∧ ∀ field ∈ program.window.form.versions, isDTag (trim field.1) = false
  | _ => True

/-- The configuration that was saved last. -/
def lastSaved {SocketAddr : Type} (first : Config SocketAddr) (marks : List (Mark SocketAddr)) :
    Config SocketAddr :=
  (marks.filterMap Mark.saved).getLast?.getD first

section

variable {SocketAddr : Type} {sockets : SocketTexts SocketAddr} {toml : Toml SocketAddr}

/-- One more step saves a configuration or leaves the last one. -/
theorem last_saved_append (first : Config SocketAddr) (marks : List (Mark SocketAddr))
    (mark : Mark SocketAddr) :
    lastSaved first (marks ++ [mark]) = mark.saved.getD (lastSaved first marks) := by
  unfold lastSaved
  rw [List.filterMap_append]
  cases saved : mark.saved with
  | none => simp [saved]
  | some config => simp [saved]

/-- An accepted form without such a version is shown again. -/
theorem accepted_presentable {form : FormValues} {config : Config SocketAddr}
    (read : form.intoConfig sockets = .ok config)
    (untagged : ∀ field ∈ form.versions, isDTag (trim field.1) = false) :
    Presentable sockets config := by
  have accepted := into_config_iff.mp read
  obtain ⟨versions, kept, version⟩ := accepted.versions
  obtain ⟨_, _, _, _, _, _, emitted⟩ := accepted.server
  have nine := (versions_kept kept).mpr untagged
  rw [← nine_versions, ← version] at nine
  have served : config.dispatchServers ≠ [] := by
    rw [emitted]
    exact List.cons_ne_nil _ _
  obtain ⟨shown, displayed⟩ := from_config_succeeds.mpr ⟨nine, served⟩
  exact ⟨shown, displayed,
    into_config_iff.mpr (shown_accepted accepted (from_config_shown displayed))⟩

/-- Without a write that fails, what is not saved leaves the file as it was. -/
theorem collected_done {file saved : ConfigFile} {form : FormValues}
    {result : Except String (Config SocketAddr)}
    (collected : collectAndSave sockets toml file form .done = (result, saved)) :
    (∃ config, result = .ok config ∧ form.intoConfig sockets = .ok config ∧ Stands toml config saved) ∨
      (∃ error, result = .error error) ∧ saved = file := by
  unfold collectAndSave at collected
  split at collected
  · cases collected
    exact .inr ⟨⟨_, rfl⟩, rfl⟩
  · next config read =>
    split at collected <;> cases collected
    · exact .inr ⟨⟨_, rfl⟩, rfl⟩
    · next text printed => exact .inl ⟨config, rfl, read, toml.parse_print config text printed⟩

/-- A file that stands for a configuration that can be shown is opened as such. If there is no file
the default text is written, which reads as the default configuration. -/
theorem launch_shows (program : Program SocketAddr) {config : Config SocketAddr}
    (stands : Stands toml config program.file) (presentable : Presentable sockets config) :
    ∃ text, (program.launch sockets toml .done).file = .text text ∧ toml.parse text = some config ∧
      (program.launch sockets toml .done).window.status = .line readyLine ∧
      (program.launch sockets toml .done).window.form.intoConfig sockets = .ok config := by
  obtain ⟨form, shown, read⟩ := presentable
  cases file : program.file with
  | missing =>
    rw [file] at stands
    cases stands
    exact ⟨toml.defaultText, by simp [Program.launch, loadOrCreate, file], toml.parse_default, by
      simp [Program.launch, loadOrCreate, file, loadInitialConfig, populate, shown, Except.map], by
      simp [Program.launch, loadOrCreate, file, loadInitialConfig, populate, shown, Except.map, read]⟩
  | unreadable =>
    rw [file] at stands
    cases stands
  | text content =>
    rw [file] at stands
    have parsed : toml.parse content = some config := stands
    exact ⟨content, by simp [Program.launch, loadOrCreate, file, parsed], parsed, by
      simp [Program.launch, loadOrCreate, file, parsed, loadInitialConfig, populate, shown, Except.map],
      by simp [Program.launch, loadOrCreate, file, parsed, loadInitialConfig, populate, shown,
        Except.map, read]⟩

/-- A controller step saves what the callback collected. -/
theorem control_saved {program next : Program SocketAddr} {event : Event}
    {saved : Option (Config SocketAddr)} {mark : Mark SocketAddr}
    (taken : program.control event saved = some (next, mark)) : mark.saved = saved := by
  simp only [Program.control, Option.map_eq_some_iff] at taken
  obtain ⟨moved, _, same⟩ := taken
  cases same
  rfl

/-- Apart from a launch, Save and Start the file is left alone. One case for each input; the runtime
threads and the event loop have no hand in the file. -/
theorem step_settled {program next : Program SocketAddr} {input : Input} {mark : Mark SocketAddr}
    (other : ∀ write, input ≠ .launch write ∧ input ≠ .save write ∧ input ≠ .start write)
    (taken : (desk sockets toml).step program input = some (next, mark)) :
    next.file = program.file ∧ mark.saved = none := by
  cases input with
  | launch write => exact absurd rfl (other write).1
  | save write => exact absurd rfl (other write).2.1
  | start write => exact absurd rfl (other write).2.2
  | kill =>
    cases taken
    exact ⟨rfl, rfl⟩
  | proceed | finish => exact ⟨control_file taken, control_saved taken⟩
  | post run result =>
    simp only [desk, Option.map_eq_some_iff, Program.post] at taken
    obtain ⟨posted, moved, same⟩ := taken
    cases same
    split at moved <;> cases moved
    exact ⟨rfl, rfl⟩
  | close | stop | terminate =>
    simp only [desk] at taken
    split at taken
    · have same := control_file taken
      exact ⟨same, control_saved taken⟩
    · cases taken
  | edit form | toggleLogs =>
    simp only [desk] at taken
    split at taken
    · cases taken
      exact ⟨rfl, rfl⟩
    · cases taken
  | handle =>
    simp only [desk] at taken
    split at taken
    · split at taken <;> cases taken
      exact ⟨rfl, rfl⟩
    · cases taken

/-- Save and Start write the configuration that they collect. They collect in the same way; what
Start does behind it is the controller's and leaves the file as it is. -/
theorem step_collected {program next : Program SocketAddr} {input : Input} {mark : Mark SocketAddr}
    {write : Write} (clicked : input = .save write ∨ input = .start write)
    (taken : (desk sockets toml).step program input = some (next, mark)) :
    ∃ result, collectAndSave sockets toml program.file program.window.form write =
      (result, next.file) ∧ mark.saved = result.toOption := by
  cases collected : collectAndSave sockets toml program.file program.window.form write with
  | mk result file =>
    rcases clicked with rfl | rfl <;>
      simp only [desk, Program.save, Program.startServer, collected] at taken <;> split at taken
    · cases result <;> cases taken <;> exact ⟨_, rfl, rfl⟩
    · cases taken
    · cases result with
      | error error =>
        cases taken
        exact ⟨_, rfl, rfl⟩
      | ok config =>
        have same := control_file taken
        refine ⟨.ok config, ?_, control_saved taken⟩
        rw [same]
    · cases taken

/-- A careful step leaves the file standing for what was saved last, and that presentable. One case
for each input that writes the file. -/
theorem settled_step {program next : Program SocketAddr} {input : Input} {mark : Mark SocketAddr}
    {config : Config SocketAddr} (stands : Stands toml config program.file)
    (presentable : Presentable sockets config) (careful : Careful program input)
    (taken : (desk sockets toml).step program input = some (next, mark)) :
    Stands toml (mark.saved.getD config) next.file ∧ Presentable sockets (mark.saved.getD config) := by
  have clicked : ∀ write, (input = .save write ∨ input = .start write) → write = .done →
      (∀ field ∈ program.window.form.versions, isDTag (trim field.1) = false) →
      Stands toml (mark.saved.getD config) next.file ∧
        Presentable sockets (mark.saved.getD config) := by
    rintro write clicked rfl untagged
    obtain ⟨result, collected, saved⟩ := step_collected clicked taken
    rw [saved]
    rcases collected_done collected with ⟨known, rfl, read, written⟩ | ⟨⟨error, rfl⟩, same⟩
    · exact ⟨written, accepted_presentable read untagged⟩
    · rw [same]
      exact ⟨stands, presentable⟩
  cases input with
  | launch write =>
    obtain rfl : write = .done := careful
    simp only [desk] at taken
    split at taken
    · obtain ⟨text, written, parsed, _⟩ := launch_shows program stands presentable
      cases taken
      rw [written]
      exact ⟨parsed, presentable⟩
    · cases taken
  | save write => exact clicked write (.inl rfl) careful.1 careful.2
  | start write => exact clicked write (.inr rfl) careful.1 careful.2
  | _ =>
    obtain ⟨same, unsaved⟩ := step_settled (by simp) taken
    rw [same, unsaved]
    exact ⟨stands, presentable⟩

/-- However often the program is closed, killed and launched again, the file stands for what was
saved last, a server runs with it, and the next launch shows it in a form that is collected as it
was.

The invariant is that the file stands for what was saved last and that this can be shown. A save
writes what was collected from the form, a launch only reads. -/
theorem settings_survive_restarts (sockets : SocketTexts SocketAddr) (toml : Toml SocketAddr)
    (inputs : List Input) (file : ConfigFile) (first : Config SocketAddr)
    (program : Program SocketAddr) (marks : List (Mark SocketAddr))
    (stands : Stands toml first file) (presentable : Presentable sockets first)
    (careful : (desk sockets toml).Along Careful { file } inputs)
    (ran : (desk sockets toml).run { file } inputs = some (program, marks)) :
    Stands toml (lastSaved first marks) program.file ∧
      (∀ run, program.app.Serving run → program.given run = some (lastSaved first marks)) ∧
      ∀ next mark, (desk sockets toml).step program (.launch .done) = some (next, mark) →
        next.window.status = .line readyLine ∧
          next.window.form.intoConfig sockets = .ok (lastSaved first marks) := by
  obtain ⟨stands, presentable⟩ := Machine.run_invariant Careful
    (fun marks program => Stands toml (lastSaved first marks) program.file ∧
      Presentable sockets (lastSaved first marks))
    (fun marks program input next mark before careful taken => by
      rw [last_saved_append]
      exact settled_step before.1 before.2 careful taken)
    inputs { file } program [] marks ⟨stands, presentable⟩ careful ran
  refine ⟨stands, fun run serving => ?_, fun next mark taken => ?_⟩
  · have guarded := (guarded_run inputs file program marks ran).1
    obtain ⟨text, known, form, given, written, parsed, _⟩ :=
      guarded.given run (guarded.live_serving serving)
    rw [written] at stands
    exact given.trans (parsed.symm.trans stands)
  · obtain ⟨_, _, _, status, read⟩ := launch_shows program stands presentable
    simp only [desk] at taken
    split at taken
    · cases taken
      exact ⟨status, read⟩
    · cases taken

/-- The default configuration under another name. -/
def renamedConfig : Config SocketAddrV4 :=
  { defaultConfig with dispatchServers := [dispatchServer "127.0.0.1" 21280 "Harbour"] }

/-- `toml` on the default configuration and the renamed one, whose texts differ in the name. -/
def renamedToml : Toml SocketAddrV4 where
  parse text :=
    if text = defaultText ∨ text = printedText "CheshireDev" then some defaultConfig
    else if text = printedText "Harbour" then some renamedConfig
    else none
  print config :=
    if config = defaultConfig then some (printedText "CheshireDev")
    else if config = renamedConfig then some (printedText "Harbour")
    else none
  defaultText
  default := defaultConfig
  parse_default := by simp
  parse_print config text printed := by
    have different : printedText "Harbour" ≠ defaultText ∧
        printedText "Harbour" ≠ printedText "CheshireDev" := by decide +kernel
    split at printed
    · next same =>
      cases printed
      simp [same]
    · split at printed
      · next same =>
        cases printed
        simp [same, different]
      · cases printed

/-- The server is renamed in the form and saved, the program is killed and launched again. -/
theorem settings_survive_restarts_renamed :
    let inputs : List Input :=
      [.launch .done, .edit { defaultForm with dispatchServerName := "Harbour" }, .save .done, .kill]
    ∃ program marks,
      (desk socketTextsV4 renamedToml).run { file := .missing } inputs = some (program, marks) ∧
        ∀ next mark, (desk socketTextsV4 renamedToml).step program (.launch .done) = some (next, mark) →
          next.window.form.intoConfig socketTextsV4 = .ok renamedConfig := by
  intro inputs
  have saved : ((desk socketTextsV4 renamedToml).run { file := .missing } inputs).map
      (fun result => lastSaved defaultConfig result.2) = some renamedConfig := by decide +kernel
  obtain ⟨⟨program, marks⟩, ran, last⟩ := Option.map_eq_some_iff.mp saved
  have careful : (desk socketTextsV4 renamedToml).Along Careful { file := .missing } inputs := by
    refine ⟨rfl, fun opened _ launched => ?_⟩
    cases launched
    refine ⟨trivial, fun edited _ changed => ?_⟩
    cases changed
    exact ⟨⟨rfl, default_versions⟩, fun _ _ _ => ⟨trivial, fun _ _ _ => trivial⟩⟩
  obtain ⟨_, _, reopened⟩ := settings_survive_restarts socketTextsV4 renamedToml inputs .missing
    defaultConfig program marks rfl ⟨defaultForm, default_shown, default_accepted⟩ careful ran
  refine ⟨program, marks, ran, fun next mark taken => ?_⟩
  have read := (reopened next mark taken).2
  simp only at last
  rwa [last] at read

end

end CheshireLane.Desktop
