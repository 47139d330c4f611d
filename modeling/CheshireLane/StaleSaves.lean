import CheshireLane.SessionOpening

/-!
# Saves that land out of order

A record is copied under the lock and saved behind it, and a default row is
written behind the check that found none. So a row can be overwritten with a
record that is older than the one in memory. This does no harm while another call
has the record in memory still to write. Otherwise the row stays behind until a
packet marks the record again.
-/

namespace CheshireLane

open Transitions

variable {Text : Type} {game : Game} {serde : Serde Text}

/-- The record a call writes in its next step. -/
def Call.writes : Call → Option PlayerInfo
  | .creating _ => some {}
  | .saving info => some info
  | .checking _ | .loading _ | .inserting _ _ | .handling _ => none

/-- A call of the player is about to write this record. -/
def Pending (uid : UInt32) (state : RuntimeState Text) (info : PlayerInfo) : Prop :=
  ∃ id call, id.uid = uid ∧ state.calls id = some call ∧ call.writes = some info

/-- A write of the player's row does no harm: there is no session yet, it stores
the record in memory, or another call is about to write that record. -/
def Harmless (uid : UInt32) (state : RuntimeState Text) (event : RuntimeEvent) : Prop :=
  ∀ id now call info session, event = .advance id now → id.uid = uid →
    state.calls id = some call → call.writes = some info →
    state.store.players uid = some session →
      info = session.info ∨ ∃ other call', other ≠ id ∧ other.uid = uid ∧
        state.calls other = some call' ∧ call'.writes = some session.info

/-- A packet of the player is handled and marks the record. -/
def Marks (game : Game) (uid : UInt32) (state : RuntimeState Text) (event : RuntimeEvent) : Prop :=
  ∃ id now packet session, event = .advance id now ∧ id.uid = uid ∧
    state.calls id = some (.handling packet) ∧ state.store.players uid = some session ∧
    (handlePlayerPacket game uid now session.info session.dirty packet).dirty = true

/-- The row holds the record in memory, or will when the calls in flight are done. -/
def Current (serde : Serde Text) (uid : UInt32) (state : RuntimeState Text) : Prop :=
  ∀ session, state.store.players uid = some session →
    state.store.loaded serde uid = some session.info ∨ Pending uid state session.info

/-- The row holds another record, and no call in flight is about to change that. -/
structure Stale (serde : Serde Text) (uid : UInt32) (state : RuntimeState Text)
    (info : PlayerInfo) : Prop where
  present : state.store.players uid = some ⟨info, false⟩
  row : ∃ row, state.store.loaded serde uid = some row ∧ row ≠ info
  nothingPending : ¬ Pending uid state info

/-- Whether a save is pending depends on nothing of other players. -/
theorem Pending.of_agree {uid : UInt32} {state next : RuntimeState Text} {info : PlayerInfo}
    (pending : Pending uid state info) (agree : RuntimeState.Agree uid next state) :
    Pending uid next info := by
  obtain ⟨id, call, own, flying, writes⟩ := pending
  exact ⟨id, call, own, (agree.2 id own).trans flying, writes⟩

/-- A call that was not about to write moves on, and all writes stay pending. -/
theorem Pending.moved {uid : UInt32} {state : RuntimeState Text} {info : PlayerInfo}
    (pending : Pending uid state info) (id : CallId) (store : Store Text) (next : Option Call)
    (idle : ∀ call, state.calls id = some call → call.writes = none) :
    Pending uid (state.moved id store next) info := by
  obtain ⟨other, call, own, flying, writes⟩ := pending
  have different : other ≠ id := by
    rintro rfl
    rw [idle call flying] at writes
    cases writes
  exact ⟨other, call, own, by rw [RuntimeState.moved_others _ _ _ _ _ different, flying], writes⟩

/-- A call that moves to a step that does not write this record adds no write of it. -/
theorem Pending.of_moved {uid : UInt32} {state : RuntimeState Text} {info : PlayerInfo}
    {id : CallId} {store : Store Text} {next : Option Call}
    (pending : Pending uid (state.moved id store next) info)
    (idle : ∀ call, next = some call → call.writes ≠ some info) : Pending uid state info := by
  obtain ⟨other, call, own, flying, writes⟩ := pending
  by_cases same : other = id
  · rw [same, RuntimeState.moved_calls] at flying
    exact absurd writes (idle call flying)
  · rw [RuntimeState.moved_others _ _ _ _ _ same] at flying
    exact ⟨other, call, own, flying, writes⟩

/-- `ensure_player` returns without a write to do. -/
theorem resumed_writes (task : Task) (call : Call) (resumed : task.resumed = some call) :
    call.writes = none := by
  cases task with
  | ensure => cases resumed
  | handle packet =>
    cases resumed
    rfl

/-- A step that does not write keeps the row. One case for each point of a call; only two of them
write. -/
theorem advance_idle (game : Game) (serde : Serde Text) (uid : UInt32) (now : Clock)
    (store : Store Text) (call : Call) (idle : call.writes = none) :
    (advanceCall game serde uid now store call).store.loaded serde uid =
      store.loaded serde uid := by
  cases call with
  | checking task =>
    simp only [advanceCall]
    split <;> rfl
  | loading task =>
    simp only [advanceCall]
    split <;> rfl
  | inserting task info => simp only [advanceCall, Store.loaded, Store.insert_session_rows]
  | handling packet =>
    simp only [advanceCall]
    split <;> rfl
  | creating task => cases idle
  | saving info => cases idle

/-- A write stores its record, keeps the session, and no write follows it. The two points that write
are the creation of a row and the save behind a packet. -/
theorem advance_writes (game : Game) (serde : Serde Text) (uid : UInt32) (now : Clock)
    (store : Store Text) (call : Call) (info : PlayerInfo) (writes : call.writes = some info) :
    (advanceCall game serde uid now store call).store.loaded serde uid = some info ∧
      (advanceCall game serde uid now store call).store.players = store.players ∧
      ∀ next, (advanceCall game serde uid now store call).call = some next → next.writes = none := by
  cases call with
  | creating task =>
    cases writes
    refine ⟨Store.save_player_loaded serde store uid {}, rfl, fun next moved => ?_⟩
    cases moved
    rfl
  | saving saved =>
    cases writes
    refine ⟨Store.save_player_loaded serde store uid info, rfl, fun next moved => ?_⟩
    cases moved
  | _ => cases writes

/-- With a session and a row that decodes, a step leads to a write only when it
has marked the record. -/
theorem advance_next_writes (game : Game) (serde : Serde Text) (uid : UInt32) (now : Clock)
    (store : Store Text) (call next : Call) (session : PlayerSession) (row : PlayerInfo)
    (present : store.players uid = some session) (loaded : store.loaded serde uid = some row)
    (moved : (advanceCall game serde uid now store call).call = some next) :
    next.writes = none ∨ ∃ packet, call = .handling packet ∧
      (handlePlayerPacket game uid now session.info session.dirty packet).dirty = true := by
  cases call with
  | checking task =>
    left
    simp only [advanceCall] at moved
    split at moved
    · exact resumed_writes task next moved
    · cases moved
      rfl
  | loading task =>
    left
    simp only [advanceCall, loaded] at moved
    cases moved
    rfl
  | inserting task info =>
    left
    exact resumed_writes task next moved
  | handling packet =>
    right
    simp only [advanceCall, present, Option.map_eq_some_iff] at moved
    obtain ⟨info, saved, _⟩ := moved
    refine ⟨packet, rfl, ?_⟩
    by_contra clean
    simp [Store.toSave, clean] at saved
  | creating task => exact .inl ((advance_writes game serde uid now store _ {} rfl).2.2 next moved)
  | saving info => exact .inl ((advance_writes game serde uid now store _ info rfl).2.2 next moved)

/-- Behind a packet that marks the record its save is pending. -/
theorem advance_marks (game : Game) (serde : Serde Text) (uid : UInt32) (now : Clock)
    (store : Store Text) (packet : Packet) (session : PlayerSession)
    (present : store.players uid = some session)
    (marked : (handlePlayerPacket game uid now session.info session.dirty packet).dirty = true) :
    ∃ info, (advanceCall game serde uid now store (.handling packet)).store.players uid =
        some ⟨info, false⟩ ∧
      (advanceCall game serde uid now store (.handling packet)).call = some (.saving info) := by
  refine ⟨(handlePlayerPacket game uid now session.info session.dirty packet).player, ?_, ?_⟩
  · simp [advanceCall, present, Store.keepHandled]
  · simp [advanceCall, present, Store.toSave, marked]

/-- A step that changes the record has its save pending behind it, so the record is current again.
-/
theorem marks_current {uid : UInt32} {state next : RuntimeState Text} {event : RuntimeEvent}
    {label : CallLabel} (marks : Marks game uid state event)
    (taken : (playerRuntime game serde).step state event = some (next, label)) :
    Current serde uid next := by
  obtain ⟨id, now, packet, session, rfl, rfl, flying, present, marked⟩ := marks
  obtain rfl := advance_taken flying taken
  obtain ⟨info, after, saving⟩ :=
    advance_marks game serde id.uid now state.store packet session present marked
  intro session' present'
  obtain rfl := Option.some.inj (after.symm.trans present')
  exact .inr ⟨id, .saving info, rfl, by rw [RuntimeState.moved_calls, saving], rfl⟩

/-- A step that does not mark the record keeps the session. -/
theorem unmarked_session {uid : UInt32} {info : PlayerInfo} {state next : RuntimeState Text}
    {event : RuntimeEvent} {label : CallLabel}
    (present : state.store.players uid = some ⟨info, false⟩)
    (unmarked : ¬ Marks game uid state event)
    (taken : (playerRuntime game serde).step state event = some (next, label)) :
    next.store.players uid = some ⟨info, false⟩ := by
  rcases opened_step present taken with ⟨kept, _⟩ | ⟨own, now, packet, same, flying, after, _⟩
  · exact kept
  · rcases handle_effect game uid now info false packet with ⟨unchanged, _⟩ | ⟨_, marked⟩
    · rw [after]
      exact congrArg (fun player => some (⟨player, false⟩ : PlayerSession)) unchanged
    · exact absurd ⟨label.id, now, packet, _, same, own, flying, present, marked⟩ unmarked

/-- A harmless step keeps the row current. The cases are: the session is opened,
another player's step, a step that writes, one that handles a packet, and others. -/
theorem current_step {uid : UInt32} {initial : PlayerInfo} {state next : RuntimeState Text}
    {event : RuntimeEvent} {label : CallLabel} (settled : Settled serde uid initial state)
    (current : Current serde uid state) (harmless : Harmless uid state event)
    (taken : (playerRuntime game serde).step state event = some (next, label)) :
    Current serde uid next := by
  by_cases marks : Marks game uid state event
  · exact marks_current marks taken
  rcases settled with unopened | ⟨info, present⟩
  · intro session found
    rcases unopened_step unopened taken with ⟨after, _⟩ | ⟨_, _, _, present, row⟩
    · rw [after.absent] at found
      cases found
    · obtain rfl := Option.some.inj (present.symm.trans found)
      exact .inl row
  · have before := current _ present
    have kept := unmarked_session present marks taken
    intro session found
    obtain rfl := Option.some.inj (kept.symm.trans found)
    rcases player_step_cases uid taken with ⟨_, agree⟩ |
      ⟨id, task, rfl, rfl, free, _, rfl⟩ | ⟨id, now, call, rfl, rfl, flying, _, rfl⟩
    · exact before.imp (fun row => (agree.1.loaded serde).trans row) fun pending =>
        pending.of_agree agree
    · refine before.imp (fun row => row) fun pending => pending.moved id _ _ ?_
      intro call moving
      rw [free] at moving
      cases moving
    · cases writes : call.writes with
      | none =>
        refine before.imp (fun row => ?_) fun pending => pending.moved id _ _ ?_
        · exact (advance_idle game serde id.uid now state.store call writes).trans row
        · intro call' moving
          obtain rfl := Option.some.inj (flying.symm.trans moving)
          exact writes
      | some written =>
        rcases harmless id now call written _ rfl rfl flying writes present with
          same | ⟨other, call', different, own, moving, writes'⟩
        · left
          rw [← same]
          exact (advance_writes game serde id.uid now state.store call written writes).1
        · right
          exact ⟨other, call', own, by
            rw [RuntimeState.moved_others _ _ _ _ _ different, moving], writes'⟩

/-- A harmful write leaves the row stale. The record that is written is not the session's, and no
other call of the player is about to write again. -/
theorem harmful_stale {uid : UInt32} {initial : PlayerInfo} {state next : RuntimeState Text}
    {event : RuntimeEvent} {label : CallLabel} (settled : Settled serde uid initial state)
    (harmful : ¬ Harmless uid state event)
    (taken : (playerRuntime game serde).step state event = some (next, label)) :
    ∃ info, Stale serde uid next info := by
  simp only [Harmless, not_forall] at harmful
  obtain ⟨id, now, call, written, session, rfl, rfl, flying, writes, found, harm⟩ := harmful
  obtain ⟨differs, alone⟩ := not_or.mp harm
  rcases settled with unopened | ⟨info, present⟩
  · rw [unopened.absent] at found
    cases found
  · obtain rfl := Option.some.inj (found.symm.trans present)
    obtain rfl := advance_taken flying taken
    obtain ⟨row, kept, silent⟩ :=
      advance_writes game serde id.uid now state.store call written writes
    refine ⟨info, (congrFun kept id.uid).trans present, ⟨written, row, differs⟩, ?_⟩
    rintro ⟨another, call', own, moved, writes'⟩
    by_cases same : another = id
    · rw [same, RuntimeState.moved_calls] at moved
      rw [silent call' moved] at writes'
      cases writes'
    · rw [RuntimeState.moved_others _ _ _ _ _ same] at moved
      exact alone ⟨another, call', same, own, moved, writes'⟩

/-- A stale row stays stale until a packet marks the record. Nothing is pending that would write the
row, and an unmarked packet saves nothing. -/
theorem stale_step {uid : UInt32} {state next : RuntimeState Text} {event : RuntimeEvent}
    {label : CallLabel} (stale : ∃ info, Stale serde uid state info)
    (unmarked : ¬ Marks game uid state event)
    (taken : (playerRuntime game serde).step state event = some (next, label)) :
    ∃ info, Stale serde uid next info := by
  obtain ⟨info, present, ⟨row, loaded, differs⟩, nothingPending⟩ := stale
  have kept := unmarked_session present unmarked taken
  rcases player_step_cases uid taken with ⟨_, agree⟩ |
    ⟨id, task, rfl, rfl, _, _, rfl⟩ | ⟨id, now, call, rfl, rfl, flying, _, rfl⟩
  · refine ⟨info, kept, ⟨row, (agree.1.loaded serde).trans loaded, differs⟩, fun pending => ?_⟩
    exact nothingPending (pending.of_agree agree.symm)
  · refine ⟨info, kept, ⟨row, loaded, differs⟩, fun pending => ?_⟩
    refine nothingPending (pending.of_moved fun call moved => ?_)
    cases moved
    simp [Call.writes]
  · refine ⟨info, kept, ?_, fun pending => ?_⟩
    · cases writes : call.writes with
      | none =>
        have unchanged := advance_idle game serde id.uid now state.store call writes
        exact ⟨row, unchanged.trans loaded, differs⟩
      | some written =>
        refine ⟨written,
          (advance_writes game serde id.uid now state.store call written writes).1, ?_⟩
        rintro rfl
        exact nothingPending ⟨id, call, rfl, flying, writes⟩
    · refine nothingPending (pending.of_moved fun next moved writes => ?_)
      rcases advance_next_writes game serde id.uid now state.store call next _ row present loaded
        moved with silent | ⟨packet, rfl, marked⟩
      · rw [silent] at writes
        cases writes
      · exact unmarked ⟨id, now, packet, _, rfl, rfl, flying, present, marked⟩

/-- In every state a run reaches in which no call is in flight: the row of a
player holds the record in memory exactly when every harmful write had a packet
behind it that marked the record again. So it does if all writes were harmless. -/
theorem rows_current_iff (game : Game) (serde : Serde Text)
    (rows : UInt32 → Option (PlayerRow Text)) (uid : UInt32) (events : List RuntimeEvent)
    (last : RuntimeState Text) (log : List CallLabel)
    (ran : (playerRuntime game serde).run (.started rows) events = some (last, log))
    (quiescent : last.Quiescent) :
    ((playerRuntime game serde).Along (Harmless uid) (.started rows) events →
        ∀ session, last.store.players uid = some session →
          last.store.loaded serde uid = some session.info) ∧
      ((∀ session, last.store.players uid = some session →
          last.store.loaded serde uid = some session.info) ↔
        (playerRuntime game serde).Repaired (Harmless uid) (Marks game uid) (.started rows)
          events) := by
  have initial : Settled serde uid (initialRecord serde rows uid) (.started rows) :=
    .inl (unopened_started serde rows uid)
  have stays : ∀ state event next label, Settled serde uid (initialRecord serde rows uid) state →
      (playerRuntime game serde).step state event = some (next, label) →
      Settled serde uid (initialRecord serde rows uid) next :=
    fun _ _ _ _ settled taken => settled_step settled taken
  have enough : (playerRuntime game serde).Repaired (Harmless uid) (Marks game uid)
      (.started rows) events → ∀ session, last.store.players uid = some session →
        last.store.loaded serde uid = some session.info := by
    intro repaired session present
    have start : Current serde uid (.started rows) := by
      intro session absent
      cases absent
    have current := Machine.repaired_holds (Harmless uid) (Marks game uid) _ (Current serde uid)
      stays (fun _ _ _ _ settled current harmless taken =>
        current_step settled current harmless taken)
      (fun _ _ _ _ _ marks taken => marks_current marks taken) events _ last log initial
      (.inl start) repaired ran
    rcases current session present with row | ⟨id, call, _, flying, _⟩
    · exact row
    · rw [quiescent id] at flying
      cases flying
  refine ⟨fun along => enough (Machine.harmless_repaired _ _ events _ along), ?_, enough⟩
  intro holds
  by_contra unrepaired
  obtain ⟨info, present, ⟨row, loaded, differs⟩, _⟩ :=
    Machine.unrepaired_broken (Harmless uid) (Marks game uid) _
      (fun state => ∃ info, Stale serde uid state info) stays
      (fun _ _ _ _ settled harmful taken => harmful_stale settled harmful taken)
      (fun _ _ _ _ stale unmarked taken => stale_step stale unmarked taken) events _ last log
      initial unrepaired ran
  have same := loaded.symm.trans (holds _ present)
  exact differs (Option.some.inj same)

/-- Two connections add a story each, and the saves land in the order of the stories. The first save is
older than the record by then, but the call behind it writes the record in memory. -/
theorem rows_current_iff_story :
    let decoder : Decoder := { Decoder.deaf with
      cs11017 := fun payload =>
        match payload with
        | [8, storyId] => some ⟨storyId.toUInt32⟩
        | _ => none }
    let game : Game := ⟨⟨⟨[], by decide⟩, none, none, none⟩, decoder, ""⟩
    let serde : Serde PlayerInfo := ⟨id, some, fun _ => rfl⟩
    let story : UInt8 → Packet := fun storyId => ⟨7, 0, 11017, 1, [8, storyId], []⟩
    let left : CallId := ⟨1, 0⟩
    let right : CallId := ⟨1, 1⟩
    let now : Clock := fun _ => 0
    let events : List RuntimeEvent :=
      [.start left (.handle (story 1)), .advance left now, .advance left now, .advance left now,
        .advance left now, .advance left now, .start right (.handle (story 2)),
        .advance right now, .advance right now, .advance left now, .advance right now]
    ((playerRuntime game serde).run (.started fun _ => none) events).map (fun result =>
        (result.1.store.rows 1).map fun row => row.data.storyList) = some (some [1, 2]) ∧
      (playerRuntime game serde).Repaired (Harmless 1) (Marks game 1) (.started fun _ => none)
        events := by
  intro decoder game serde story left right now events
  refine ⟨rfl, ?_⟩
  have facts := rows_current_iff game serde (fun _ => none) 1 events _ _ rfl (by
    intro id
    by_cases first : id = left
    · rw [first]
      rfl
    · by_cases second : id = right
      · rw [second]
        rfl
      · simp [RuntimeState.moved, RuntimeState.started, Function.update, first, second])
  refine facts.2.mp fun session present => ?_
  cases present
  rfl

/-- Two connections add a story each. The second save lands before the first. The clone that the
first packet left is older than the session by then, and it is the one that stays. -/
theorem saves_out_of_order :
    let decoder : Decoder := { Decoder.deaf with
      cs11017 := fun payload =>
        match payload with
        | [8, storyId] => some ⟨storyId.toUInt32⟩
        | _ => none }
    let game : Game := ⟨⟨⟨[], by decide⟩, none, none, none⟩, decoder, ""⟩
    let serde : Serde PlayerInfo := ⟨id, some, fun _ => rfl⟩
    let story : UInt8 → Packet := fun storyId => ⟨7, 0, 11017, 1, [8, storyId], []⟩
    let left : CallId := ⟨1, 0⟩
    let right : CallId := ⟨1, 1⟩
    let now : Clock := fun _ => 0
    let events : List RuntimeEvent :=
      [.start left (.handle (story 1)), .advance left now, .advance left now, .advance left now,
        .advance left now, .advance left now, .start right (.handle (story 2)),
        .advance right now, .advance right now, .advance right now, .advance left now]
    ∃ last log, (playerRuntime game serde).run (.started fun _ => none) events = some (last, log) ∧
      last.Quiescent ∧ ∃ session, last.store.players 1 = some session ∧
        last.store.loaded serde 1 ≠ some session.info := by
  intro decoder game serde story left right now events
  refine ⟨_, _, rfl, ?_, _, rfl, ?_⟩
  · intro id
    by_cases first : id = left
    · rw [first]
      rfl
    · by_cases second : id = right
      · rw [second]
        rfl
      · simp [RuntimeState.moved, RuntimeState.started, Function.update, first, second]
  · intro same
    have stories := congrArg (fun row => row.map PlayerInfo.storyList) same
    exact absurd stories (by decide)

end CheshireLane
