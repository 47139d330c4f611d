import CheshireLane.SessionHistory

/-!
# Sessions are linearizable and isolated

Every run keeps the history of every player: the lock sections of its packets are
the points at which they take effect. A player is not reached by the calls of
others, and its record never carries the id of another player.
-/

namespace CheshireLane

open Transitions

variable {Text : Type} {game : Game} {serde : Serde Text}

/-- A call about to insert a record has fetched it. -/
def Recorded (log : List CallLabel) (state : RuntimeState Text) : Prop :=
  ∀ id task info, state.calls id = some (.inserting task info) → lastFetched id log = some info

/-- Only a fetch leads to an insertion. The insertion follows the read of a row or the creation of
one, and both note the record that is inserted. -/
theorem advance_inserting (uid : UInt32) (now : Clock) (store : Store Text) (call : Call)
    (task : Task) (info : PlayerInfo)
    (next : (advanceCall game serde uid now store call).call = some (.inserting task info)) :
    (advanceCall game serde uid now store call).effect = .fetched info := by
  have resumed : ∀ task' : Task, task'.resumed ≠ some (.inserting task info) := by
    intro task'
    cases task' <;> simp [Task.resumed]
  cases call with
  | checking task' =>
    simp only [advanceCall] at next
    split at next
    · exact absurd next (resumed task')
    · cases next
  | loading task' =>
    simp only [advanceCall] at next ⊢
    split at next
    · cases next
      rfl
    · cases next
  | creating task' =>
    cases next
    rfl
  | inserting task' info' => exact absurd next (resumed task')
  | handling packet =>
    simp only [advanceCall] at next
    split at next
    · cases next
    · simp at next
  | saving info' => cases next

/-- The record that a call has fetched last changes with its own fetches only. -/
theorem last_fetched_append (id : CallId) (log : List CallLabel) (label : CallLabel) :
    lastFetched id (log ++ [label]) =
      match label.fetch id with
      | some info => some info
      | none => lastFetched id log := by
  cases same : label.fetch id <;> simp [lastFetched, same]

/-- A step of another call is no fetch of this one. -/
theorem fetch_other (id : CallId) (label : CallLabel) (different : label.id ≠ id) :
    label.fetch id = none := by
  obtain ⟨other, effect⟩ := label
  cases effect with
  | fetched info => exact if_neg different
  | _ => rfl

/-- Every step keeps the record: a call comes to its insert by a fetch, and a fetch is noted. Steps
of other calls neither fetch nor move it. -/
theorem recorded_step {log : List CallLabel} {state next : RuntimeState Text}
    {event : RuntimeEvent} {label : CallLabel} (recorded : Recorded log state)
    (taken : (playerRuntime game serde).step state event = some (next, label)) :
    Recorded (log ++ [label]) next := by
  intro id task info inserting
  rw [last_fetched_append]
  rcases runtime_step_cases taken with
    ⟨other, task', rfl, _, rfl, rfl⟩ | ⟨other, now, call, rfl, _, rfl, rfl⟩
  · by_cases same : id = other
    · rw [same, RuntimeState.moved_calls] at inserting
      cases inserting
    · rw [RuntimeState.moved_others _ _ _ _ _ same] at inserting
      rw [fetch_other id _ fun equal => same equal.symm]
      exact recorded id task info inserting
  · by_cases same : id = other
    · rw [same, RuntimeState.moved_calls] at inserting
      have fetched := advance_inserting other.uid now state.store call task info inserting
      simp only [CallLabel.fetch, fetched, same, ↓reduceIte]
    · rw [RuntimeState.moved_others _ _ _ _ _ same] at inserting
      rw [fetch_other id _ fun equal => same equal.symm]
      exact recorded id task info inserting

/-- The history of a player whose session is unopened or present, and no packet of
the player that met no session. -/
structure Linear (game : Game) (serde : Serde Text) (uid : UInt32) (initial : PlayerInfo)
    (log : List CallLabel) (state : RuntimeState Text) : Prop where
  recorded : Recorded log state
  settled : Settled serde uid initial state
  history : History game uid initial log (state.store.players uid)
  loaded : ∀ label ∈ log, label.id.uid = uid → label.effect ≠ .notLoaded

/-- At the start the history is empty and the session unopened. -/
theorem linear_started (game : Game) (serde : Serde Text)
    (rows : UInt32 → Option (PlayerRow Text)) (uid : UInt32) :
    Linear game serde uid (initialRecord serde rows uid) [] (.started rows) where
  recorded := by
    intro id task info inserting
    cases inserting
  settled := .inl (unopened_started serde rows uid)
  history := .unopened rfl rfl
  loaded := by simp

/-- No packet met a missing session, the new label included. -/
theorem loaded_append {uid : UInt32} {log : List CallLabel} {label : CallLabel}
    (before : ∀ label ∈ log, label.id.uid = uid → label.effect ≠ .notLoaded)
    (here : label.id.uid = uid → label.effect ≠ .notLoaded) :
    ∀ other ∈ log ++ [label], other.id.uid = uid → other.effect ≠ .notLoaded := by
  intro other member
  rcases List.mem_append.mp member with earlier | last
  · exact before other earlier
  · obtain rfl := List.mem_singleton.mp last
    exact here

/-- A step in front of the lock section does not look at the session. -/
theorem preparing_loaded {effect : CallEffect} (preparing : effect.Preparing) :
    effect ≠ .notLoaded := by
  rintro rfl
  exact preparing

/-- A step keeps the history: it prepares, it opens the session, or it handles a packet. While the
session is unopened, a step of its calls prepares or inserts what was fetched. Once it is present, a
step handles a packet against it or leaves it alone. -/
theorem linear_step {uid : UInt32} {initial : PlayerInfo} {log : List CallLabel}
    {state next : RuntimeState Text} {event : RuntimeEvent} {label : CallLabel}
    (linear : Linear game serde uid initial log state)
    (taken : (playerRuntime game serde).step state event = some (next, label)) :
    Linear game serde uid initial (log ++ [label]) next := by
  have recorded := recorded_step linear.recorded taken
  have settled := settled_step linear.settled taken
  have history := linear.history
  rcases linear.settled with unopened | ⟨info, present⟩
  · rw [unopened.absent] at history
    rcases unopened_step unopened taken with
      ⟨after, preparing⟩ | ⟨own, ⟨task, inserting⟩, inserted, present, _⟩
    · obtain ⟨noInsertion, noPacket⟩ := preparing_silent preparing
      refine ⟨recorded, settled, ?_, loaded_append linear.loaded fun own =>
        preparing_loaded (preparing own)⟩
      rw [after.absent]
      exact history.silent label noInsertion noPacket
    · have fetched := linear.recorded _ _ _ inserting
      obtain ⟨id, effect⟩ := label
      obtain rfl : effect = .inserted initial := inserted
      refine ⟨recorded, settled, ?_, loaded_append linear.loaded fun _ => by simp⟩
      rw [present]
      exact history.insert id own fetched
  · rw [present] at history
    rcases opened_step present taken with
      ⟨kept, preparing⟩ | ⟨own, now, packet, _, _, after, handled⟩
    · obtain ⟨noInsertion, noPacket⟩ := preparing_silent preparing
      refine ⟨recorded, settled, ?_, loaded_append linear.loaded fun own =>
        preparing_loaded (preparing own)⟩
      rw [kept]
      exact history.silent label noInsertion noPacket
    · obtain ⟨id, effect⟩ := label
      obtain rfl : effect = .handled _ _ := handled
      refine ⟨recorded, settled, ?_, loaded_append linear.loaded fun _ => by simp⟩
      rw [after]
      exact history.handle id own now packet

/-- Every run keeps the history of every player. -/
theorem linear_run {rows : UInt32 → Option (PlayerRow Text)} {events : List RuntimeEvent}
    {last : RuntimeState Text} {log : List CallLabel}
    (ran : (playerRuntime game serde).run (.started rows) events = some (last, log))
    (uid : UInt32) : Linear game serde uid (initialRecord serde rows uid) log last :=
  Machine.run_always (Linear game serde uid (initialRecord serde rows uid))
    (fun _ _ _ _ _ linear taken => linear_step linear taken) events (.started rows) last log
    (linear_started game serde rows uid) ran

/-- The events of a player, run alone from the same row, leave the same labels,
the same session and the same row. -/
theorem isolated_run {rows otherRows : UInt32 → Option (PlayerRow Text)}
    {events : List RuntimeEvent} {last : RuntimeState Text} {log : List CallLabel} (uid : UInt32)
    (sameRow : otherRows uid = rows uid)
    (ran : (playerRuntime game serde).run (.started rows) events = some (last, log)) :
    ∃ alone, (playerRuntime game serde).run (.started otherRows)
        (events.filter fun event => event.id.uid = uid) =
          some (alone, log.filter fun label => label.id.uid = uid) ∧
      RuntimeState.Agree uid last alone := by
  refine Machine.run_filtered (RuntimeState.Agree uid) (fun event => event.id.uid = uid)
    (fun label => label.id.uid = uid) ?_ ?_ events (.started rows) (.started otherRows) last log
    ⟨⟨rfl, sameRow.symm⟩, fun _ _ => rfl⟩ ran
  · intro state other event next label agree mine taken
    obtain rfl : event.id.uid = uid := of_decide_eq_true mine
    obtain ⟨same, next', replayed, agreed⟩ := step_local agree taken
    exact ⟨by simp [same], next', replayed, agreed⟩
  · intro state other event next label agree foreign taken
    have different : event.id.uid ≠ uid := of_decide_eq_false foreign
    obtain ⟨same, kept⟩ := step_frame uid taken different
    exact ⟨by simp [same, different], kept.trans agree⟩

/-- A record that no role was created on, or one of this player. -/
def OwnUid (uid : UInt32) (player : PlayerInfo) : Prop := player.uid = 0 ∨ player.uid = uid

namespace OwnUid

/-- A new ship does not change the uid. -/
theorem add_ship (data : GameData) (uid : UInt32) (player : PlayerInfo) (shipId : UInt32)
    (own : OwnUid uid player) : OwnUid uid (player.addShip data shipId) := by
  obtain ⟨ships, same⟩ := player.add_ship_keeps data shipId
  rw [same]
  exact own

/-- A new role carries the id of its player. -/
theorem init (data : GameData) (uid : UInt32) (player : PlayerInfo) (now : Clock)
    (nickName : String) (shipId : UInt32) :
    OwnUid uid (player.init data now uid nickName shipId) :=
  init_invariant data (OwnUid uid) (add_ship data uid) (fun _ own => own) (fun _ _ _ own => own)
    (fun _ _ own => own) player now uid nickName shipId (.inr rfl)

/-- No packet changes the uid to another player's: only the creation of a role writes it, and it
writes the key. -/
theorem change (game : Game) (uid : UInt32) (player next : PlayerInfo) (own : OwnUid uid player)
    (change : Change game uid player next) : OwnUid uid next := by
  cases change with
  | role now nickName shipId => exact init game.data uid player now nickName shipId
  | allShips =>
    obtain ⟨ships, same⟩ := give_all_ships_keeps game.data player
    rw [same]
    exact own
  | allSkins =>
    obtain ⟨skins, same⟩ := give_all_skins_keeps game.data player
    rw [same]
    exact own
  | _ => exact own

/-- Over all packets the uid stays the player's own. -/
theorem packets (game : Game) (uid : UInt32) (player : PlayerInfo) (own : OwnUid uid player)
    (packets : List Incoming) : OwnUid uid (packets.foldl (afterPacket game uid) player) :=
  reached_invariant game uid (OwnUid uid) (change game uid) player own packets

end OwnUid

/-- A login is answered with the id in the record, or not at all. -/
theorem login_reports (game : Game) (uid : UInt32) (now : Clock) (player : PlayerInfo)
    (dirty : Bool) (packet : Packet) (login : packet.cmdId = 10022) :
    (handlePlayerPacket game uid now player dirty packet).out = [] ∨
      ∃ ticket, (handlePlayerPacket game uid now player dirty packet).out =
        pushAll packet.id [Sc10023.response ⟨0, player.uid, ticket, none, none⟩] := by
  have arm : Request.ofCmdId packet.cmdId = some .cs10022 := by
    rw [login]
    exact Request.of_cmd_id .cs10022
  simp only [handlePlayerPacket, arm, handleRequest]
  split
  · exact .inr ⟨_, rfl⟩
  · exact .inl rfl

/-- What was replayed was answered against a record of the replay. So whatever holds of the first
record and is kept by every packet holds of the record behind any answer. -/
theorem History.answered_own {uid : UInt32} {initial : PlayerInfo} {log : List CallLabel}
    {slot : Option PlayerSession} (history : History game uid initial log slot)
    (own : OwnUid uid initial) (entry : Incoming × List Packet)
    (member : entry ∈ handledBy uid log) :
    ∃ player, OwnUid uid player ∧
      entry.2 = (handlePlayerPacket game uid entry.1.now player false entry.1.packet).out := by
  cases history with
  | unopened noInsertion noPacket =>
    rw [noPacket] at member
    cases member
  | opened opener before after split fetched once noEarlier replayed =>
    rw [replayed] at member
    obtain ⟨visit, visited, rfl⟩ := List.mem_map.mp member
    have reached := visits_invariant game uid (OwnUid uid) (OwnUid.change game uid) initial own
      (packetsOf uid log) visit visited
    exact ⟨visit.1, reached, rfl⟩

/-- The first record carries the own uid, if it was stored with it, and also if it is the default
one. -/
theorem initial_own {rows : UInt32 → Option (PlayerRow Text)}
    (stored : ∀ uid row info, rows uid = some row → serde.fromStr row.data = some info →
      OwnUid uid info) (uid : UInt32) : OwnUid uid (initialRecord serde rows uid) := by
  unfold initialRecord
  cases decoded : (Store.started rows).loaded serde uid with
  | none => exact .inl rfl
  | some info =>
    obtain ⟨row, present, read⟩ := Option.bind_eq_some_iff.mp decoded
    exact stored uid row info present read

/-- A session carries the own uid, because it is made of the first record by packets. -/
theorem History.session_own {uid : UInt32} {initial : PlayerInfo} {log : List CallLabel}
    {session : PlayerSession} (history : History game uid initial log (some session))
    (own : OwnUid uid initial) : OwnUid uid session.info := by
  cases history with
  | opened opener before after split fetched once noEarlier replayed =>
    exact OwnUid.packets game uid initial own (packetsOf uid log)

/-- The packets handed to `handle_packet` under a call id, in the order of the calls. An id is
used again once its call has returned, so this may be any number of packets. -/
def startedAs (id : CallId) (events : List RuntimeEvent) : List Packet :=
  events.filterMap fun
    | .start other (.handle packet) => if other = id then some packet else none
    | _ => none

/-- The packet that a step applied in its lock section, if it was a step of this call. -/
def CallLabel.applied (id : CallId) (label : CallLabel) : Option Packet :=
  match label.effect with
  | .handled incoming _ => if label.id = id then some incoming.packet else none
  | _ => none

/-- The packets that the calls of an id applied, in the order of their lock sections. -/
def handledAs (id : CallId) (log : List CallLabel) : List Packet :=
  log.filterMap (CallLabel.applied id)

/-- The packet a task has to handle behind `ensure_player`. -/
def Task.packet : Task → Option Packet
  | .ensure => none
  | .handle packet => some packet

/-- The packet a call in flight is still to apply. A call that saves has applied its packet. -/
def Call.waiting : Call → Option Packet
  | .checking task => task.packet
  | .loading task => task.packet
  | .creating task => task.packet
  | .inserting task _ => task.packet
  | .handling packet => some packet
  | .saving _ => none

/-- Every packet handed to a call of the id is applied exactly once, in the order of the calls, but
for the one that the call in flight is still to apply. A call that has returned has nothing left,
and nothing is applied that was not handed to a call. -/
def PacketsAccounted (id : CallId) (events : List RuntimeEvent) (log : List CallLabel)
    (state : RuntimeState Text) : Prop :=
  startedAs id events = handledAs id log ++ ((state.calls id).bind Call.waiting).toList

/-- A label tells of its event's call, and a packet is applied at the clock of its step. -/
def Tells (event : RuntimeEvent) (label : CallLabel) : Prop :=
  label.id = event.id ∧ ∀ incoming out, label.effect = .handled incoming out →
    event = .advance label.id incoming.now

/-- A task that goes on still waits to apply its packet. -/
theorem resumed_waiting (task : Task) : task.resumed.bind Call.waiting = task.packet := by
  cases task <;> rfl

/-- A step applies the packet its call waits to apply, or leaves it waiting. Only a missing session
would drop it. One case per step. -/
theorem advance_waiting (id : CallId) (now : Clock) (store : Store Text) (call : Call)
    (loaded : (advanceCall game serde id.uid now store call).effect ≠ .notLoaded) :
    let advanced := advanceCall game serde id.uid now store call
    call.waiting.toList = (CallLabel.applied id ⟨id, advanced.effect⟩).toList ++
      (advanced.call.bind Call.waiting).toList := by
  cases call with
  | checking task =>
    simp only [advanceCall]
    split
    · rw [resumed_waiting]
      rfl
    · rfl
  | loading task =>
    simp only [advanceCall]
    split <;> rfl
  | creating task => rfl
  | inserting task info =>
    simp only [advanceCall, resumed_waiting]
    split <;> rfl
  | handling packet =>
    cases present : store.players id.uid with
    | none => exact absurd (by simp only [advanceCall, present]) loaded
    | some session =>
      simp only [advanceCall, present, CallLabel.applied, if_true]
      cases Store.toSave (handlePlayerPacket game id.uid now session.info session.dirty packet) <;> rfl
  | saving info => rfl

/-- The effect of a step is told at its clock. -/
theorem advance_tells (id : CallId) (now : Clock) (store : Store Text) (call : Call) :
    Tells (.advance id now) ⟨id, (advanceCall game serde id.uid now store call).effect⟩ := by
  refine ⟨rfl, fun incoming out handled => ?_⟩
  cases call with
  | handling packet =>
    simp only [advanceCall] at handled
    split at handled
    · cases handled
    · cases handled
      rfl
  | checking task | loading task | inserting task info =>
    simp only [advanceCall] at handled
    split at handled <;> cases handled
  | creating task | saving info => cases handled

/-- The packets of two stretches of a run are those of the first and then those of the second. -/
theorem started_as_append (id : CallId) (events more : List RuntimeEvent) :
    startedAs id (events ++ more) = startedAs id events ++ startedAs id more := List.filterMap_append

/-- One more label adds the packet that it applies, if it belongs to the call. -/
theorem handled_as_append (id : CallId) (log : List CallLabel) (label : CallLabel) :
    handledAs id (log ++ [label]) = handledAs id log ++ (label.applied id).toList := by
  cases same : label.applied id <;> simp [handledAs, same]

/-- A step of another call is none of this one's. -/
theorem applied_other {id : CallId} {label : CallLabel} (different : label.id ≠ id) :
    label.applied id = none := by
  obtain ⟨other, effect⟩ := label
  cases effect with
  | handled incoming out => exact if_neg different
  | _ => rfl

/-- A step that meets its session keeps the account of every call id. A call hands over one packet
when it starts with it, and applies it in the step that handles it; between the two the packet waits
in the call. -/
theorem accounted_step {id : CallId} {events : List RuntimeEvent} {log : List CallLabel}
    {state next : RuntimeState Text} {event : RuntimeEvent} {label : CallLabel}
    (accounted : PacketsAccounted id events log state) (loaded : label.effect ≠ .notLoaded)
    (taken : (playerRuntime game serde).step state event = some (next, label)) :
    PacketsAccounted id (events ++ [event]) (log ++ [label]) next := by
  rw [PacketsAccounted, started_as_append, handled_as_append, accounted]
  rcases runtime_step_cases taken with
    ⟨other, task, rfl, free, rfl, rfl⟩ | ⟨other, now, call, rfl, flying, rfl, rfl⟩
  · by_cases same : id = other
    · subst same
      rw [free, RuntimeState.moved_calls]
      cases task with
      | ensure => simp [startedAs, CallLabel.applied, Call.waiting, Task.packet]
      | handle packet => simp [startedAs, CallLabel.applied, Call.waiting, Task.packet]
    · rw [RuntimeState.moved_others _ _ _ _ _ same]
      have foreign : other ≠ id := fun equal => same equal.symm
      cases task <;> simp [startedAs, CallLabel.applied, foreign]
  · have nothing : startedAs id [.advance other now] = [] := rfl
    rw [nothing, List.append_nil]
    by_cases same : id = other
    · subst same
      rw [flying, RuntimeState.moved_calls, List.append_assoc]
      exact congrArg (handledAs id log ++ ·) (advance_waiting id now state.store call loaded)
    · rw [RuntimeState.moved_others _ _ _ _ _ same, applied_other fun equal => same equal.symm]
      simp

/-- Over every run all packets are accounted for, under each call id, and every label tells of its
event. That no packet is dropped rests on the sessions being there when they are needed. -/
theorem accounted_run {rows : UInt32 → Option (PlayerRow Text)} {events : List RuntimeEvent}
    {last : RuntimeState Text} {log : List CallLabel}
    (ran : (playerRuntime game serde).run (.started rows) events = some (last, log)) :
    (∀ id, PacketsAccounted id events log last) ∧ List.Forall₂ Tells events log := by
  refine Machine.run_history (fun events log state =>
    (∀ id, PacketsAccounted id events log state) ∧ List.Forall₂ Tells events log) (.started rows)
    ⟨fun _ => rfl, .nil⟩ ?_ events last log ran
  rintro events log state event next label ran ⟨accounted, told⟩ taken
  have linear := linear_run (Machine.run_append ran (Machine.run_single taken)) label.id.uid
  have loaded := linear.loaded label (List.mem_append_right _ (List.mem_singleton_self _)) rfl
  refine ⟨fun id => accounted_step (accounted id) loaded taken, List.rel_append told (.cons ?_ .nil)⟩
  rcases runtime_step_cases taken with
    ⟨other, task, rfl, free, rfl, rfl⟩ | ⟨other, now, call, rfl, flying, rfl, rfl⟩
  · exact ⟨rfl, fun _ _ handled => by cases handled⟩
  · exact advance_tells other now state.store call

/-- A call returns to a session: the player's own, or the one it has opened. While the session is
unopened only an insertion lets a call return, and a session that is present stays. -/
theorem returned_present {initial : PlayerInfo} {state next : RuntimeState Text}
    {event : RuntimeEvent} {label : CallLabel} (settled : Settled serde label.id.uid initial state)
    (taken : (playerRuntime game serde).step state event = some (next, label))
    (returned : next.calls label.id = none) :
    (next.store.players label.id.uid).isSome = true := by
  rcases settled with unopened | ⟨info, present⟩
  · rcases runtime_step_cases taken with
      ⟨id, task, rfl, free, rfl, rfl⟩ | ⟨id, now, call, rfl, flying, rfl, rfl⟩
    · rw [RuntimeState.moved_calls] at returned
      cases returned
    · rw [RuntimeState.moved_calls] at returned
      exact opening_returns now unopened.absent (unopened.calls id call rfl flying) returned
  · rcases opened_step present taken with ⟨kept, _⟩ | ⟨_, _, _, _, _, after, _⟩
    · rw [kept]
      rfl
    · rw [after]
      rfl

/-- Over every run of any calls, from any rows: each session is the replay of its
packets from the record its opener loaded, and was answered as such; the packets
replayed are those handed to `handle_packet`, each applied exactly once in the lock
section of its own call; a session that is present changes only as packets are
handled; no call meets a missing session, and none returns without one; and each
player fares as if alone. If the stored records carry the ids of their players, so do
the sessions and the answers to logins.

The invariant of a player is that its session is unopened, while its calls hold what
the row decodes to, or present, and then the replay of its packets. -/
theorem sessions_linearizable (game : Game) (serde : Serde Text)
    (rows : UInt32 → Option (PlayerRow Text)) (events : List RuntimeEvent)
    (last : RuntimeState Text) (log : List CallLabel)
    (ran : (playerRuntime game serde).run (.started rows) events = some (last, log)) :
    (∀ uid, History game uid (initialRecord serde rows uid) log (last.store.players uid)) ∧
      (∀ id, PacketsAccounted id events log last) ∧ List.Forall₂ Tells events log ∧
      (∀ event next label, (playerRuntime game serde).step last event = some (next, label) →
        ∀ uid session, last.store.players uid = some session →
          next.store.players uid = some session ∨
            label.id.uid = uid ∧ ∃ incoming out, label.effect = .handled incoming out ∧
              next.store.players uid = some ⟨afterPacket game uid session.info incoming, false⟩) ∧
      (∀ label ∈ log, label.effect ≠ .notLoaded) ∧
      (∀ event next label, (playerRuntime game serde).step last event = some (next, label) →
        next.calls label.id = none → (next.store.players label.id.uid).isSome = true) ∧
      (∀ uid otherRows, otherRows uid = rows uid →
        ∃ alone, (playerRuntime game serde).run (.started otherRows)
            (events.filter fun event => event.id.uid = uid) =
              some (alone, log.filter fun label => label.id.uid = uid) ∧
          RuntimeState.Agree uid last alone) ∧
      ((∀ uid row info, rows uid = some row → serde.fromStr row.data = some info →
          OwnUid uid info) →
        (∀ uid session, last.store.players uid = some session → OwnUid uid session.info) ∧
          ∀ id incoming out, ⟨id, .handled incoming out⟩ ∈ log → incoming.packet.cmdId = 10022 →
            out = [] ∨ ∃ userId ticket, (userId = 0 ∨ userId = id.uid) ∧
              out = pushAll incoming.packet.id
                [Sc10023.response ⟨0, userId, ticket, none, none⟩]) := by
  have linear := linear_run ran
  obtain ⟨accounted, told⟩ := accounted_run ran
  refine ⟨fun uid => (linear uid).history, accounted, told, ?_, ?_, ?_, ?_, ?_⟩
  · intro event next label taken uid session present
    rcases opened_step present taken with ⟨kept, _⟩ | ⟨own, now, packet, _, _, after, handled⟩
    · exact .inl kept
    · exact .inr ⟨own, ⟨now, packet⟩, _, handled, after⟩
  · intro label member
    exact (linear label.id.uid).loaded label member rfl
  · intro event next label taken returned
    exact returned_present (linear label.id.uid).settled taken returned
  · intro uid otherRows sameRow
    exact isolated_run uid sameRow ran
  · intro stored
    constructor
    · intro uid session present
      have history := (linear uid).history
      rw [present] at history
      exact history.session_own (initial_own stored uid)
    · intro id incoming out member login
      have entry : (incoming, out) ∈ handledBy id.uid log :=
        List.mem_filterMap.mpr ⟨_, member, by simp [CallLabel.answered]⟩
      obtain ⟨player, own, answer⟩ :=
        (linear id.uid).history.answered_own (initial_own stored id.uid) _ entry
      rcases login_reports game id.uid incoming.now player false incoming.packet login with
        silent | ⟨ticket, reported⟩
      · exact .inl (answer.trans silent)
      · exact .inr ⟨player.uid, ticket, own, answer.trans reported⟩

/-- Two logins race for a stored player: both load the row, the first inserts it,
and the second finds its record present. -/
theorem sessions_linearizable_race :
    let payload : List UInt8 := [8, 1, 18, 2, 111, 107, 26, 0, 32, 0, 42, 0, 50, 0]
    let decoder : Decoder := { Decoder.deaf with
      cs10022 := fun data => if data = payload then some ⟨1, "ok", ""⟩ else none }
    let game : Game := ⟨⟨⟨[], by decide⟩, none, none, none⟩, decoder, ""⟩
    let serde : Serde PlayerInfo := ⟨id, some, fun _ => rfl⟩
    let rows : UInt32 → Option (PlayerRow PlayerInfo) :=
      fun uid => if uid = 1 then some ⟨0, { uid := 1, nickName := "tester" }⟩ else none
    let login : Packet := ⟨19, 0, 10022, 1, payload, []⟩
    let left : CallId := ⟨1, 0⟩
    let right : CallId := ⟨1, 1⟩
    let now : Clock := fun _ => 0
    let events : List RuntimeEvent :=
      [.start left (.handle login), .start right .ensure, .advance left now, .advance right now,
        .advance right now, .advance left now, .advance right now, .advance left now,
        .advance left now]
    ∃ last log, (playerRuntime game serde).run (.started rows) events = some (last, log) ∧
      History game 1 (initialRecord serde rows 1) log (last.store.players 1) ∧
      handledAs left log = [login] ∧
      ∀ uid session, last.store.players uid = some session → OwnUid uid session.info := by
  intro payload decoder game serde rows login left right now events
  have stored : ∀ uid row info, rows uid = some row → serde.fromStr row.data = some info →
      OwnUid uid info := by
    intro uid row info present read
    obtain rfl : row.data = info := Option.some.inj read
    by_cases first : uid = 1
    · simp only [rows, first, ↓reduceIte, Option.some.injEq] at present
      rw [← present, first]
      exact .inr rfl
    · simp [rows, first] at present
  have facts := sessions_linearizable game serde rows events _ _ rfl
  have applied := facts.2.1 left
  rw [PacketsAccounted] at applied
  exact ⟨_, _, rfl, facts.1 1, (List.append_nil _).symm.trans applied.symm,
    (facts.2.2.2.2.2.2.2 stored).1⟩

end CheshireLane
