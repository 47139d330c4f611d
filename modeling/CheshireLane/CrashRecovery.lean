import CheshireLane.Library.Histories
import CheshireLane.FailingSaves
import CheshireLane.SessionOpening

/-!
# What a crash leaves

A crash drops the sessions and all calls in flight, and keeps the rows. A database
statement may fail; its call returns the error and the table is as it was. A packet is
acknowledged when its call returns without an error, that is behind the save of what it
changed. As long as the calls of a player do not overlap and no save of its changes fails,
the row is what the acknowledged packets make of the record, so nothing that was answered
is lost. A save that fails loses its change in the next crash, for the flag was lowered in
front of it and a later packet that changes nothing is acknowledged all the same.
-/

namespace CheshireLane

open Transitions Histories

variable {Text : Type}

/-- The call was interrupted in front of a database statement: the read of the row, the write of
a fresh row or the save of a changed record. Only these can fail. -/
def Call.queries : Call → Bool
  | .loading _ | .creating _ | .saving _ => true
  | .checking _ | .inserting _ _ | .handling _ => false

/-- A step of a call, the failure of the statement in front of one, or a crash. -/
inductive CrashEvent where
  | call (event : RuntimeEvent)
  | fail (id : CallId)
  | crash

/-- What a call did and whether it has returned, or that it returned an error. -/
inductive CrashLabel where
  | crashed
  | failed (id : CallId)
  | call (label : CallLabel) (returned : Bool)

/-- The player runtime of a server whose statements may fail, and that may crash and is started
again. A call whose statement fails returns at once: what it did under the lock of the session map
stays done, so the session keeps a change that could not be saved, and its flag stays lowered. -/
def crashingRuntime (game : Game) (serde : Serde Text) :
    Machine (RuntimeState Text) CrashEvent CrashLabel where
  step state event :=
    match event with
    | .crash => some (.started state.store.rows, .crashed)
    | .fail id =>
      match state.calls id with
      | some call => if call.queries then some (state.moved id state.store none, .failed id) else none
      | none => none
    | .call event =>
      ((playerRuntime game serde).step state event).map fun (next, label) =>
        (next, .call label (next.calls label.id).isNone)

/-- The packets of a player whose calls have returned, and the one whose change is yet
to be saved. -/
structure Ledger where
  acknowledged : List Incoming
  pending : Option Incoming

namespace Ledger

/-- Nothing was acknowledged and nothing is pending. -/
def empty : Ledger := ⟨[], none⟩

/-- A call has done something, and may have returned. -/
def enter (ledger : Ledger) : CallEffect → Bool → Ledger
  | .handled incoming _, true => ⟨ledger.acknowledged ++ [incoming], ledger.pending⟩
  | .handled incoming _, false => ⟨ledger.acknowledged, some incoming⟩
  | _, true => ⟨ledger.acknowledged ++ ledger.pending.toList, none⟩
  | _, false => ledger

/-- Crashes and the player's own calls are entered. An error acknowledges nothing. -/
def record (uid : UInt32) (ledger : Ledger) : CrashLabel → Ledger
  | .crashed => ⟨ledger.acknowledged, none⟩
  | .failed _ => ledger
  | .call label returned => if label.id.uid = uid then ledger.enter label.effect returned else ledger

/-- The ledger of a player over a history. -/
def of (uid : UInt32) (history : List CrashLabel) : Ledger := history.foldl (record uid) empty

/-- One more label is entered behind the others. -/
theorem of_append (uid : UInt32) (history : List CrashLabel) (label : CrashLabel) :
    of uid (history ++ [label]) = (of uid history).record uid label := by
  rw [of, List.foldl_append]
  rfl

end Ledger

/-- With nothing pending only a handled packet is entered. -/
theorem Ledger.enter_settled (ledger : Ledger) (settled : ledger.pending = none)
    (effect : CallEffect) (unhandled : ∀ incoming out, effect ≠ .handled incoming out)
    (returned : Bool) : ledger.enter effect returned = ledger := by
  obtain ⟨acknowledged, pending⟩ := ledger
  obtain rfl : pending = none := settled
  cases effect with
  | handled incoming out => exact absurd rfl (unhandled incoming out)
  | _ => cases returned <;> simp [enter]

/-- What packets make of a record. -/
def packetsRecord (game : Game) (uid : UInt32) (initial : PlayerInfo) (packets : List Incoming) :
    PlayerInfo :=
  packets.foldl (afterPacket game uid) initial

/-- One more packet is applied to what the others have made. -/
theorem packets_record_append (game : Game) (uid : UInt32) (initial : PlayerInfo)
    (packets : List Incoming) (incoming : Incoming) :
    packetsRecord game uid initial (packets ++ [incoming]) =
      afterPacket game uid (packetsRecord game uid initial packets) incoming := by
  rw [packetsRecord, List.foldl_append]
  rfl

/-- What is in memory and in the row while a call is in front of its next step. -/
def Call.Backed (game : Game) (serde : Serde Text) (uid : UInt32) (store : Store Text)
    (pending : Option Incoming) : Call → Prop
  | .checking _ | .loading _ => store.Stored serde uid ∧ pending = none
  | .creating _ => store.players uid = none ∧ store.loaded serde uid = none ∧ pending = none
  | .inserting _ info =>
    store.Stored serde uid ∧ store.loaded serde uid = some info ∧ pending = none
  | .handling _ => store.Stored serde uid ∧ (store.players uid).isSome = true ∧ pending = none
  | .saving info =>
    store.players uid = some ⟨info, false⟩ ∧ ∃ row incoming, store.loaded serde uid = some row ∧
      pending = some incoming ∧ afterPacket game uid row incoming = info

/-- A call that goes on is backed, and one that returned has left the session stored. -/
def Backed (game : Game) (serde : Serde Text) (uid : UInt32) (store : Store Text)
    (pending : Option Incoming) : Option Call → Prop
  | none => store.Stored serde uid ∧ pending = none
  | some call => call.Backed game serde uid store pending

/-- The row is what the acknowledged packets make of the record, and the player has one
call in flight at most. -/
structure Durable (game : Game) (serde : Serde Text) (uid : UInt32) (initial : PlayerInfo)
    (ledger : Ledger) (state : RuntimeState Text) : Prop where
  row : (state.store.loaded serde uid).getD {} = packetsRecord game uid initial ledger.acknowledged
  flying : ∀ id call, id.uid = uid → state.calls id = some call →
    call.Backed game serde uid state.store ledger.pending ∧
      ∀ other, other.uid = uid → other ≠ id → state.calls other = none
  idle : (∀ id, id.uid = uid → state.calls id = none) →
    state.store.Stored serde uid ∧ ledger.pending = none

/-- A call of the player starts while none is in flight. -/
def StartsAlone (uid : UInt32) (state : RuntimeState Text) (event : CrashEvent) : Prop :=
  ∀ id task, event = .call (.start id task) → id.uid = uid →
    ∀ other, other.uid = uid → state.calls other = none

/-- It is not the save of a change of the player that fails. -/
def SavesHold (uid : UInt32) (state : RuntimeState Text) (event : CrashEvent) : Prop :=
  ∀ id info, event = .fail id → id.uid = uid → state.calls id ≠ some (.saving info)

/-- What nothing acknowledged is lost under: the calls of the player do not overlap, and its changes
are saved. Its row may fail to be read or created, and everything of other players may fail. -/
structure Orderly (uid : UInt32) (state : RuntimeState Text) (event : CrashEvent) : Prop where
  alone : StartsAlone uid state event
  saved : SavesHold uid state event

/-- An answer is what the packet makes of the acknowledged ones. -/
def AnswersAcknowledged (game : Game) (uid : UInt32) (initial : PlayerInfo)
    (before : List CrashLabel) (label : CrashLabel) : Prop :=
  ∀ id incoming out returned, label = .call ⟨id, .handled incoming out⟩ returned → id.uid = uid →
    out = (handlePlayerPacket game uid incoming.now
      (packetsRecord game uid initial (Ledger.of uid before).acknowledged) false incoming.packet).out

/-- A call that goes on to its packet has the session behind it, and the row that fits it. -/
theorem resumed_backed {game : Game} {serde : Serde Text} {uid : UInt32} {store : Store Text}
    {pending : Option Incoming} (task : Task) (stored : store.Stored serde uid)
    (present : (store.players uid).isSome = true) (settled : pending = none) :
    Backed game serde uid store pending task.resumed := by
  cases task with
  | ensure => exact ⟨stored, settled⟩
  | handle packet => exact ⟨stored, present, settled⟩

variable {game : Game} {serde : Serde Text} {uid : UInt32} {initial : PlayerInfo} {ledger : Ledger}

/-- A session that was inserted from its row is stored. -/
theorem inserted_stored {store : Store Text} {info : PlayerInfo} (stored : store.Stored serde uid)
    (row : store.loaded serde uid = some info) :
    (store.insertSession uid info).Stored serde uid ∧
      ((store.insertSession uid info).players uid).isSome = true := by
  cases present : store.players uid with
  | some session =>
    rw [Store.insert_session_present store uid info session present]
    exact ⟨stored, by rw [present]; rfl⟩
  | none =>
    rw [Store.insert_session_absent store uid info present]
    refine ⟨fun session found => ?_, by rw [Store.set_session_players]; rfl⟩
    rw [Store.set_session_players] at found
    cases found
    exact ⟨row, rfl⟩

/-- The lock section of a packet: it leaves the record as it is and the call returns, or it changes the
record and the change is pending until it is saved. -/
theorem handling_backed (now : Clock) {store : Store Text} {packet : Packet}
    (backed : (Call.handling packet).Backed game serde uid store ledger.pending)
    (row : (store.loaded serde uid).getD {} = packetsRecord game uid initial ledger.acknowledged) :
    let advanced := advanceCall game serde uid now store (.handling packet)
    let later := ledger.enter advanced.effect advanced.call.isNone
    (advanced.store.loaded serde uid).getD {} = packetsRecord game uid initial later.acknowledged ∧
      Backed game serde uid advanced.store later.pending advanced.call := by
  obtain ⟨stored, present, settled⟩ := backed
  obtain ⟨session, present⟩ := Option.isSome_iff_exists.mp present
  obtain ⟨found, clean⟩ := stored session present
  simp only [advanceCall, present, clean]
  cases raised : (handlePlayerPacket game uid now session.info false packet).dirty with
  | false =>
    have unchanged : (handlePlayerPacket game uid now session.info false packet).player =
        session.info := handle_clean raised
    simp only [Store.toSave, raised, Bool.false_eq_true, ↓reduceIte, Option.map_none,
      Option.isNone_none, Ledger.enter, Store.keepHandled, Store.set_session_loaded]
    refine ⟨?_, ?_, settled⟩
    · rw [packets_record_append, ← row, found]
      exact unchanged.symm
    · intro later held
      rw [Store.set_session_players, unchanged] at held
      cases held
      exact ⟨by rw [Store.set_session_loaded, found], rfl⟩
  | true =>
    simp only [Store.toSave, raised, ↓reduceIte, Option.map_some, Option.isNone_some, Ledger.enter,
      Store.keepHandled, Store.set_session_loaded]
    exact ⟨row, Store.set_session_players .., session.info, ⟨now, packet⟩,
      by rw [Store.set_session_loaded, found], rfl, rfl⟩

/-- One step of a call of the player. The row changes when a record is created or saved;
the packet whose change is saved is acknowledged with that step. -/
theorem advance_backed (now : Clock) {store : Store Text} {call : Call}
    (backed : call.Backed game serde uid store ledger.pending)
    (row : (store.loaded serde uid).getD {} = packetsRecord game uid initial ledger.acknowledged) :
    let advanced := advanceCall game serde uid now store call
    let later := ledger.enter advanced.effect advanced.call.isNone
    (advanced.store.loaded serde uid).getD {} = packetsRecord game uid initial later.acknowledged ∧
      Backed game serde uid advanced.store later.pending advanced.call := by
  cases call with
  | checking task =>
    obtain ⟨stored, settled⟩ := backed
    simp only [advanceCall]
    split
    · next present =>
      rw [ledger.enter_settled settled .quiet (by simp)]
      exact ⟨row, resumed_backed task stored present settled⟩
    · rw [ledger.enter_settled settled .quiet (by simp)]
      exact ⟨row, stored, settled⟩
  | loading task =>
    obtain ⟨stored, settled⟩ := backed
    simp only [advanceCall]
    split
    · next info found =>
      rw [ledger.enter_settled settled (.fetched info) (by simp)]
      exact ⟨row, stored, found, settled⟩
    · next missing =>
      rw [ledger.enter_settled settled .quiet (by simp)]
      refine ⟨row, ?_, missing, settled⟩
      cases present : store.players uid with
      | none => rfl
      | some session =>
        have found := (stored session present).1
        rw [missing] at found
        cases found
  | creating task =>
    obtain ⟨absent, missing, settled⟩ := backed
    simp only [advanceCall]
    rw [ledger.enter_settled settled (.fetched {}) (by simp)]
    rw [missing] at row
    refine ⟨by rwa [Store.save_player_loaded], ?_, Store.save_player_loaded .., settled⟩
    intro session present
    rw [Store.save_player_players, absent] at present
    cases present
  | inserting task info =>
    obtain ⟨stored, found, settled⟩ := backed
    obtain ⟨kept, present⟩ := inserted_stored stored found
    have unhandled : ∀ incoming out,
        (if store.containsKey uid then CallEffect.quiet else .inserted info) ≠ .handled incoming out := by
      intro incoming out
      split <;> simp
    simp only [advanceCall]
    rw [ledger.enter_settled settled _ unhandled]
    refine ⟨?_, resumed_backed task kept present settled⟩
    rwa [Store.loaded, Store.insert_session_rows]
  | handling packet => exact handling_backed now backed row
  | saving info =>
    obtain ⟨present, before, incoming, found, pending, changed⟩ := backed
    simp only [advanceCall, Option.isNone_none, Ledger.enter, pending, Option.toList_some,
      Store.save_player_loaded]
    refine ⟨?_, ?_, rfl⟩
    · rw [packets_record_append, ← row, found]
      exact changed.symm
    · intro session held
      rw [Store.save_player_players, present] at held
      cases held
      exact ⟨Store.save_player_loaded .., rfl⟩

/-- What backs a call is read off the player's session and row. -/
theorem backed_agree {left right : Store Text} (agree : Store.Agree uid left right) {call : Call}
    {pending : Option Incoming} (backed : call.Backed game serde uid right pending) :
    call.Backed game serde uid left pending := by
  cases call <;>
    simpa only [Call.Backed, Store.Stored, agree.1, agree.loaded serde] using backed

/-- What is durable for a player depends on nothing of the others. -/
theorem durable_agree {state next : RuntimeState Text}
    (durable : Durable game serde uid initial ledger state) (agree : RuntimeState.Agree uid next state) :
    Durable game serde uid initial ledger next where
  row := by rw [agree.1.loaded serde, durable.row]
  flying id call own flying := by
    rw [agree.2 id own] at flying
    obtain ⟨backed, alone⟩ := durable.flying id call own flying
    exact ⟨backed_agree agree.1 backed,
      fun other theirs different => (agree.2 other theirs).trans (alone other theirs different)⟩
  idle none := by
    obtain ⟨stored, settled⟩ := durable.idle fun id own => (agree.2 id own).symm.trans (none id own)
    exact ⟨by simpa only [Store.Stored, agree.1.1, agree.1.loaded serde] using stored, settled⟩

/-- The player's call has moved, and no other one is in flight. So the invariant only has to be
shown of this one call, or of an idle player if the call has returned. -/
theorem durable_moved {state : RuntimeState Text} {store : Store Text} {id : CallId}
    {call : Option Call} (own : id.uid = uid)
    (alone : ∀ other, other.uid = uid → other ≠ id → state.calls other = none)
    (row : (store.loaded serde uid).getD {} = packetsRecord game uid initial ledger.acknowledged)
    (backed : Backed game serde uid store ledger.pending call) :
    Durable game serde uid initial ledger (state.moved id store call) where
  row := row
  flying other later theirs flying := by
    by_cases same : other = id
    · subst same
      rw [RuntimeState.moved_calls] at flying
      subst flying
      refine ⟨backed, fun third own different => ?_⟩
      rw [RuntimeState.moved_others _ _ _ _ _ different]
      exact alone third own different
    · rw [RuntimeState.moved_others _ _ _ _ _ same, alone other theirs same] at flying
      cases flying
  idle none := by
    have returned := none id own
    rw [RuntimeState.moved_calls] at returned
    subst returned
    exact backed

/-- A new process finds the rows as they are, and no session. -/
theorem durable_started (game : Game) (serde : Serde Text) (uid : UInt32)
    (rows : UInt32 → Option (PlayerRow Text)) :
    Durable game serde uid (initialRecord serde rows uid) .empty (.started rows) where
  row := rfl
  flying _ _ _ flying := nomatch flying
  idle _ := ⟨Store.stored_started serde uid rows, rfl⟩

/-- The answer to a packet is computed from the row in front of it. The session was stored when the
call came to its packet, and it was clean, so the record that answers is the record of the row. -/
theorem handled_answer {state : RuntimeState Text} {id : CallId} {now : Clock} {call : Call}
    {incoming : Incoming} {out : List Packet}
    (durable : Durable game serde uid initial ledger state) (own : id.uid = uid)
    (flying : state.calls id = some call)
    (handled : (advanceCall game serde uid now state.store call).effect = .handled incoming out) :
    out = (handlePlayerPacket game uid incoming.now
      (packetsRecord game uid initial ledger.acknowledged) false incoming.packet).out := by
  have backed := (durable.flying id call own flying).1
  cases call with
  | handling packet =>
    obtain ⟨stored, present, settled⟩ := backed
    obtain ⟨session, present⟩ := Option.isSome_iff_exists.mp present
    obtain ⟨found, clean⟩ := stored session present
    have record : session.info = packetsRecord game uid initial ledger.acknowledged := by
      rw [← durable.row, found]
      rfl
    simp only [advanceCall, present, clean, CallEffect.handled.injEq] at handled
    obtain ⟨rfl, rfl⟩ := handled
    rw [record]
  | checking task =>
    simp only [advanceCall] at handled
    split at handled <;> cases handled
  | loading task =>
    simp only [advanceCall] at handled
    split at handled <;> cases handled
  | creating task => cases handled
  | inserting task info =>
    simp only [advanceCall] at handled
    split at handled <;> cases handled
  | saving info => cases handled

/-- A statement that fails is one in front of a call in flight, and the call returns. -/
theorem fail_cases {state next : RuntimeState Text} {id : CallId} {label : CrashLabel}
    (taken : (crashingRuntime game serde).step state (.fail id) = some (next, label)) :
    label = .failed id ∧ next = state.moved id state.store none ∧
      ∃ call, state.calls id = some call ∧ call.queries = true := by
  simp only [crashingRuntime] at taken
  cases flying : state.calls id with
  | none => simp [flying] at taken
  | some call =>
    simp only [flying] at taken
    split at taken
    · next queries =>
      cases taken
      exact ⟨rfl, rfl, call, rfl, queries⟩
    · cases taken

/-- Behind a failed read or creation the session is stored as it was, and nothing is pending. Behind
a failed save it would not be. -/
theorem failed_backed {state : RuntimeState Text} {call : Call} {pending : Option Incoming}
    (backed : call.Backed game serde uid state.store pending) (queries : call.queries = true)
    (kept : ∀ info, call ≠ .saving info) : Backed game serde uid state.store pending none := by
  cases call with
  | loading task => exact backed
  | creating task =>
    obtain ⟨absent, missing, settled⟩ := backed
    refine ⟨fun session present => ?_, settled⟩
    rw [absent] at present
    cases present
  | saving info => exact absurd rfl (kept info)
  | checking task | inserting task info | handling packet => cases queries

/-- A step keeps the row and the ledger together. A crash drops the sessions and the calls, and a
failing statement the call it belongs to. A step of a call of the player is one case for each place
of the call, and other players do not matter. -/
theorem durable_step {history : List CrashLabel} {state next : RuntimeState Text} {event : CrashEvent}
    {label : CrashLabel}
    (durable : Durable game serde uid initial (.of uid history) state)
    (orderly : Orderly uid state event)
    (taken : (crashingRuntime game serde).step state event = some (next, label)) :
    Durable game serde uid initial (.of uid (history ++ [label])) next ∧
      AnswersAcknowledged game uid initial history label := by
  rw [Ledger.of_append]
  cases event with
  | crash =>
    cases taken
    refine ⟨⟨durable.row, fun _ _ _ flying => (nomatch flying), fun _ => ?_⟩,
      fun _ _ _ _ same => nomatch same⟩
    exact ⟨Store.stored_started serde uid _, rfl⟩
  | fail id =>
    obtain ⟨rfl, rfl, call, flying, queries⟩ := fail_cases taken
    refine ⟨?_, fun _ _ _ _ same => by cases same⟩
    by_cases own : id.uid = uid
    · obtain ⟨backed, others⟩ := durable.flying id call own flying
      refine durable_moved own others durable.row (failed_backed backed queries ?_)
      rintro info rfl
      exact orderly.saved id info rfl own flying
    · refine durable_agree durable ⟨⟨rfl, rfl⟩, fun other theirs => ?_⟩
      exact RuntimeState.moved_others _ _ _ _ _ fun same => own (same ▸ theirs)
  | call event =>
    obtain ⟨⟨next, step⟩, stepped, rfl, rfl⟩ : ∃ result,
        (playerRuntime game serde).step state event = some result ∧ result.1 = next ∧
          CrashLabel.call result.2 (result.1.calls result.2.id).isNone = label := by
      obtain ⟨result, stepped, same⟩ := Option.map_eq_some_iff.mp taken
      exact ⟨result, stepped, congrArg Prod.fst same, congrArg Prod.snd same⟩
    rcases player_step_cases uid stepped with ⟨foreign, agree⟩ |
      ⟨id, task, rfl, own, free, rfl, rfl⟩ | ⟨id, now, call, rfl, own, flying, rfl, rfl⟩
    · refine ⟨?_, ?_⟩
      · rw [Ledger.record, if_neg foreign]
        exact durable_agree durable agree
      · rintro id incoming out returned ⟨⟩ own
        exact absurd own foreign
    · have none := orderly.alone id task rfl own
      obtain ⟨stored, settled⟩ := durable.idle none
      refine ⟨?_, fun _ _ _ _ same => nomatch same⟩
      rw [Ledger.record, if_pos own,
        Ledger.enter_settled _ settled .quiet (by simp)]
      exact durable_moved own (fun other theirs _ => none other theirs) durable.row ⟨stored, settled⟩
    · obtain ⟨backed, others⟩ := durable.flying id call own flying
      obtain ⟨row, later⟩ := advance_backed now backed durable.row
      refine ⟨?_, ?_⟩
      · rw [Ledger.record, if_pos own, RuntimeState.moved_calls]
        exact durable_moved own others row later
      · rintro _ incoming out returned same _
        have handled := congrArg CallLabel.effect (CrashLabel.call.inj same).1
        exact handled_answer durable own flying handled

/-- A single call of the player from an idle state never meets another one, and nothing fails. It
starts with nothing else in flight, and none of the events behind it starts a call or fails. -/
theorem single_call_orderly (game : Game) (serde : Serde Text) (uid : UInt32) (id : CallId)
    (task : Task) (now : Clock) (steps : Nat) (state : RuntimeState Text)
    (idle : ∀ other, other.uid = uid → state.calls other = none) :
    (crashingRuntime game serde).Along (Orderly uid) state
      (.call (.start id task) :: (List.replicate steps (.call (.advance id now)) ++ [.crash])) := by
  have onwards : ∀ steps (state : RuntimeState Text), (crashingRuntime game serde).Along
      (Orderly uid) state (List.replicate steps (.call (.advance id now)) ++ [.crash]) := by
    intro steps
    induction steps with
    | zero =>
      exact fun state => ⟨⟨fun _ _ same => (by cases same), fun _ _ same => (by cases same)⟩,
        fun _ _ _ => trivial⟩
    | succ steps inductionHypothesis =>
      exact fun state => ⟨⟨fun _ _ same => (by cases same), fun _ _ same => (by cases same)⟩,
        fun next _ _ => inductionHypothesis next⟩
  exact ⟨⟨fun _ _ _ _ => idle, fun _ _ same => (by cases same)⟩, fun next _ _ => onwards steps next⟩

/-- The read of a row fails, and its call is gone: only the failed statement was in flight. The two
steps in front of the failure are known, so the state behind it is too, and no call is left in it.
-/
theorem failed_read_orderly {uid : UInt32} {id : CallId} {task : Task} {now : Clock}
    {rows : UInt32 → Option (PlayerRow Text)} {events : List CrashEvent}
    (later : ∀ state : RuntimeState Text, (∀ other, state.calls other = none) →
      (crashingRuntime game serde).Along (Orderly uid) state events) :
    (crashingRuntime game serde).Along (Orderly uid) (.started rows)
      (.call (.start id task) :: .call (.advance id now) :: .fail id :: events) := by
  refine ⟨⟨fun _ _ _ _ _ _ => rfl, fun _ _ same => (by cases same)⟩, fun first _ taken => ?_⟩
  refine ⟨⟨fun _ _ same => (by cases same), fun _ _ same => (by cases same)⟩, fun second _ taken' => ?_⟩
  have begun : first = (RuntimeState.started rows).moved id (.started rows) (some (.checking task)) :=
    (congrArg Prod.fst (Option.some.inj taken)).symm
  subst begun
  have reading : second = ((RuntimeState.started rows).moved id (.started rows)
      (some (.checking task))).moved id (.started rows) (some (.loading task)) := by
    simp only [crashingRuntime, playerRuntime, RuntimeEvent.id, RuntimeState.moved_calls,
      Option.map_some, Option.some.injEq, Prod.mk.injEq] at taken'
    exact taken'.1.symm
  subst reading
  refine ⟨⟨fun _ _ same => (by cases same), ?_⟩, fun third _ taken'' => later third fun other => ?_⟩
  · rintro _ info ⟨⟩ own saving
    rw [RuntimeState.moved_calls] at saving
    cases saving
  · obtain ⟨-, rfl, -⟩ := fail_cases taken''
    by_cases same : other = id
    · rw [same, RuntimeState.moved_calls]
    · simp only [RuntimeState.moved_others _ _ _ _ _ same]
      rfl

end CheshireLane
