import CheshireLane.ConnectionSteps
import CheshireLane.GateService

/-!
# An undisturbed connection

The handling of packets is modelled twice: cut into its atomic steps, with all connections and
calls at once, and as a whole, one packet of one connection after another. When nobody else
moves the steps come to the whole: a call of the player runtime leaves the store and the answer
of the call run to completion, and so does every packet on a connection, login included.
-/

namespace CheshireLane

open Transitions WireFormat StreamSplitter

variable {Text : Type}

/-- The steps of a call that nobody interrupts, so many at most. -/
def finishCall (game : Game) (serde : Serde Text) (uid : UInt32) (now : Clock) :
    Nat → Store Text → Call → List Packet → Option (Store Text × List Packet)
  | 0, _, _, _ => none
  | steps + 1, store, call, out =>
    let advanced := advanceCall game serde uid now store call
    match advanced.effect with
    | .notLoaded => none
    | effect =>
      let out := match effect with
        | .handled _ handled => handled
        | _ => out
      match advanced.call with
      | none => some (advanced.store, out)
      | some call => finishCall game serde uid now steps advanced.store call out

/-- A player is in memory once it was inserted. -/
theorem insert_session_held (uid : UInt32) (store : Store Text) (info : PlayerInfo) :
    ((store.insertSession uid info).players uid).isSome = true := by
  cases present : store.players uid with
  | none =>
    rw [Store.insert_session_absent store uid info present, Store.set_session_players]
    rfl
  | some session =>
    rw [Store.insert_session_present store uid info session present, present]
    rfl

section calls

variable (game : Game) (serde : Serde Text) (uid : UInt32) (now : Clock)

/-- A packet that meets no failure. -/
def smoothly (packet : Packet) : Attempt where
  now
  packet
  createFails := false
  saveFails := false

/-- The packet is handled and what it changed is saved. Two steps are enough: the section that handles the packet, and the save if it marked the record. -/
theorem finish_handling (store : Store Text) (session : PlayerSession)
    (present : store.players uid = some session) (packet : Packet) (out : List Packet) (steps : Nat) :
    let result := handlePlayerPacket game uid now session.info session.dirty packet
    finishCall game serde uid now (steps + 2) store (.handling packet) out =
      some (match Store.toSave result with
        | none => store.keepHandled uid result
        | some info => (store.keepHandled uid result).savePlayer serde uid info, result.out) := by
  intro result
  simp only [finishCall, advanceCall, present]
  cases saved : Store.toSave result with
  | none =>
    simp only [Option.map_none]
    rfl
  | some info =>
    simp only [Option.map_some]
    rfl

/-- The player is in memory behind the first steps of a call. Four steps are enough: the check, the
read, the creation of a row and the insertion. It is the state that `ensure_player` leaves. -/
theorem finish_checking (store : Store Text) (task : Task) (out : List Packet) (steps : Nat) :
    ∃ prepared later, store.ensurePlayer serde false uid = some prepared ∧
      (prepared.players uid).isSome = true ∧ steps ≤ later ∧
      finishCall game serde uid now (steps + 4) store (.checking task) out =
        match task.resumed with
        | none => some (prepared, out)
        | some call => finishCall game serde uid now later prepared call out := by
  by_cases held : store.containsKey uid = true
  · refine ⟨store, steps + 3, by rw [Store.ensurePlayer, if_pos held], held, by omega, ?_⟩
    simp only [finishCall, advanceCall, held, if_true]
  · cases loaded : store.loaded serde uid with
    | some info =>
      refine ⟨store.insertSession uid info, steps + 1, ?_, insert_session_held uid store info,
        by omega, ?_⟩
      · simp [Store.ensurePlayer, Store.loadOrCreatePlayer, held, loaded]
      · simp [finishCall, advanceCall, held, loaded]
    | none =>
      refine ⟨(store.savePlayer serde uid {}).insertSession uid {}, steps, ?_,
        insert_session_held uid _ _, Nat.le_refl _, ?_⟩
      · simp [Store.ensurePlayer, Store.loadOrCreatePlayer, held, loaded]
      · have absent : (store.savePlayer serde uid {}).containsKey uid = false := by
          rw [Store.containsKey, Store.save_player_players]
          simpa [Store.containsKey] using held
        simp [finishCall, advanceCall, held, loaded, absent]

/-- `ensure_player`, step by step and as a whole. -/
theorem finish_ensure (store : Store Text) (out : List Packet) :
    ∃ prepared, store.ensurePlayer serde false uid = some prepared ∧
      finishCall game serde uid now 4 store (.checking .ensure) out = some (prepared, out) := by
  obtain ⟨prepared, later, ensured, _, _, finished⟩ :=
    finish_checking game serde uid now store .ensure out 0
  exact ⟨prepared, ensured, finished⟩

/-- `handle_packet`, step by step and as a whole. -/
theorem finish_handle (store : Store Text) (packet : Packet) :
    ∃ after out, store.handlePacket game serde uid (smoothly now packet) = (after, some out) ∧
      finishCall game serde uid now 6 store (.checking (.handle packet)) [] = some (after, out) := by
  obtain ⟨prepared, later, ensured, present, enough, finished⟩ :=
    finish_checking game serde uid now store (.handle packet) [] 2
  obtain ⟨session, present⟩ := Option.isSome_iff_exists.mp present
  obtain ⟨steps, rfl⟩ := Nat.exists_eq_add_of_le' enough
  refine ⟨_, _, ?_, finished.trans
    (finish_handling game serde uid now prepared session present packet [] steps)⟩
  simp only [Store.handlePacket, smoothly, ensured, present]
  cases Store.toSave (handlePlayerPacket game uid now session.info session.dirty packet) with
  | none => rfl
  | some info => simp only [Bool.false_eq_true, if_false]

end calls

/-- The packets answered on a connection, with their answers. -/
def answersOn (id : Nat) (labels : List ServerLabel) : List (Packet × List Packet) :=
  labels.filterMap fun
    | .answered other packet out => if other = id then some (packet, out) else none
    | .quiet => none

/-- The answers of two stretches are those of the first and then those of the second. -/
theorem answers_on_append (id : Nat) (labels more : List ServerLabel) :
    answersOn id (labels ++ more) = answersOn id labels ++ answersOn id more := List.filterMap_append

/-- What the label of a step says of its connection. -/
theorem answers_on_label (moved : Moved Text) (id : Nat) :
    answersOn id [moved.label id] = moved.answer.toList := by
  obtain ⟨world, client, answer⟩ := moved
  cases answer with
  | none => rfl
  | some answer => exact List.filterMap_cons_some (if_pos rfl)

/-- A packet that meets no failure and no change by others. Its reads find the world that the packet
before it has left. -/
def undisturbed (now : Clock) (packet : Packet) : Arrival Text where
  toAttempt := smoothly now packet
  accountFails := false
  rowFails := false
  ensureFails := false
  beforeAccount := fun world => world
  beforeRow := fun world => world
  beforeEnsure := fun world => world
  beforeHandle := fun world => world

/-- The runtime has handled a packet. -/
theorem hand_handled (gate : Gate Text) (arrival : Arrival Text) {uid : UInt32} {world : World Text}
    {after : Store Text} {answer : Option (List Packet)}
    (handled : (arrival.beforeHandle world).store.handlePacket gate.game gate.serde uid
      arrival.toAttempt = (after, answer)) :
    gate.handToRuntime arrival uid world =
      ⟨some uid, { arrival.beforeHandle world with store := after }, [uid], answer⟩ := by
  simp only [Gate.handToRuntime, handled]

/-- The player of an accepted login is loaded. -/
theorem enter_loaded (gate : Gate Text) (arrival : Arrival Text) {uid : UInt32} {world : World Text}
    {prepared : Store Text}
    (ensured : (arrival.beforeEnsure world).store.ensurePlayer gate.serde arrival.ensureFails uid =
      some prepared) :
    gate.enter arrival uid world =
      gate.handToRuntime arrival uid { arrival.beforeEnsure world with store := prepared } := by
  simp only [Gate.enter, ensured]

section connection

variable {gate : Gate Text} {state : ServerState Text} {id : Nat} {now : Clock}

/-- Only the connection has moved, and the world with it. -/
def ServerState.settled (state : ServerState Text) (id : Nat) (world : World Text) (client : Client) :
    ServerState Text := state.moved id ⟨world, some client, none⟩

/-- The connection stands as it was set. -/
theorem settled_client (world : World Text) (client : Client) :
    (state.settled id world client).clients id = some client := Function.update_self ..

/-- Only the last setting counts. -/
theorem settled_again (world later : World Text) (client next : Client) :
    (state.settled id world client).settled id later next = state.settled id later next := by
  simp [ServerState.settled, ServerState.moved]

/-- The connection moves alone from one state to another and answers some packets. -/
def Alone (gate : Gate Text) (id : Nat) (state last : ServerState Text)
    (answers : List (Packet × List Packet)) : Prop :=
  ∃ events labels, (∀ event ∈ events, event.client = some id) ∧
    (gateServer gate).run state events = some (last, labels) ∧ answersOn id labels = answers

/-- A connection that takes no step answers nothing. -/
theorem Alone.refl (state : ServerState Text) : Alone gate id state state [] :=
  ⟨[], [], List.forall_mem_nil _, rfl, rfl⟩

/-- Stretches in which only this connection moves follow each other. -/
theorem Alone.trans {middle last : ServerState Text} {answers more : List (Packet × List Packet)}
    (first : Alone gate id state middle answers) (second : Alone gate id middle last more) :
    Alone gate id state last (answers ++ more) := by
  obtain ⟨events, labels, own, ran, said⟩ := first
  obtain ⟨later, rest, ours, continued, also⟩ := second
  refine ⟨events ++ later, labels ++ rest, List.forall_mem_append.mpr ⟨own, ours⟩,
    Machine.run_append ran continued, ?_⟩
  rw [answers_on_append, said, also]

/-- One step of the job of a connection. -/
theorem Alone.job {slot : Option UInt32} {job : Job} {world : World Text} {client : Client}
    {answer : Option (Packet × List Packet)} (busy : state.clients id = some ⟨slot, some job⟩)
    (moved : gate.advanceJob now state.world slot job = ⟨world, some client, answer⟩) :
    Alone gate id state (state.settled id world client) answer.toList := by
  have taken := job_taken gate busy now
  rw [moved] at taken
  exact ⟨[.advance id now], _, List.forall_mem_singleton.mpr rfl, Machine.run_single taken,
    answers_on_label ..⟩

/-- The packet is received. -/
theorem Alone.receive {slot : Option UInt32} {packet : Packet} {world : World Text} {client : Client}
    {answer : Option (Packet × List Packet)} (idle : state.clients id = some ⟨slot, none⟩)
    (moved : gate.beginPacket state.world slot packet = ⟨world, some client, answer⟩) :
    Alone gate id state (state.settled id world client) answer.toList := by
  have taken := receive_taken gate idle packet
  rw [moved] at taken
  exact ⟨[.receive id packet], _, List.forall_mem_singleton.mpr rfl, Machine.run_single taken,
    answers_on_label ..⟩

/-- A call of `handle_packet` ends the handling of its packet. By induction on the steps of the
call, each of which is one step of the server. -/
theorem playing_alone {slot : Option UInt32} {packet : Packet} {uid : UInt32} (steps : Nat)
    {call : Call} {out answer : List Packet} {after : Store Text}
    (busy : state.clients id = some ⟨slot, some (.playing packet uid call out)⟩)
    (finished : finishCall gate.game gate.serde uid now steps state.world.store call out =
      some (after, answer)) :
    Alone gate id state (state.settled id { state.world with store := after } ⟨slot, none⟩)
      [(packet, answer)] := by
  induction steps generalizing state call out with
  | zero => cases finished
  | succ steps inductionHypothesis =>
    have known : ∃ effect, (advanceCall gate.game gate.serde uid now state.world.store call).effect =
        effect := ⟨_, rfl⟩
    obtain ⟨effect, known⟩ := known
    by_cases missing : effect = .notLoaded
    · simp only [finishCall, known, missing] at finished
      cases finished
    · cases onward : (advanceCall gate.game gate.serde uid now state.world.store call).call with
      | none =>
        have moved : gate.advanceJob now state.world slot (.playing packet uid call out) =
            ⟨{ state.world with store := after }, some ⟨slot, none⟩, some (packet, answer)⟩ := by
          cases effect <;> simp_all [finishCall, Gate.advanceJob]
        exact .job busy moved
      | some next =>
        obtain ⟨said, moved, rest⟩ : ∃ said,
            gate.advanceJob now state.world slot (.playing packet uid call out) =
              ⟨{ state.world with
                  store := (advanceCall gate.game gate.serde uid now state.world.store call).store },
                some ⟨slot, some (.playing packet uid next said)⟩, none⟩ ∧
              finishCall gate.game gate.serde uid now steps
                (advanceCall gate.game gate.serde uid now state.world.store call).store next said =
                  some (after, answer) := by
          cases effect <;> simp_all [finishCall, Gate.advanceJob]
        have first : Alone gate id state _ [] := .job busy moved
        have second := inductionHypothesis (@settled_client Text state id
          { state.world with
            store := (advanceCall gate.game gate.serde uid now state.world.store call).store }
          ⟨slot, some (.playing packet uid next said)⟩) rest
        rw [settled_again] at second
        exact first.trans second

/-- A call of `ensure_player` leads to the call of `handle_packet`. By induction on the steps of the
call. Behind the last one the packet of the login goes on to the game. -/
theorem entering_alone {slot : Option UInt32} {packet : Packet} {uid : UInt32} (steps : Nat)
    {call : Call} {out answer : List Packet} {after : Store Text}
    (busy : state.clients id = some ⟨slot, some (.entering packet uid call)⟩)
    (finished : finishCall gate.game gate.serde uid now steps state.world.store call out =
      some (after, answer)) :
    Alone gate id state (state.settled id { state.world with store := after }
      ⟨slot, some (.playing packet uid (.checking (.handle packet)) [])⟩) [] := by
  induction steps generalizing state call out with
  | zero => cases finished
  | succ steps inductionHypothesis =>
    simp only [finishCall] at finished
    split at finished
    · cases finished
    · cases onward : (advanceCall gate.game gate.serde uid now state.world.store call).call with
      | none =>
        simp only [onward, Option.some.injEq, Prod.mk.injEq] at finished
        obtain ⟨rfl, _⟩ := finished
        have moved : gate.advanceJob now state.world slot (.entering packet uid call) =
            ⟨{ state.world with
                store := (advanceCall gate.game gate.serde uid now state.world.store call).store },
              some ⟨slot, some (.playing packet uid (.checking (.handle packet)) [])⟩, none⟩ := by
          simp [Gate.advanceJob, onward]
        exact .job busy moved
      | some next =>
        simp only [onward] at finished
        have moved : gate.advanceJob now state.world slot (.entering packet uid call) =
            ⟨{ state.world with
                store := (advanceCall gate.game gate.serde uid now state.world.store call).store },
              some ⟨slot, some (.entering packet uid next)⟩, none⟩ := by
          simp [Gate.advanceJob, onward]
        have first : Alone gate id state _ [] := .job busy moved
        have second := inductionHypothesis (@settled_client Text state id
          { state.world with
            store := (advanceCall gate.game gate.serde uid now state.world.store call).store }
          ⟨slot, some (.entering packet uid next)⟩) finished
        rw [settled_again] at second
        exact first.trans second

/-- A packet alone on its connection comes to what it is served. -/
def ServedAlone (gate : Gate Text) (id : Nat) (state : ServerState Text) (packet : Packet)
    (served : Served Text) : Prop :=
  ∃ out, served.answer = some out ∧
    Alone gate id state (state.settled id served.world ⟨served.uid, none⟩) [(packet, out)]

/-- What a connection does before it is served. -/
theorem ServedAlone.behind {world : World Text} {client : Client} {packet : Packet}
    {served : Served Text} (first : Alone gate id state (state.settled id world client) [])
    (later : ServedAlone gate id (state.settled id world client) packet served) :
    ServedAlone gate id state packet served := by
  obtain ⟨out, answered, second⟩ := later
  rw [settled_again] at second
  exact ⟨out, answered, first.trans second⟩

/-- The runtime handles the packet of a connection. -/
theorem handed_alone {packet : Packet} {uid : UInt32}
    (busy : state.clients id =
      some ⟨some uid, some (.playing packet uid (.checking (.handle packet)) [])⟩) :
    ServedAlone gate id state packet
      (gate.handToRuntime (undisturbed now packet) uid state.world) := by
  obtain ⟨after, out, handled, finished⟩ :=
    finish_handle gate.game gate.serde uid now state.world.store packet
  have whole : gate.handToRuntime (undisturbed now packet) uid state.world =
      ⟨some uid, { state.world with store := after }, [uid], some out⟩ :=
    hand_handled gate (undisturbed now packet) handled
  rw [whole]
  exact ⟨out, rfl, playing_alone 6 busy finished⟩

/-- An accepted login loads the player and hands the packet on. -/
theorem entered_alone {packet : Packet} {uid : UInt32}
    (busy : state.clients id = some ⟨some uid, some (.entering packet uid (.checking .ensure))⟩) :
    ServedAlone gate id state packet (gate.enter (undisturbed now packet) uid state.world) := by
  obtain ⟨prepared, ensured, finished⟩ :=
    finish_ensure gate.game gate.serde uid now state.world.store []
  have whole : gate.enter (undisturbed now packet) uid state.world =
      gate.handToRuntime (undisturbed now packet) uid { state.world with store := prepared } :=
    enter_loaded gate (undisturbed now packet) ensured
  rw [whole]
  exact .behind (entering_alone 4 busy finished) (handed_alone (settled_client ..))

/-- The row read decides a login. -/
theorem row_read_alone {slot : Option UInt32} {packet : Packet} {req : Cs10022} {account : Account}
    (busy : state.clients id = some ⟨slot, some (.readingRow packet req account)⟩) :
    ServedAlone gate id state packet
      (if Gate.banned state.world req.accountId then
        ⟨slot, state.world, [], some (Gate.loginRefusal packet req 17 (castU32 account.uid))⟩
      else gate.enter (undisturbed now packet) req.accountId state.world) := by
  have step := advance_cases gate now state.world slot (.readingRow packet req account)
  generalize moved : gate.advanceJob now state.world slot (.readingRow packet req account) = left at step
  cases step with
  | refused _ _ _ barred =>
    rw [if_pos barred]
    exact ⟨_, rfl, .job busy moved⟩
  | accepted _ _ _ allowed =>
    rw [if_neg (Bool.eq_false_iff.mp allowed)]
    exact .behind (.job busy moved) (entered_alone (settled_client ..))

/-- The account read decides whether the row of a login is read. The cases are those of
`handle_login`, with nothing in between the two reads. -/
theorem account_read_alone {slot : Option UInt32} {packet : Packet} {req : Cs10022}
    (request : LoginRequest gate packet req)
    (busy : state.clients id = some ⟨slot, some (.readingAccount packet req)⟩) :
    ServedAlone gate id state packet (gate.handleLogin (undisturbed now packet) slot state.world) := by
  have step := advance_cases gate now state.world slot (.readingAccount packet req)
  generalize moved : gate.advanceJob now state.world slot (.readingAccount packet req) = left at step
  cases step with
  | unknown _ _ absent =>
    have whole : gate.handleLogin (undisturbed now packet) slot state.world =
        ⟨slot, state.world, [], some (Gate.loginRefusal packet req 1 0)⟩ := by
      simp only [Gate.handleLogin, undisturbed, smoothly, request.decoded, request.key, absent,
        ↓reduceIte, Bool.false_eq_true]
      rfl
    rw [whole]
    exact ⟨_, rfl, .job busy moved⟩
  | known _ _ account registered =>
    have whole : gate.handleLogin (undisturbed now packet) slot state.world =
        if Gate.banned state.world req.accountId then
          ⟨slot, state.world, [], some (Gate.loginRefusal packet req 17 (castU32 account.uid))⟩
        else gate.enter (undisturbed now packet) req.accountId state.world := by
      simp only [Gate.handleLogin, undisturbed, smoothly, request.decoded, request.key, registered,
        ↓reduceIte, Bool.false_eq_true]
      rfl
    rw [whole]
    exact .behind (.job busy moved) (row_read_alone (settled_client ..))

/-- Every packet is handled alone as `handle_packet` handles it. One case per way it begins. A
refused packet needs one step; any other one is followed to the end of its call. -/
theorem packet_alone {slot : Option UInt32} (packet : Packet)
    (idle : state.clients id = some ⟨slot, none⟩) :
    ServedAlone gate id state packet (gate.handlePacket (undisturbed now packet) slot state.world) := by
  have step := begin_cases gate state.world packet slot
  generalize moved : gate.beginPacket state.world slot packet = left at step
  cases step with
  | undecodable _ login rejected =>
    have whole : gate.handlePacket (undisturbed now packet) slot state.world =
        ⟨slot, state.world, [], some []⟩ := by
      simp only [Gate.handlePacket, Gate.handleLogin, undisturbed, smoothly, login, rejected,
        ↓reduceIte]
    rw [whole]
    exact ⟨[], rfl, .receive idle moved⟩
  | wrongKey _ req login decoded key =>
    have whole : gate.handlePacket (undisturbed now packet) slot state.world =
        ⟨slot, state.world, [], some (Gate.loginRefusal packet req 1 0)⟩ := by
      simp only [Gate.handlePacket, Gate.handleLogin, undisturbed, smoothly, login, decoded, key,
        ↓reduceIte]
      rfl
    rw [whole]
    exact ⟨_, rfl, .receive idle moved⟩
  | reading _ req request =>
    have whole : gate.handlePacket (undisturbed now packet) slot state.world =
        gate.handleLogin (undisturbed now packet) slot state.world := if_pos request.login
    rw [whole]
    exact .behind (.receive idle moved) (account_read_alone request (settled_client ..))
  | unbound play =>
    have whole : gate.handlePacket (undisturbed now packet) none state.world =
        ⟨none, state.world, [], some []⟩ := if_neg play
    rw [whole]
    exact ⟨[], rfl, .receive idle moved⟩
  | bound uid play =>
    have whole : gate.handlePacket (undisturbed now packet) (some uid) state.world =
        gate.handToRuntime (undisturbed now packet) uid state.world := if_neg play
    rw [whole]
    exact .behind (.receive idle moved) (handed_alone (settled_client ..))

/-- Setting the connection as it stands changes nothing. -/
theorem settled_same {client : Client} (there : state.clients id = some client) :
    state.settled id state.world client = state := by
  rw [ServerState.settled, ServerState.moved, ← there, Function.update_eq_self]

/-- No packet of the connection meets a failure or a change by others. -/
def undisturbedAll (clocks : Nat → Clock) (handled : Nat) : Circumstances Text where
  now := clocks handled
  createFails := false
  saveFails := false
  accountFails := false
  rowFails := false
  ensureFails := false
  beforeAccount := fun world => world
  beforeRow := fun world => world
  beforeEnsure := fun world => world
  beforeHandle := fun world => world
  written := none

/-- The packet of an exchange and its answer. -/
def Gate.Exchange.answers (exchange : Gate.Exchange Text) : Packet × List Packet :=
  (exchange.arrival.packet, exchange.served.answer.getD [])

/-- All exchanges of a connection take place alone. By induction on the packets: behind each of them
the connection is idle again, in the world that its exchange has left. -/
theorem exchanges_alone (clocks : Nat → Clock) (packets : List Packet) (task : ClientTask Text)
    (idle : state.clients id = some ⟨task.uid, none⟩) (same : task.world = state.world) :
    let exchanges := gate.exchanges (undisturbedAll clocks) task packets
    let after := exchanges.foldl Gate.Exchange.leaves task
    Gate.answered exchanges = true ∧ exchanges.map (fun exchange => exchange.arrival.packet) = packets ∧
      Alone gate id state (state.settled id after.world ⟨after.uid, none⟩)
        (exchanges.map Gate.Exchange.answers) := by
  induction packets generalizing task state with
  | nil =>
    refine ⟨rfl, rfl, ?_⟩
    show Alone gate id state (state.settled id task.world ⟨task.uid, none⟩) []
    rw [same, settled_same idle]
    exact .refl state
  | cons packet packets inductionHypothesis =>
    have first : ServedAlone gate id state packet
        (gate.exchange (undisturbedAll clocks) task packet).served := by
      have served := @packet_alone Text gate state id (clocks task.handled) task.uid packet idle
      rw [← same] at served
      exact served
    obtain ⟨out, answered, first⟩ := first
    obtain ⟨open', received, onward⟩ := @inductionHypothesis
      (state.settled id (gate.exchange (undisturbedAll clocks) task packet).served.world
        ⟨(gate.exchange (undisturbedAll clocks) task packet).served.uid, none⟩)
      ((gate.exchange (undisturbedAll clocks) task packet).leaves task) (settled_client ..) rfl
    rw [settled_again] at onward
    have whole : gate.exchanges (undisturbedAll clocks) task (packet :: packets) =
        gate.exchange (undisturbedAll clocks) task packet :: gate.exchanges (undisturbedAll clocks)
          ((gate.exchange (undisturbedAll clocks) task packet).leaves task) packets := by
      rw [Gate.exchanges_cons, answered]
      rfl
    have said : (gate.exchange (undisturbedAll clocks) task packet).answers = (packet, out) := by
      rw [Gate.Exchange.answers, answered]
      rfl
    have open'' : Gate.answered (gate.exchange (undisturbedAll clocks) task packet ::
        gate.exchanges (undisturbedAll clocks)
          ((gate.exchange (undisturbedAll clocks) task packet).leaves task) packets) = true := by
      rw [Gate.answered, List.all_cons, answered]
      exact open'
    simp only [whole, List.map_cons, List.foldl_cons, said, received]
    exact ⟨open'', rfl, first.trans onward⟩

/-- A client that nobody disturbs is served by the server, step by step, as `handle_client` serves it,
whatever it sends and however that arrives: from accepting its connection there is a run of events of
this connection that receives the packets which `handle_client` splits off, answers them with the bytes
that `handle_client` writes, and leaves the world and the bound player of `handle_client`. If no padding
byte of the stream can be misread, these are the packets of the whole stream. -/
theorem client_undisturbed (gate : Gate Text) (clocks : Nat → Clock) (state : ServerState Text)
    (id : Nat) (free : state.clients id = none) (chunks : List (List UInt8)) :
    let packets := (readLoop gateLoop none [] chunks).1
    let service := gate.handleClient (undisturbedAll clocks) state.world chunks
    (∃ events last labels, (∀ event ∈ events, event.client = some id) ∧
        (gateServer gate).run state (.accept id :: events) = some (last, labels) ∧
        last = state.settled id service.server.world ⟨service.server.uid, none⟩ ∧
        (answersOn id labels).map Prod.fst = packets ∧
        ((answersOn id labels).flatMap fun answer => answer.2.flatMap Packet.toBytes) =
          service.sent) ∧
      (Clear gateLoop ZeroPadding none chunks.flatten →
        packets = (drain gateLoop none chunks.flatten).1) := by
  intro packets service
  have accepted : (gateServer gate).step state (.accept id) =
      some (state.settled id state.world ⟨none, none⟩, .quiet) := by
    simp only [gateServer, free]
    rfl
  obtain ⟨open', received, events, labels, own, ran, said⟩ :=
    @exchanges_alone Text gate (state.settled id state.world ⟨none, none⟩) id clocks
      packets ⟨0, none, state.world⟩ (settled_client ..) rfl
  rw [settled_again] at ran
  have served : service = ⟨_, Gate.answerBytes _, _⟩ :=
    (Gate.handle_client_reads gate (undisturbedAll clocks) state.world chunks).trans
      (by rw [conclude, Gate.handle_all_unbroken gate _ (fun _ => rfl)])
  have server : service.server = _ := congrArg Service.server served
  have sent : service.sent = _ := congrArg Service.sent served
  have quiet : answersOn id (.quiet :: labels) = answersOn id labels := rfl
  refine ⟨⟨events, _, .quiet :: labels, own, ?_, rfl, ?_, ?_⟩, fun clear => ?_⟩
  · rw [Machine.run_step accepted, ran, server]
    rfl
  · rw [quiet, said, List.map_map]
    exact received
  · rw [quiet, said, sent, List.flatMap_map]
    rfl
  · exact congrArg Prod.fst (read_loop_whole gate_reliable none [] chunks (gate_idle none) clear)

/-- A login in two pieces and a story behind it, while another connection is at a login. The client is
bound to its player and reads both answers. -/
theorem client_undisturbed_pieces :
    let login : List UInt8 := [0, 53, 0, 39, 38, 0, 1] ++ Gate.sampleLogin
    let story : List UInt8 := [0, 7, 0, 43, 9, 0, 2, 8, 7]
    let chunks : List (List UInt8) := [login.take 30, login.drop 30 ++ story]
    let packets : List Packet := [⟨53, 0, 10022, 1, Gate.sampleLogin, login⟩,
      ⟨7, 0, 11017, 2, [8, 7], story⟩]
    let other : Packet := ⟨53, 0, 10022, 1, Gate.sampleLogin, []⟩
    let state : ServerState PlayerInfo := ⟨⟨fun _ => some ⟨1⟩, Store.started fun _ => none⟩,
      fun id => if id = 5 then
        some ⟨none, some (.readingAccount other ⟨1, "test", Gate.sampleDigest⟩)⟩ else none⟩
    let service := Gate.sampleGate.handleClient (undisturbedAll fun _ _ => 0) state.world chunks
    service.sent =
        [0, 15, 0, 39, 39, 0, 1, 8, 0, 16, 0, 26, 4, 116, 101, 115, 116, 0, 7, 0, 43, 10, 0, 2, 8, 0] ∧
      ∃ events last labels, (∀ event ∈ events, event.client = some 3) ∧
        (gateServer Gate.sampleGate).run state (.accept 3 :: events) = some (last, labels) ∧
        last.clients 5 = state.clients 5 ∧ last.clients 3 = some ⟨some 1, none⟩ ∧
        (answersOn 3 labels).map Prod.fst = packets ∧
        ((answersOn 3 labels).flatMap fun answer => answer.2.flatMap Packet.toBytes) = service.sent := by
  intro login story chunks packets other state service
  obtain ⟨⟨events, last, labels, own, ran, rfl, answered, sent⟩, _⟩ :=
    client_undisturbed Gate.sampleGate (fun _ _ => 0) state 3 rfl chunks
  have reads : (readLoop gateLoop none [] chunks).1 = packets := by decide +kernel
  have bound : (Gate.sampleGate.handleClient (undisturbedAll fun _ _ => 0) state.world
      chunks).server.uid = some 1 := by decide +kernel
  refine ⟨by decide +kernel, events, _, labels, own, ran, rfl, ?_, answered.trans reads, sent⟩
  rw [settled_client, bound]

end connection

end CheshireLane
