import CheshireLane.ConcurrentCalls
import CheshireLane.GateLogin

/-!
# Bans

All connections of the gate run at once here. The handling of a packet is
interrupted in front of every database statement and every section under the lock
of the session map, also within the calls of the player runtime. A connection is
closed by its peer or by a failed statement, and the SDK server adds accounts.

Bans are written to the database by others. Whatever the server does, it keeps
them: every save keeps the ban of its row.
-/

namespace CheshireLane

open Transitions

variable {Text : Type}

/-- Where the handling of a packet was interrupted: in front of the account read or
the row read of a login, or within `ensure_player` or `handle_packet`. -/
inductive Job where
  | readingAccount (packet : Packet) (req : Cs10022)
  | readingRow (packet : Packet) (req : Cs10022) (account : Account)
  | entering (packet : Packet) (uid : UInt32) (call : Call)
  | playing (packet : Packet) (uid : UInt32) (call : Call) (out : List Packet)

/-- A connection: its uid slot, and the packet it is handling. -/
structure Client where
  slot : Option UInt32
  job : Option Job

/-- All connections share one world. A number without a client was not accepted or was closed. -/
structure ServerState (Text : Type) where
  world : World Text
  clients : Nat → Option Client

/-- One connection takes a step of its own, or the SDK registers an account. Closing stands for
everything that ends a connection from outside, a failing statement among it. -/
inductive ServerEvent where
  | accept (id : Nat)
  | receive (id : Nat) (packet : Packet)
  | advance (id : Nat) (now : Clock)
  | close (id : Nat)
  | register (uid : UInt32) (account : Account)

/-- The connection an event belongs to. -/
def ServerEvent.client : ServerEvent → Option Nat
  | .accept id | .receive id _ | .advance id _ | .close id => some id
  | .register _ _ => none

/-- A packet is answered. -/
inductive ServerLabel where
  | quiet
  | answered (id : Nat) (packet : Packet) (out : List Packet)

/-- What a step on a connection leaves: the world, the connection unless it was
closed, and the packet answered. -/
structure Moved (Text : Type) where
  world : World Text
  client : Option Client
  answer : Option (Packet × List Packet)

namespace Gate

/-- The answer to a login that is not accepted. -/
def loginRefusal (packet : Packet) (req : Cs10022) (result userId : UInt32) : List Packet :=
  [Packet.encode (Sc10023.response ⟨result, userId, req.serverTicket, none, none⟩) packet.id]

/-- The beginning of `handle_packet`, up to the first statement. A login without a statement is
answered at once, as is a packet on a connection that is not bound. -/
def beginPacket (gate : Gate Text) (world : World Text) (slot : Option UInt32) (packet : Packet) :
    Moved Text :=
  let answered (out : List Packet) : Moved Text := ⟨world, some ⟨slot, none⟩, some (packet, out)⟩
  if packet.cmdId = 10022 then
    match gate.game.decoder.cs10022 packet.data with
    | none => answered []
    | some req =>
      if gate.md5WithSalt req.serverTicket = req.checkKey then
        ⟨world, some ⟨slot, some (.readingAccount packet req)⟩, none⟩
      else answered (loginRefusal packet req 1 0)
  else
    match slot with
    | none => answered []
    | some uid => ⟨world, some ⟨slot, some (.playing packet uid (.checking (.handle packet)) [])⟩, none⟩

/-- One step of a packet being handled. The slot is set behind the row read. -/
def advanceJob (gate : Gate Text) (now : Clock) (world : World Text) (slot : Option UInt32) :
    Job → Moved Text
  | .readingAccount packet req =>
    match world.accounts req.accountId with
    | none => ⟨world, some ⟨slot, none⟩, some (packet, loginRefusal packet req 1 0)⟩
    | some account => ⟨world, some ⟨slot, some (.readingRow packet req account)⟩, none⟩
  | .readingRow packet req account =>
    if banned world req.accountId then
      ⟨world, some ⟨slot, none⟩, some (packet, loginRefusal packet req 17 (castU32 account.uid))⟩
    else
      ⟨world, some ⟨some req.accountId,
        some (.entering packet req.accountId (.checking .ensure))⟩, none⟩
  | .entering packet uid call =>
    let advanced := advanceCall gate.game gate.serde uid now world.store call
    let world := { world with store := advanced.store }
    match advanced.call with
    | some call => ⟨world, some ⟨slot, some (.entering packet uid call)⟩, none⟩
    | none => ⟨world, some ⟨slot, some (.playing packet uid (.checking (.handle packet)) [])⟩, none⟩
  | .playing packet uid call out =>
    let advanced := advanceCall gate.game gate.serde uid now world.store call
    let world := { world with store := advanced.store }
    match advanced.effect with
    | .notLoaded => ⟨world, none, none⟩
    | effect =>
      let out := match effect with
        | .handled _ handled => handled
        | _ => out
      match advanced.call with
      | some call => ⟨world, some ⟨slot, some (.playing packet uid call out)⟩, none⟩
      | none => ⟨world, some ⟨slot, none⟩, some (packet, out)⟩

end Gate

/-- The label of a step on a connection. -/
def Moved.label (moved : Moved Text) (id : Nat) : ServerLabel :=
  match moved.answer with
  | some (packet, out) => .answered id packet out
  | none => .quiet

/-- One connection has moved. -/
def ServerState.moved (state : ServerState Text) (id : Nat) (moved : Moved Text) :
    ServerState Text :=
  ⟨moved.world, Function.update state.clients id moved.client⟩

/-- The connection that moved is where it moved to. -/
@[simp] theorem ServerState.moved_client (state : ServerState Text) (id : Nat)
    (moved : Moved Text) : (state.moved id moved).clients id = moved.client := Function.update_self ..

/-- The gate with all its connections. Each connection has its task, and every statement and every
lock section is a step of its own, so that steps of different connections come in any order. -/
def gateServer (gate : Gate Text) : Machine (ServerState Text) ServerEvent ServerLabel where
  step state event :=
    match event with
    | .accept id =>
      match state.clients id with
      | none => some (state.moved id ⟨state.world, some ⟨none, none⟩, none⟩, .quiet)
      | some _ => none
    | .receive id packet =>
      match state.clients id with
      | some ⟨slot, none⟩ =>
        let moved := gate.beginPacket state.world slot packet
        some (state.moved id moved, moved.label id)
      | _ => none
    | .advance id now =>
      match state.clients id with
      | some ⟨slot, some job⟩ =>
        let moved := gate.advanceJob now state.world slot job
        some (state.moved id moved, moved.label id)
      | _ => none
    | .close id =>
      match state.clients id with
      | some _ => some (state.moved id ⟨state.world, none, none⟩, .quiet)
      | none => none
    | .register uid account =>
      match state.world.accounts uid with
      | none =>
        some ({ state with world := { state.world with
          accounts := Function.update state.world.accounts uid (some account) } }, .quiet)
      | some _ => none

variable {gate : Gate Text}

/-- What a step can be. It has one constructor for each event, with the guard that let the event
happen. -/
inductive ServerStep (gate : Gate Text) (state : ServerState Text) :
    ServerEvent → ServerState Text → ServerLabel → Prop
  | accept (id : Nat) (free : state.clients id = none) :
      ServerStep gate state (.accept id) (state.moved id ⟨state.world, some ⟨none, none⟩, none⟩) .quiet
  | receive (id : Nat) (packet : Packet) (slot : Option UInt32)
      (idle : state.clients id = some ⟨slot, none⟩) :
      ServerStep gate state (.receive id packet)
        (state.moved id (gate.beginPacket state.world slot packet))
        ((gate.beginPacket state.world slot packet).label id)
  | advance (id : Nat) (now : Clock) (slot : Option UInt32) (job : Job)
      (busy : state.clients id = some ⟨slot, some job⟩) :
      ServerStep gate state (.advance id now)
        (state.moved id (gate.advanceJob now state.world slot job))
        ((gate.advanceJob now state.world slot job).label id)
  | close (id : Nat) : ServerStep gate state (.close id)
      (state.moved id ⟨state.world, none, none⟩) .quiet
  | register (uid : UInt32) (account : Account) (free : state.world.accounts uid = none) :
      ServerStep gate state (.register uid account)
        { state with world := { state.world with
          accounts := Function.update state.world.accounts uid (some account) } } .quiet

/-- Everything a step can do. The invariants over all connections are derived from these cases.
There is one case for each constructor of the events; the guard of the step is kept in it. -/
theorem server_step_cases {state next : ServerState Text} {event : ServerEvent}
    {label : ServerLabel} (taken : (gateServer gate).step state event = some (next, label)) :
    ServerStep gate state event next label := by
  cases event with
  | accept id =>
    simp only [gateServer] at taken
    split at taken
    · next free =>
      cases taken
      exact .accept id free
    · cases taken
  | receive id packet =>
    simp only [gateServer] at taken
    split at taken
    · next slot idle =>
      cases taken
      exact .receive id packet slot idle
    · cases taken
  | advance id now =>
    simp only [gateServer] at taken
    split at taken
    · next slot job busy =>
      cases taken
      exact .advance id now slot job busy
    · cases taken
  | close id =>
    simp only [gateServer] at taken
    split at taken
    · cases taken
      exact .close id
    · cases taken
  | register uid account =>
    simp only [gateServer] at taken
    split at taken
    · next free =>
      cases taken
      exact .register uid account free
    · cases taken

/-- `is_banned` of a player, zero without a row. -/
def ban (rows : UInt32 → Option (PlayerRow Text)) (uid : UInt32) : Int :=
  ((rows uid).map PlayerRow.isBanned).getD 0

/-- No row is lost, and none has another ban. A row that is new has none. -/
def BansKept (before after : UInt32 → Option (PlayerRow Text)) : Prop :=
  ∀ uid, ban after uid = ban before uid ∧ ((before uid).isSome = true → (after uid).isSome = true)

namespace BansKept

variable {before middle after : UInt32 → Option (PlayerRow Text)}

/-- Without a statement all bans stand. -/
theorem refl (rows : UInt32 → Option (PlayerRow Text)) : BansKept rows rows :=
  fun _ => ⟨rfl, fun present => present⟩

/-- Statements that keep all bans keep them together. -/
theorem trans (first : BansKept before middle) (second : BansKept middle after) :
    BansKept before after :=
  fun uid => ⟨(second uid).1.trans (first uid).1, fun present => (second uid).2 ((first uid).2 present)⟩

/-- A row there was has its ban. -/
theorem row (kept : BansKept before after) {uid : UInt32} {old : PlayerRow Text}
    (found : before uid = some old) : ∃ later, after uid = some later ∧ later.isBanned = old.isBanned := by
  obtain ⟨same, stays⟩ := kept uid
  obtain ⟨later, present⟩ := Option.isSome_iff_exists.mp (stays (by rw [found, Option.isSome_some]))
  refine ⟨later, present, ?_⟩
  simpa [ban, found, present] using same

/-- A row that was not there before is not banned. -/
theorem fresh (kept : BansKept before after) {uid : UInt32} {later : PlayerRow Text}
    (absent : before uid = none) (present : after uid = some later) : later.isBanned = 0 := by
  have same := (kept uid).1
  simpa [ban, absent, present] using same

end BansKept

/-- Up to its first statement a packet changes nothing that others could see. -/
theorem begin_packet_keeps (gate : Gate Text) (world : World Text) (slot : Option UInt32)
    (packet : Packet) :
    (gate.beginPacket world slot packet).world = world ∧
      ∀ client, (gate.beginPacket world slot packet).client = some client → client.slot = slot := by
  unfold Gate.beginPacket
  simp only
  split
  · split
    · exact ⟨rfl, fun client same => by cases same; rfl⟩
    · split <;> exact ⟨rfl, fun client same => by cases same; rfl⟩
  · split <;> exact ⟨rfl, fun client same => by cases same; rfl⟩

/-- What the others find of a world after any steps. -/
structure World.Kept (before after : World Text) : Prop where
  bans : BansKept before.store.rows after.store.rows
  accounts : ∀ uid account, before.accounts uid = some account → after.accounts uid = some account

/-- Without a step everything is found again. -/
theorem World.Kept.refl (world : World Text) : World.Kept world world :=
  ⟨.refl _, fun _ _ found => found⟩

/-- Steps that keep what others find keep it together. -/
theorem World.Kept.trans {before middle after : World Text} (first : World.Kept before middle)
    (second : World.Kept middle after) : World.Kept before after :=
  ⟨first.bans.trans second.bans,
    fun uid account found => second.accounts uid account (first.accounts uid account found)⟩

/-- A step leaves all connections alone but its own. -/
theorem step_foreign {state next : ServerState Text} {event : ServerEvent} {label : ServerLabel}
    (taken : (gateServer gate).step state event = some (next, label)) (id : Nat)
    (foreign : event.client ≠ some id) : next.clients id = state.clients id := by
  cases server_step_cases taken with
  | accept other | receive other | advance other | close other =>
    have different : id ≠ other := fun same => foreign (congrArg some same.symm)
    exact Function.update_of_ne different ..
  | register uid account free => rfl

section run

variable {initial state : ServerState Text} {events : List ServerEvent} {labels : List ServerLabel}
  (ran : (gateServer gate).run initial events = some (state, labels))

include ran

end run

/-- An idle connection takes the packet it receives. -/
theorem receive_taken (gate : Gate Text) {state : ServerState Text} {id : Nat} {slot : Option UInt32}
    (idle : state.clients id = some ⟨slot, none⟩) (packet : Packet) :
    (gateServer gate).step state (.receive id packet) =
      some (state.moved id (gate.beginPacket state.world slot packet),
        (gate.beginPacket state.world slot packet).label id) := by
  simp only [gateServer, idle]

/-- A busy connection takes the next statement of its job at any time. -/
theorem job_taken (gate : Gate Text) {state : ServerState Text} {id : Nat} {slot : Option UInt32} {job : Job}
    (busy : state.clients id = some ⟨slot, some job⟩) (now : Clock) :
    (gateServer gate).step state (.advance id now) =
      some (state.moved id (gate.advanceJob now state.world slot job),
        (gate.advanceJob now state.world slot job).label id) := by
  simp only [gateServer, busy]

end CheshireLane
