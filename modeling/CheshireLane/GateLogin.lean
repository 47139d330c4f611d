import CheshireLane.FailingSaves

/-!
# Logging in at the gate

A connection is bound to a player by an accepted login, and packets are handed to
the game under the bound uid. A login reads the account and then the player row;
whatever else the server and the database do meanwhile is an arbitrary change of
the world in front of each of these reads and of each call of the runtime.

The runtime's calls run to completion here. A failed call closes the connection.
-/

namespace CheshireLane

variable {Text : Type}

/-- An account as the gate reads it. -/
structure Account where
  uid : Int

/-- The accounts table, and what the runtime works on. -/
structure World (Text : Type) where
  accounts : UInt32 → Option Account
  store : Store Text

/-- A packet on a connection, with the failures it meets and the changes that
happen in front of each step. -/
structure Arrival (Text : Type) extends Attempt where
  accountFails : Bool
  rowFails : Bool
  ensureFails : Bool
  beforeAccount : World Text → World Text
  beforeRow : World Text → World Text
  beforeEnsure : World Text → World Text
  beforeHandle : World Text → World Text

/-- What handling a packet leaves: the uid slot, the world, the uids under which
the runtime was handed the packet, and the answers unless there was an error. -/
structure Served (Text : Type) where
  uid : Option UInt32
  world : World Text
  handed : List UInt32
  answer : Option (List Packet)

/-- What the gate needs besides the game. -/
structure Gate (Text : Type) where
  game : Game
  serde : Serde Text
  md5WithSalt : String → String

/-- `account.uid as u32`. -/
def castU32 (value : Int) : UInt32 := UInt32.ofNat (value % 4294967296).toNat

namespace Gate

/-- The answer to a login that is not accepted. -/
def refusal (arrival : Arrival Text) (req : Cs10022) (result userId : UInt32) : List Packet :=
  [Packet.encode (Sc10023.response ⟨result, userId, req.serverTicket, none, none⟩)
    arrival.packet.id]

/-- `state.runtime.handle_packet`. -/
def handToRuntime (gate : Gate Text) (arrival : Arrival Text) (uid : UInt32) (world : World Text) :
    Served Text :=
  let world := arrival.beforeHandle world
  let (store, answer) := world.store.handlePacket gate.game gate.serde uid arrival.toAttempt
  ⟨some uid, { world with store }, [uid], answer⟩

/-- The part of `handle_login` behind an accepted login. The slot is set before
the player is loaded. -/
def enter (gate : Gate Text) (arrival : Arrival Text) (accountId : UInt32) (world : World Text) :
    Served Text :=
  let world := arrival.beforeEnsure world
  match world.store.ensurePlayer gate.serde arrival.ensureFails accountId with
  | none => ⟨some accountId, world, [], none⟩
  | some store => gate.handToRuntime arrival accountId { world with store }

/-- `row.is_banned != 0`, without a row false. -/
def banned (world : World Text) (uid : UInt32) : Bool :=
  ((world.store.rows uid).map fun row => decide (row.isBanned ≠ 0)).getD false

/-- `handle_login`: the key is checked first, then the account is read, then the row with its ban.
Each statement may fail, and others may write in front of each. -/
def handleLogin (gate : Gate Text) (arrival : Arrival Text) (slot : Option UInt32)
    (world : World Text) : Served Text :=
  match gate.game.decoder.cs10022 arrival.packet.data with
  | none => ⟨slot, world, [], some []⟩
  | some req =>
    if gate.md5WithSalt req.serverTicket = req.checkKey then
      let world := arrival.beforeAccount world
      if arrival.accountFails then ⟨slot, world, [], none⟩
      else match world.accounts req.accountId with
        | none => ⟨slot, world, [], some (refusal arrival req 1 0)⟩
        | some account =>
          let world := arrival.beforeRow world
          if arrival.rowFails then ⟨slot, world, [], none⟩
          else if banned world req.accountId then
            ⟨slot, world, [], some (refusal arrival req 17 (castU32 account.uid))⟩
          else gate.enter arrival req.accountId world
    else ⟨slot, world, [], some (refusal arrival req 1 0)⟩

/-- `handle_packet`: a login is always handled, every other packet only with a player bound. -/
def handlePacket (gate : Gate Text) (arrival : Arrival Text) (slot : Option UInt32)
    (world : World Text) : Served Text :=
  if arrival.packet.cmdId = 10022 then gate.handleLogin arrival slot world
  else match slot with
    | none => ⟨none, world, [], some []⟩
    | some uid => gate.handToRuntime arrival uid world

/-- A packet together with the slot and the world it met and what it left. -/
structure Exchange (Text : Type) where
  slot : Option UInt32
  world : World Text
  arrival : Arrival Text
  served : Served Text

/-- The packets of one connection in order. An error closes it. Each packet meets the slot and the
world that the one before it has left. -/
def connection (gate : Gate Text) : Option UInt32 → World Text → List (Arrival Text) →
    List (Exchange Text)
  | _, _, [] => []
  | slot, world, arrival :: later =>
    let served := gate.handlePacket arrival slot world
    ⟨slot, world, arrival, served⟩ ::
      match served.answer with
      | none => []
      | some _ => connection gate served.uid served.world later

/-- The login of `uid` that this packet is, accepted at the moments its account
and its row are read. -/
structure Accepted (gate : Gate Text) (uid : UInt32) (arrival : Arrival Text)
    (world : World Text) : Prop where
  login : arrival.packet.cmdId = 10022
  request : ∃ req, gate.game.decoder.cs10022 arrival.packet.data = some req ∧
    req.accountId = uid ∧ gate.md5WithSalt req.serverTicket = req.checkKey
  account : ((arrival.beforeAccount world).accounts uid).isSome = true
  allowed : ∀ row, (arrival.beforeRow (arrival.beforeAccount world)).store.rows uid = some row →
    row.isBanned = 0
  answered : arrival.accountFails = false ∧ arrival.rowFails = false

/-- The gate itself changed nothing: the world is as the changes in front of its
reads made it. -/
def Untouched (arrival : Arrival Text) (world final : World Text) : Prop :=
  final = world ∨ final = arrival.beforeAccount world ∨
    final = arrival.beforeRow (arrival.beforeAccount world)

/-- Entering binds the connection to the account of the login. -/
theorem enter_slot (gate : Gate Text) (arrival : Arrival Text) (accountId : UInt32)
    (world : World Text) : (gate.enter arrival accountId world).uid = some accountId := by
  unfold enter
  simp only
  split <;> rfl

/-- A row that does not ban, or no row. -/
theorem banned_eq_false (world : World Text) (uid : UInt32) :
    banned world uid = false ↔ ∀ row, world.store.rows uid = some row → row.isBanned = 0 := by
  unfold banned
  cases found : world.store.rows uid with
  | none => simp
  | some row => simp

/-- An accepted login enters the game. -/
theorem login_accepted {gate : Gate Text} {uid : UInt32} {arrival : Arrival Text}
    {world : World Text} (slot : Option UInt32) (accepted : gate.Accepted uid arrival world) :
    gate.handleLogin arrival slot world =
      gate.enter arrival uid (arrival.beforeRow (arrival.beforeAccount world)) := by
  obtain ⟨req, decoded, rfl, key⟩ := accepted.request
  obtain ⟨account, known⟩ := Option.isSome_iff_exists.mp accepted.account
  have allowed := (banned_eq_false _ req.accountId).mpr accepted.allowed
  simp only [handleLogin, decoded, key, accepted.answered, known, allowed, Bool.false_eq_true,
    ↓reduceIte]

/-- Any other login leaves the slot, the sessions and the runtime alone. One case
per branch of `handle_login`; the last one would accept. -/
theorem login_unaccepted (gate : Gate Text) (arrival : Arrival Text) (slot : Option UInt32)
    (world : World Text) (login : arrival.packet.cmdId = 10022)
    (unaccepted : ∀ uid, ¬ gate.Accepted uid arrival world) :
    (gate.handleLogin arrival slot world).uid = slot ∧
      (gate.handleLogin arrival slot world).handed = [] ∧
      Untouched arrival world (gate.handleLogin arrival slot world).world := by
  unfold handleLogin
  cases decoded : gate.game.decoder.cs10022 arrival.packet.data with
  | none => exact ⟨rfl, rfl, .inl rfl⟩
  | some req =>
    simp only
    split
    · next key =>
      split
      · exact ⟨rfl, rfl, .inr (.inl rfl)⟩
      · next accountRead =>
        cases known : (arrival.beforeAccount world).accounts req.accountId with
        | none => exact ⟨rfl, rfl, .inr (.inl rfl)⟩
        | some account =>
          simp only
          split
          · exact ⟨rfl, rfl, .inr (.inr rfl)⟩
          · next rowRead =>
            split
            · exact ⟨rfl, rfl, .inr (.inr rfl)⟩
            · next allowed =>
              refine absurd ⟨login, ⟨req, decoded, rfl, key⟩, ?_, ?_, ?_, ?_⟩
                (unaccepted req.accountId)
              · simp only [known, Option.isSome_some]
              · exact (banned_eq_false _ _).mp (Bool.eq_false_iff.mpr allowed)
              · exact Bool.eq_false_iff.mpr accountRead
              · exact Bool.eq_false_iff.mpr rowRead
    · exact ⟨rfl, rfl, .inl rfl⟩

/-- The digest of the ticket `test` and the salt. -/
def sampleDigest : String := "0c9631a433289a2f93233c2e710ec77a"

/-- A login of account 1 with the ticket `test` and its digest, as a client encodes it. -/
def sampleLogin : List UInt8 :=
  [8, 1, 18, 4, 116, 101, 115, 116, 26, 0, 32, 0, 42, 32,
    48, 99, 57, 54, 51, 49, 97, 52, 51, 51, 50, 56, 57, 97, 50, 102, 57, 51, 50, 51, 51, 99, 50, 101,
    55, 49, 48, 101, 99, 55, 55, 97, 50, 0]

/-- The same login with the key `bad`. -/
def forgedLogin : List UInt8 :=
  [8, 1, 18, 4, 116, 101, 115, 116, 26, 0, 32, 0, 42, 3, 98, 97, 100, 50, 0]

/-- A gate without tables that reads these logins and a story, and knows the digest of `test`. -/
def sampleGate : Gate PlayerInfo where
  game :=
    { data := ⟨⟨[], by decide⟩, none, none, none⟩
      decoder :=
        { Decoder.deaf with
          cs10022 := fun data =>
            if data = sampleLogin then some ⟨1, "test", sampleDigest⟩
            else if data = forgedLogin then some ⟨1, "test", "bad"⟩
            else none
          cs11017 := fun data => if data = [8, 7] then some ⟨7⟩ else none }
      noticeImageUrl := "" }
  serde := ⟨id, some, fun _ => rfl⟩
  md5WithSalt ticket := if ticket = "test" then sampleDigest else ""

end Gate

end CheshireLane
