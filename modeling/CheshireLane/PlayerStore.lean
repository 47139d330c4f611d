import CheshireLane.PlayerChanges

/-!
# Sessions in memory and rows in the database

`PlayerRuntime` keeps one session per player in memory and one row per player in
the database. Its operations are cut here where the code can be interrupted:
each section under the lock of the session map, each row read and each row write
is one function. What they are composed to is said elsewhere.

Rows are written as JSON. Serde is a parameter that reads back what it wrote.
-/

namespace CheshireLane

/-- `serde_json` at `PlayerInfo`: what was written is read back. -/
structure Serde (Text : Type) where
  toString : PlayerInfo → Text
  fromStr : Text → Option PlayerInfo
  roundTrip : ∀ info, fromStr (toString info) = some info

/-- A row of the players table. Its key is where it stands. -/
structure PlayerRow (Text : Type) where
  isBanned : Int
  data : Text

/-- A record in memory, with the flag that says it is to be saved. -/
structure PlayerSession where
  info : PlayerInfo
  dirty : Bool

/-- The session map and the players table. -/
structure Store (Text : Type) where
  players : UInt32 → Option PlayerSession
  rows : UInt32 → Option (PlayerRow Text)

namespace Store

variable {Text : Type}

/-- A started server: no session, whatever the table holds. -/
def started (rows : UInt32 → Option (PlayerRow Text)) : Store Text := ⟨fun _ => none, rows⟩

/-- Replace the session of one player. -/
def setSession (store : Store Text) (uid : UInt32) (session : PlayerSession) : Store Text :=
  { store with players := Function.update store.players uid (some session) }

/-- `players.contains_key`. -/
def containsKey (store : Store Text) (uid : UInt32) : Bool := (store.players uid).isSome

/-- The record a row decodes to. -/
def loaded (serde : Serde Text) (store : Store Text) (uid : UInt32) : Option PlayerInfo :=
  (store.rows uid).bind fun row => serde.fromStr row.data

/-- `save_player`: insert or update the data and leave the ban alone. -/
def savePlayer (serde : Serde Text) (store : Store Text) (uid : UInt32) (info : PlayerInfo) :
    Store Text :=
  let isBanned := ((store.rows uid).map PlayerRow.isBanned).getD 0
  { store with rows := Function.update store.rows uid (some ⟨isBanned, serde.toString info⟩) }

/-- `entry(uid).or_insert`. -/
def insertSession (store : Store Text) (uid : UInt32) (info : PlayerInfo) : Store Text :=
  if store.containsKey uid then store else store.setSession uid ⟨info, false⟩

/-- The session a handled packet leaves. Its flag is lowered before the save. -/
def keepHandled (store : Store Text) (uid : UInt32) (result : Handled) : Store Text :=
  store.setSession uid ⟨result.player, false⟩

/-- What is to be saved after a packet. -/
def toSave (result : Handled) : Option PlayerInfo :=
  if result.dirty then some result.player else none

/-- After a start no player is in memory. -/
@[simp] theorem started_players (rows : UInt32 → Option (PlayerRow Text)) (uid : UInt32) :
    (started rows).players uid = none := rfl

/-- The session that was set is there. -/
@[simp] theorem set_session_players (store : Store Text) (uid : UInt32) (session : PlayerSession) :
    (store.setSession uid session).players uid = some session := Function.update_self ..

/-- All other sessions stay. -/
@[simp] theorem set_session_others (store : Store Text) (uid other : UInt32)
    (session : PlayerSession) (different : other ≠ uid) :
    (store.setSession uid session).players other = store.players other :=
  Function.update_of_ne different ..

/-- Sessions are in memory only, so what is loaded does not depend on them. -/
@[simp] theorem set_session_loaded (serde : Serde Text) (store : Store Text) (uid other : UInt32)
    (session : PlayerSession) :
    (store.setSession uid session).loaded serde other = store.loaded serde other := rfl

/-- A save writes a row and touches no session. -/
@[simp] theorem save_player_players (serde : Serde Text) (store : Store Text) (uid : UInt32)
    (info : PlayerInfo) : (store.savePlayer serde uid info).players = store.players := rfl

/-- What was saved is loaded. -/
@[simp] theorem save_player_loaded (serde : Serde Text) (store : Store Text) (uid : UInt32)
    (info : PlayerInfo) : (store.savePlayer serde uid info).loaded serde uid = some info := by
  simp [loaded, savePlayer, serde.roundTrip]

/-- A save reaches one row. -/
@[simp] theorem save_player_others (serde : Serde Text) (store : Store Text) (uid other : UInt32)
    (info : PlayerInfo) (different : other ≠ uid) :
    (store.savePlayer serde uid info).rows other = store.rows other :=
  Function.update_of_ne different ..

/-- An insert touches no row. -/
@[simp] theorem insert_session_rows (store : Store Text) (uid : UInt32) (info : PlayerInfo) :
    (store.insertSession uid info).rows = store.rows := by
  unfold insertSession
  split <;> rfl

/-- An insertion leaves a session that is present alone. -/
theorem insert_session_present (store : Store Text) (uid : UInt32) (info : PlayerInfo)
    (session : PlayerSession) (present : store.players uid = some session) :
    store.insertSession uid info = store := by
  simp [insertSession, containsKey, present]

/-- Where there is no session, an insert makes a clean one. -/
theorem insert_session_absent (store : Store Text) (uid : UInt32) (info : PlayerInfo)
    (absent : store.players uid = none) :
    store.insertSession uid info = store.setSession uid ⟨info, false⟩ := by
  simp [insertSession, containsKey, absent]

/-- An insertion reaches one session. -/
@[simp] theorem insert_session_others (store : Store Text) (uid other : UInt32) (info : PlayerInfo)
    (different : other ≠ uid) :
    (store.insertSession uid info).players other = store.players other := by
  unfold insertSession
  split
  · rfl
  · exact set_session_others store uid other _ different

end Store

end CheshireLane
