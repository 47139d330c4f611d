import CheshireLane.GateLogin
import Mathlib.Data.List.Pairwise

/-!
# SDK accounts

The account table refuses a second row with a uid, a device id or a name in use. An
insert and the update of the new flag are its only statements, and neither changes
the uid or the token of a row there is.
-/

namespace CheshireLane

/-- A row of `accounts`. -/
structure AccountRow where
  uid : Int
  deviceId : String
  token : String
  userName : Option String
  nickName : Option String
  createdAt : Int
  isNew : Int

/-- An account as the SDK hands it out: the columns of a row that has a user name. -/
structure SdkAccount where
  uid : Int
  token : String
  userName : String
  nickName : String
  createdAt : Int
  isNew : Int
  deriving DecidableEq

/-- The table with its constraints. Uids are never used again, and names are unique
where there is one. -/
structure AccountTable where
  rows : List AccountRow
  sequence : Int
  uids : (rows.map AccountRow.uid).Nodup
  issued : ∀ row ∈ rows, row.uid ≤ sequence
  devices : (rows.map AccountRow.deviceId).Nodup
  names : rows.Pairwise fun left right =>
    ∀ name, left.userName = some name → right.userName ≠ some name

namespace AccountTable

/-- The table of a new database. -/
def empty : AccountTable := ⟨[], 0, .nil, nofun, .nil, .nil⟩

/-- `get_sdk_account_by_user_name`. -/
def getSdkAccountByUserName (table : AccountTable) (userName : String) : Option SdkAccount :=
  (table.rows.find? fun row => row.userName = some userName).map fun row =>
    ⟨row.uid, row.token, userName, row.nickName.getD userName, row.createdAt, row.isNew⟩

/-- The row that a new account gets: the next uid, a device id made of the user name, and the flag
raised. -/
def newRow (table : AccountTable) (userName token : String) (createdAt : Int) : AccountRow :=
  ⟨table.sequence + 1, "sdk:" ++ userName, token, some userName, some userName, createdAt, 1⟩

/-- `create_sdk_account`. The constraints refuse a device id or a name in use. -/
def createSdkAccount (table : AccountTable) (userName token : String) (createdAt : Int) :
    Option AccountTable :=
  if free : ∀ row ∈ table.rows, row.deviceId ≠ "sdk:" ++ userName ∧ row.userName ≠ some userName then
    some {
      rows := table.rows ++ [table.newRow userName token createdAt]
      sequence := table.sequence + 1
      uids := by
        rw [List.map_append, List.map_singleton]
        refine List.nodup_append.mpr ⟨table.uids, List.nodup_singleton _, ?_⟩
        intro uid used other fresh same
        obtain ⟨row, member, rfl⟩ := List.mem_map.mp used
        obtain rfl := List.mem_singleton.mp fresh
        have bound := table.issued row member
        rw [same] at bound
        exact absurd bound (Int.not_le.mpr (Int.lt_succ table.sequence))
      issued := by
        refine List.forall_mem_append.mpr ⟨fun row member => ?_, ?_⟩
        · exact Int.le_trans (table.issued row member) (Int.le_of_lt (Int.lt_succ _))
        · exact List.forall_mem_singleton.mpr (Int.le_refl _)
      devices := by
        rw [List.map_append, List.map_singleton]
        refine List.nodup_append.mpr ⟨table.devices, List.nodup_singleton _, ?_⟩
        intro device used other fresh same
        obtain ⟨row, member, rfl⟩ := List.mem_map.mp used
        obtain rfl := List.mem_singleton.mp fresh
        exact (free row member).1 same
      names := by
        refine List.pairwise_append.mpr ⟨table.names, List.pairwise_singleton _ _, ?_⟩
        intro row member other fresh name named same
        obtain rfl := List.mem_singleton.mp fresh
        exact (free row member).2 (named.trans same.symm) }
  else none

/-- One row of the update that lowers the flag. -/
def lowerFlag (uid : UInt32) (row : AccountRow) : AccountRow :=
  if row.uid = uid.toNat then { row with isNew := 0 } else row

/-- Lowering the flag leaves the uid alone. -/
theorem lower_flag_uid (uid : UInt32) (row : AccountRow) : (lowerFlag uid row).uid = row.uid := by
  unfold lowerFlag
  split <;> rfl

/-- Lowering the flag leaves the device id alone. -/
theorem lower_flag_device (uid : UInt32) (row : AccountRow) :
    (lowerFlag uid row).deviceId = row.deviceId := by
  unfold lowerFlag
  split <;> rfl

/-- Lowering the flag leaves the user name alone. -/
theorem lower_flag_name (uid : UInt32) (row : AccountRow) :
    (lowerFlag uid row).userName = row.userName := by
  unfold lowerFlag
  split <;> rfl

/-- Lowering the flag leaves the token alone. -/
theorem lower_flag_token (uid : UInt32) (row : AccountRow) :
    (lowerFlag uid row).token = row.token := by
  unfold lowerFlag
  split <;> rfl

/-- `clear_sdk_new_flag`. It writes one column, so everything that the table promises of the others
is carried over. -/
def clearSdkNewFlag (table : AccountTable) (uid : UInt32) : AccountTable where
  rows := table.rows.map (lowerFlag uid)
  sequence := table.sequence
  uids := by
    simpa only [List.map_map, Function.comp_def, lower_flag_uid] using table.uids
  issued := by
    intro row lowered
    obtain ⟨old, member, rfl⟩ := List.mem_map.mp lowered
    rw [lower_flag_uid]
    exact table.issued old member
  devices := by
    simpa only [List.map_map, Function.comp_def, lower_flag_device] using table.devices
  names := by
    rw [List.pairwise_map]
    simp only [lower_flag_name]
    exact table.names

variable {table next : AccountTable} {name : String}

/-- The name has an account with this token and uid. -/
def Registered (table : AccountTable) (name token : String) (uid : Int) : Prop :=
  ∃ row ∈ table.rows, row.userName = some name ∧ row.token = token ∧ row.uid = uid

/-- The account of the name is not new. -/
def Lowered (table : AccountTable) (name : String) : Prop :=
  ∃ row ∈ table.rows, row.userName = some name ∧ row.isNew = 0

/-- A user name has one row only, since user names are unique. -/
theorem row_unique {left right : AccountRow} (first : left ∈ table.rows) (second : right ∈ table.rows)
    (leftName : left.userName = some name) (rightName : right.userName = some name) :
    left = right := by
  by_contra different
  have symmetric : Std.Symm fun left right : AccountRow =>
      ∀ name, left.userName = some name → right.userName ≠ some name :=
    ⟨fun _ _ apart name right left => apart name left right⟩
  exact table.names.forall first second different name leftName rightName

/-- A name has one row at most. -/
theorem name_once (table : AccountTable) (name : String) :
    (table.rows.filter fun row => row.userName = some name).length ≤ 1 := by
  have apart := table.names.filter fun row => decide (row.userName = some name)
  have named : ∀ row ∈ table.rows.filter fun row => row.userName = some name,
      row.userName = some name := fun row member => by simpa using (List.mem_filter.mp member).2
  generalize table.rows.filter (fun row => row.userName = some name) = rows at apart named
  match rows with
  | [] => exact Nat.zero_le _
  | [_] => exact Nat.le_refl _
  | first :: second :: _ =>
    have different := (List.pairwise_cons.mp apart).1 second List.mem_cons_self
    exact absurd (named second (List.mem_cons_of_mem _ List.mem_cons_self))
      (different name (named first List.mem_cons_self))

/-- A row that was found. -/
theorem found_row {account : SdkAccount} (found : table.getSdkAccountByUserName name = some account) :
    ∃ row ∈ table.rows, row.userName = some name ∧ row.token = account.token ∧
      row.uid = account.uid ∧ row.isNew = account.isNew := by
  obtain ⟨row, first, rfl⟩ := Option.map_eq_some_iff.mp found
  exact ⟨row, List.mem_of_find?_eq_some first, by simpa using List.find?_some first, rfl, rfl, rfl⟩

/-- An account that was found is in the table under its name. -/
theorem found_registered {account : SdkAccount}
    (found : table.getSdkAccountByUserName name = some account) :
    table.Registered name account.token account.uid := by
  obtain ⟨row, member, named, token, uid, _⟩ := found_row found
  exact ⟨row, member, named, token, uid⟩

/-- An insert appends the new row and changes no other. -/
theorem created_rows {token : String} {createdAt : Int}
    (inserted : table.createSdkAccount name token createdAt = some next) :
    next.rows = table.rows ++ [table.newRow name token createdAt] := by
  unfold createSdkAccount at inserted
  split at inserted
  · cases inserted
    rfl
  · cases inserted

/-- A row of the table stays a row of the next one, up to a flag that is lowered. -/
def Kept (table next : AccountTable) : Prop :=
  ∀ row ∈ table.rows, ∃ later ∈ next.rows, later.userName = row.userName ∧
    later.token = row.token ∧ later.uid = row.uid ∧ (row.isNew = 0 → later.isNew = 0)

/-- An insert keeps all rows. -/
theorem kept_created {token : String} {createdAt : Int}
    (inserted : table.createSdkAccount name token createdAt = some next) : Kept table next := by
  intro row member
  rw [created_rows inserted]
  exact ⟨row, List.mem_append_left _ member, rfl, rfl, rfl, id⟩

/-- Lowering a flag keeps all rows, up to the flag. -/
theorem kept_cleared (uid : UInt32) : Kept table (table.clearSdkNewFlag uid) := by
  intro row member
  refine ⟨lowerFlag uid row, List.mem_map_of_mem member, lower_flag_name .., lower_flag_token ..,
    lower_flag_uid .., fun lowered => ?_⟩
  unfold lowerFlag
  split
  · rfl
  · exact lowered

/-- What is registered stays registered: no statement deletes a row or renames a user. -/
theorem Kept.registered (kept : Kept table next) {token : String} {uid : Int}
    (registered : table.Registered name token uid) : next.Registered name token uid := by
  obtain ⟨row, member, named, rfl, rfl⟩ := registered
  obtain ⟨later, member, sameName, sameToken, sameUid, _⟩ := kept row member
  exact ⟨later, member, sameName.trans named, sameToken, sameUid⟩

/-- A flag that is lowered stays lowered, because no statement raises it again. -/
theorem Kept.lowered (kept : Kept table next) (lowered : table.Lowered name) : next.Lowered name := by
  obtain ⟨row, member, named, down⟩ := lowered
  obtain ⟨later, member, sameName, _, _, stays⟩ := kept row member
  exact ⟨later, member, sameName.trans named, stays down⟩

/-- Keeping rows composes over the statements of a run. -/
theorem Kept.trans {last : AccountTable} (first : Kept table next) (second : Kept next last) :
    Kept table last := by
  intro row member
  obtain ⟨middle, member, name, token, uid, down⟩ := first row member
  obtain ⟨later, member, name', token', uid', down'⟩ := second middle member
  exact ⟨later, member, name'.trans name, token'.trans token, uid'.trans uid, down' ∘ down⟩

/-- Without a statement everything is kept. -/
theorem Kept.refl (table : AccountTable) : Kept table table :=
  fun row member => ⟨row, member, rfl, rfl, rfl, id⟩

/-- The update reaches the account whose uid fits. -/
theorem cleared_lowered {token : String} {uid : Int} (registered : table.Registered name token uid)
    (fits : 0 ≤ uid ∧ uid < 4294967296) : (table.clearSdkNewFlag (castU32 uid)).Lowered name := by
  obtain ⟨row, member, named, _, rfl⟩ := registered
  refine ⟨_, List.mem_map_of_mem member, (lower_flag_name ..).trans named, ?_⟩
  have same : row.uid = (castU32 row.uid).toNat := by
    have small : (row.uid % 4294967296).toNat < 4294967296 := by omega
    unfold castU32
    rw [UInt32.toNat_ofNat_of_lt' small]
    omega
  unfold lowerFlag
  rw [if_pos same]

end AccountTable

end CheshireLane
