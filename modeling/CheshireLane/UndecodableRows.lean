import CheshireLane.FailingSaves

/-!
# Rows that do not decode

A load reads the row and decodes it. Every error on the way is returned but one:
a row that does not decode is treated like a missing row. So the record of a
player is replaced by a fresh one, unless the fresh one cannot be written.
-/

namespace CheshireLane

namespace Store

variable {Text : Type}

/-- Which statements of a load fail. -/
structure LoadFailures where
  readFails : Bool
  createFails : Bool

/-- `load_or_create_player` including its row read: the database it leaves, and the
player unless there was an error. -/
def load (serde : Serde Text) (failures : LoadFailures) (store : Store Text) (uid : UInt32) :
    Store Text × Option PlayerInfo :=
  if failures.readFails then (store, none)
  else match store.loadOrCreatePlayer serde failures.createFails uid with
    | some (store, info) => (store, some info)
    | none => (store, none)

/-- The row is still there, and the player returned is the one it decodes to. -/
structure Preserved (serde : Serde Text) (uid : UInt32) (row : PlayerRow Text)
    (loaded : Store Text × Option PlayerInfo) : Prop where
  kept : loaded.1.rows uid = some row
  answer : ∀ info, loaded.2 = some info → serde.fromStr row.data = some info

/-- A load leaves the store alone and answers what the row decodes to, if at all, or
it finds nothing that decodes and saves a fresh player. -/
theorem load_cases (serde : Serde Text) (failures : LoadFailures) (store : Store Text)
    (uid : UInt32) :
    ((∃ answer, store.load serde failures uid = (store, answer) ∧
        ∀ info, answer = some info → store.loaded serde uid = some info) ∧
      ((store.loaded serde uid).isSome = true ∨ failures.readFails = true ∨
        failures.createFails = true)) ∨
      (store.loaded serde uid = none ∧ failures.readFails = false ∧ failures.createFails = false ∧
        store.load serde failures uid = (store.savePlayer serde uid {}, some {})) := by
  unfold load loadOrCreatePlayer
  cases read : failures.readFails with
  | true => exact .inl ⟨⟨none, rfl, by simp⟩, .inr (.inl rfl)⟩
  | false =>
    cases row : store.loaded serde uid with
    | some info => exact .inl ⟨⟨some info, rfl, fun _ same => same⟩, .inl rfl⟩
    | none =>
      cases create : failures.createFails with
      | true => exact .inl ⟨⟨none, rfl, by simp⟩, .inr (.inr rfl)⟩
      | false => exact .inr ⟨rfl, rfl, rfl, rfl⟩

/-- A row that is there is loaded as what it decodes to. -/
theorem loaded_row (serde : Serde Text) {store : Store Text} {uid : UInt32} {row : PlayerRow Text}
    (found : store.rows uid = some row) : store.loaded serde uid = serde.fromStr row.data := by
  rw [loaded, found, Option.bind_some]

/-- A load preserves every row, and creates a player only where there is no row, if and only if the
row decodes or a statement of the load fails.

A load either answers with what the row decodes to and changes nothing, or finds nothing that
decodes and saves a fresh player; the second is right only where there is no row. -/
theorem load_preserves_iff (serde : Serde Text) (failures : LoadFailures) (store : Store Text)
    (uid : UInt32) :
    (∀ row, store.rows uid = some row →
        Preserved serde uid row (store.load serde failures uid)) ∧
      ((store.load serde failures uid).1.rows uid ≠ store.rows uid → store.rows uid = none) ↔
    ∀ row, store.rows uid = some row → (serde.fromStr row.data).isSome = true ∨
      failures.readFails = true ∨ failures.createFails = true := by
  rcases store.load_cases serde failures uid with
    ⟨⟨answer, outcome, decoded⟩, harmless⟩ | ⟨unloaded, read, create, outcome⟩
  · rw [outcome]
    constructor
    · intro _ row found
      rwa [loaded_row serde found] at harmless
    · intro _
      refine ⟨fun row found => ⟨found, fun info answered => ?_⟩, fun changed => absurd rfl changed⟩
      rw [← loaded_row serde found]
      exact decoded info answered
  · -- The fresh player is saved, which is right only where there is no row.
    have overwritten : ∀ row, store.rows uid = some row →
        ¬ Preserved serde uid row (store.load serde failures uid) := by
      intro row found preserved
      have answer := preserved.answer {} (by rw [outcome])
      rw [← loaded_row serde found, unloaded] at answer
      cases answer
    constructor
    · rintro ⟨preserved, _⟩ row found
      exact absurd (preserved row found) (overwritten row found)
    · intro harmless
      have missing : store.rows uid = none := by
        refine Option.eq_none_iff_forall_ne_some.mpr fun row found => ?_
        have safe := harmless row found
        rw [← loaded_row serde found, unloaded, read, create] at safe
        simp at safe
      refine ⟨fun row found => ?_, fun _ => missing⟩
      rw [missing] at found
      cases found

/-- A row written before a field was added is replaced by that of a fresh player. -/
theorem undecodable_row_replaced :
    let serde : Serde (Option PlayerInfo) := ⟨some, id, fun _ => rfl⟩
    let store : Store (Option PlayerInfo) := .started fun _ => some ⟨0, none⟩
    ((store.load serde ⟨false, false⟩ 7).1.rows 7).map PlayerRow.data = some (some {}) ∧
      ¬ ((∀ row, store.rows 7 = some row →
          Preserved serde 7 row (store.load serde ⟨false, false⟩ 7)) ∧
        ((store.load serde ⟨false, false⟩ 7).1.rows 7 ≠ store.rows 7 → store.rows 7 = none)) := by
  intro serde store
  refine ⟨rfl, ?_⟩
  rintro ⟨preserved, _⟩
  have answer := (preserved ⟨0, none⟩ rfl).answer {} rfl
  cases answer

end Store

end CheshireLane
