import CheshireLane.PlayerStore
import CheshireLane.ReachablePlayers

/-!
# Saves that fail

Packets of one player are handled one after another, and any write of a row may
fail. The dirty flag is lowered before the save is attempted, and a failed save
does not raise it again. So a failed save loses the change it was to store,
unless the packet changed nothing.
-/

namespace CheshireLane

variable {Text : Type}

/-- A packet and which of the two writes on its way fail: that of a fresh row and
that of the changed record. -/
structure Attempt extends Incoming where
  createFails : Bool
  saveFails : Bool

namespace Store

/-- `load_or_create_player`. -/
def loadOrCreatePlayer (serde : Serde Text) (fails : Bool) (store : Store Text) (uid : UInt32) :
    Option (Store Text × PlayerInfo) :=
  match store.loaded serde uid with
  | some info => some (store, info)
  | none => if fails then none else some (store.savePlayer serde uid {}, {})

/-- `ensure_player` in one piece, with a load that may fail. -/
def ensurePlayer (serde : Serde Text) (fails : Bool) (store : Store Text) (uid : UInt32) :
    Option (Store Text) :=
  if store.containsKey uid then some store
  else (store.loadOrCreatePlayer serde fails uid).map fun (store, info) =>
    store.insertSession uid info

/-- `PlayerRuntime::handle_packet`, run to completion. Answers are missing when
it returns an error. -/
def handlePacket (game : Game) (serde : Serde Text) (uid : UInt32) (store : Store Text)
    (attempt : Attempt) : Store Text × Option (List Packet) :=
  match store.ensurePlayer serde attempt.createFails uid with
  | none => (store, none)
  | some store =>
    match store.players uid with
    | none => (store, none)
    | some session =>
      let result := handlePlayerPacket game uid attempt.now session.info session.dirty attempt.packet
      let store := store.keepHandled uid result
      match toSave result with
      | none => (store, some result.out)
      | some info =>
        if attempt.saveFails then (store, none)
        else (store.savePlayer serde uid info, some result.out)

/-- The store in front of each call. -/
def calls (game : Game) (serde : Serde Text) (uid : UInt32) :
    Store Text → List Attempt → List (Store Text × Attempt)
  | _, [] => []
  | store, attempt :: later =>
    (store, attempt) :: calls game serde uid (store.handlePacket game serde uid attempt).1 later

/-- The store before the first call, between two calls and behind the last one. -/
def between (game : Game) (serde : Serde Text) (uid : UInt32) :
    Store Text → List Attempt → List (Store Text)
  | store, [] => [store]
  | store, attempt :: later =>
    store :: between game serde uid (store.handlePacket game serde uid attempt).1 later

/-- The record the next packet is handled against. -/
def current (serde : Serde Text) (store : Store Text) (uid : UInt32) : PlayerInfo :=
  match store.players uid with
  | some session => session.info
  | none => (store.loaded serde uid).getD {}

/-- A record that the row lacks is marked for the next save. -/
def Recoverable (serde : Serde Text) (uid : UInt32) (store : Store Text) : Prop :=
  ∀ session, store.players uid = some session → store.loaded serde uid ≠ some session.info →
    session.dirty = true

/-- No session is loaded, no row decodes, and the fresh row cannot be written. -/
def Aborts (serde : Serde Text) (uid : UInt32) (store : Store Text) (attempt : Attempt) : Prop :=
  store.players uid = none ∧ store.loaded serde uid = none ∧ attempt.createFails = true

/-- If the save fails, the packet has not changed the record. -/
def Kept (game : Game) (serde : Serde Text) (uid : UInt32) (store : Store Text)
    (attempt : Attempt) : Prop :=
  attempt.saveFails = true → ¬ Aborts serde uid store attempt →
    afterPacket game uid (store.current serde uid) attempt.toIncoming = store.current serde uid

/-- The row holds the record in memory, and nothing is marked. -/
def Stored (serde : Serde Text) (uid : UInt32) (store : Store Text) : Prop :=
  ∀ session, store.players uid = some session →
    store.loaded serde uid = some session.info ∧ session.dirty = false

/-- At the start no session is in memory, so none differs from its row. -/
theorem stored_started (serde : Serde Text) (uid : UInt32)
    (rows : UInt32 → Option (PlayerRow Text)) : Stored serde uid (started rows) := by
  intro session present
  simp at present

/-- A session that is as its row is found again in it. -/
theorem stored_recoverable {serde : Serde Text} {uid : UInt32} {store : Store Text}
    (stored : Stored serde uid store) : Recoverable serde uid store :=
  fun session present lost => absurd (stored session present).1 lost

/-- `ensure_player` aborts, or it leaves a stored session with the current record. It aborts only if
there is no session, no row that decodes, and the row it creates cannot be written. -/
theorem ensure_player_cases (serde : Serde Text) (uid : UInt32) (store : Store Text)
    (attempt : Attempt) (stored : Stored serde uid store) :
    (Aborts serde uid store attempt ∧
        store.ensurePlayer serde attempt.createFails uid = none) ∨
      ¬ Aborts serde uid store attempt ∧
        ∃ ready, store.ensurePlayer serde attempt.createFails uid = some ready ∧
          ready.players uid = some ⟨store.current serde uid, false⟩ ∧
          ready.loaded serde uid = some (store.current serde uid) := by
  cases present : store.players uid with
  | some session =>
    right
    have settled := stored session present
    refine ⟨fun aborts => ?_, store, ?_, ?_, ?_⟩
    · rw [aborts.1] at present
      cases present
    · simp [ensurePlayer, containsKey, present]
    · simp only [current, present, ← settled.2]
    · simp only [current, present, settled.1]
  | none =>
    cases row : store.loaded serde uid with
    | some info =>
      right
      refine ⟨fun aborts => ?_, store.insertSession uid info, ?_, ?_, ?_⟩
      · rw [aborts.2.1] at row
        cases row
      · simp [ensurePlayer, containsKey, present, loadOrCreatePlayer, row]
      · simp [insert_session_absent store uid info present, current, present, row]
      · simp [insert_session_absent store uid info present, current, present, row]
    | none =>
      cases fails : attempt.createFails with
      | true =>
        left
        exact ⟨⟨present, row, fails⟩, by
          simp [ensurePlayer, containsKey, present, loadOrCreatePlayer, row]⟩
      | false =>
        right
        have absent : (store.savePlayer serde uid {}).players uid = none := present
        refine ⟨fun aborts => ?_, (store.savePlayer serde uid {}).insertSession uid {}, ?_, ?_, ?_⟩
        · rw [aborts.2.2] at fails
          cases fails
        · simp [ensurePlayer, containsKey, present, loadOrCreatePlayer, row]
        · simp [insert_session_absent _ uid {} absent, current, present, row]
        · simp [insert_session_absent _ uid {} absent, current, present, row]

/-- What a call on a stored session leaves: after an aborted call the store is as
it was. Otherwise the session holds the record behind the packet, and the row
holds it too unless the save failed. -/
theorem handle_packet_cases (game : Game) (serde : Serde Text) (uid : UInt32) (store : Store Text)
    (attempt : Attempt) (stored : Stored serde uid store) :
    (Aborts serde uid store attempt ∧ (store.handlePacket game serde uid attempt).1 = store) ∨
      ¬ Aborts serde uid store attempt ∧
        (store.handlePacket game serde uid attempt).1.players uid =
          some ⟨afterPacket game uid (store.current serde uid) attempt.toIncoming, false⟩ ∧
        (store.handlePacket game serde uid attempt).1.loaded serde uid =
          some (if attempt.saveFails then store.current serde uid
            else afterPacket game uid (store.current serde uid) attempt.toIncoming) := by
  rcases ensure_player_cases serde uid store attempt stored with
    ⟨aborts, failed⟩ | ⟨goes, ready, ensured, present, row⟩
  · left
    exact ⟨aborts, by simp [handlePacket, failed]⟩
  · right
    refine ⟨goes, ?_⟩
    cases raised : (handlePlayerPacket game uid attempt.now (store.current serde uid) false
        attempt.packet).dirty with
    | false =>
      have unchanged : afterPacket game uid (store.current serde uid) attempt.toIncoming =
          store.current serde uid := handle_clean raised
      simp only [handlePacket, ensured, present, toSave, raised, Bool.false_eq_true, ↓reduceIte,
        keepHandled, set_session_players, set_session_loaded, row]
      refine ⟨rfl, ?_⟩
      rw [unchanged, ite_self]
    | true =>
      cases fails : attempt.saveFails with
      | true =>
        simp only [handlePacket, ensured, present, toSave, raised, ↓reduceIte, fails, keepHandled,
          set_session_players, set_session_loaded, row]
        exact ⟨rfl, trivial⟩
      | false =>
        simp only [handlePacket, ensured, present, toSave, raised, ↓reduceIte, fails,
          Bool.false_eq_true, keepHandled, save_player_players, set_session_players,
          save_player_loaded]
        exact ⟨rfl, rfl⟩

/-- A call that keeps its change leaves the session stored. -/
theorem handle_packet_stored (game : Game) (serde : Serde Text) (uid : UInt32) (store : Store Text)
    (attempt : Attempt) (stored : Stored serde uid store)
    (kept : Kept game serde uid store attempt) :
    Stored serde uid (store.handlePacket game serde uid attempt).1 := by
  rcases handle_packet_cases game serde uid store attempt stored with
    ⟨_, unchanged⟩ | ⟨goes, present, row⟩
  · rw [unchanged]
    exact stored
  · intro session found
    obtain rfl := Option.some.inj (present.symm.trans found)
    refine ⟨?_, rfl⟩
    rw [row]
    cases fails : attempt.saveFails with
    | true => rw [kept fails goes, ite_self]
    | false => rfl

/-- A call that does not keep its change leaves a loss that is not marked. The session holds the
change and the row does not, but the flag was lowered before the save failed. -/
theorem handle_packet_lost (game : Game) (serde : Serde Text) (uid : UInt32) (store : Store Text)
    (attempt : Attempt) (stored : Stored serde uid store)
    (lost : ¬ Kept game serde uid store attempt) :
    ¬ Recoverable serde uid (store.handlePacket game serde uid attempt).1 := by
  have facts : attempt.saveFails = true ∧ ¬ Aborts serde uid store attempt ∧
      afterPacket game uid (store.current serde uid) attempt.toIncoming ≠
        store.current serde uid := by
    simpa only [Kept, Classical.not_imp] using lost
  obtain ⟨fails, goes, changed⟩ := facts
  rcases handle_packet_cases game serde uid store attempt stored with
    ⟨aborts, _⟩ | ⟨_, present, row⟩
  · exact absurd aborts goes
  · intro recoverable
    rw [fails, if_pos rfl] at row
    have marked := recoverable _ present (by
      rw [row]
      intro same
      exact changed (Option.some.inj same).symm)
    cases marked

/-- A marked session is stored by the next call whose save succeeds, whatever its packet does. No
packet lowers the flag, so what is saved is the record behind the packet, with every change that
waited. -/
theorem marked_saved_next (game : Game) (serde : Serde Text) (uid : UInt32) (store : Store Text)
    (session : PlayerSession) (attempt : Attempt) (present : store.players uid = some session)
    (marked : session.dirty = true) (saves : attempt.saveFails = false) :
    (store.handlePacket game serde uid attempt).1.players uid =
        some ⟨afterPacket game uid session.info attempt.toIncoming, false⟩ ∧
      (store.handlePacket game serde uid attempt).1.loaded serde uid =
        some (afterPacket game uid session.info attempt.toIncoming) := by
  have ensured : store.ensurePlayer serde attempt.createFails uid = some store := by
    simp [ensurePlayer, containsKey, present]
  have raised : (handlePlayerPacket game uid attempt.now session.info true attempt.packet).dirty =
      true := handle_raised game uid attempt.now session.info attempt.packet
  have same : (handlePlayerPacket game uid attempt.now session.info true attempt.packet).player =
      afterPacket game uid session.info attempt.toIncoming :=
    (handle_ignores_flag game uid attempt.now session.info true false attempt.packet).1
  simp only [handlePacket, ensured, present, marked, toSave, raised, ↓reduceIte, saves,
    Bool.false_eq_true, keepHandled, save_player_players, set_session_players,
    save_player_loaded, same, and_self]

/-- Over every run from a started server: between all calls a record that its row
lacks is marked, exactly when no call's save fails on a changed record. A record
that is marked is stored by the next call whose save succeeds.

Induct on the calls. As long as every change is kept, the row holds the record in
memory; the first call that does not keep its change leaves an unmarked loss. -/
theorem recoverable_iff (game : Game) (serde : Serde Text) (uid : UInt32)
    (rows : UInt32 → Option (PlayerRow Text)) (attempts : List Attempt) :
    ((∀ store ∈ between game serde uid (started rows) attempts, Recoverable serde uid store) ↔
        ∀ call ∈ calls game serde uid (started rows) attempts,
          Kept game serde uid call.1 call.2) ∧
      ∀ (store : Store Text) (session : PlayerSession) (attempt : Attempt),
        store.players uid = some session → session.dirty = true → attempt.saveFails = false →
          ∃ info, (store.handlePacket game serde uid attempt).1.players uid = some ⟨info, false⟩ ∧
            (store.handlePacket game serde uid attempt).1.loaded serde uid = some info := by
  constructor
  · have stored := stored_started serde uid rows
    generalize started rows = store at stored
    induction attempts generalizing store with
    | nil =>
      apply iff_of_true
      · intro other member
        obtain rfl := List.mem_singleton.mp member
        exact stored_recoverable stored
      · intro call member
        simp [calls] at member
    | cons attempt later inductionHypothesis =>
      simp only [between, calls, List.forall_mem_cons]
      by_cases kept : Kept game serde uid store attempt
      · have next := handle_packet_stored game serde uid store attempt stored kept
        have rest := inductionHypothesis _ next
        constructor
        · rintro ⟨_, others⟩
          exact ⟨kept, rest.mp others⟩
        · rintro ⟨_, others⟩
          exact ⟨stored_recoverable stored, rest.mpr others⟩
      · have lost := handle_packet_lost game serde uid store attempt stored kept
        refine iff_of_false ?_ fun all => kept all.1
        rintro ⟨_, others⟩
        cases later with
        | nil => exact lost (others _ List.mem_cons_self)
        | cons _ _ => exact lost (others _ List.mem_cons_self)
  · intro store session attempt present marked saves
    exact ⟨_, marked_saved_next game serde uid store session attempt present marked saves⟩

/-- A marked record is stored behind a packet that changes nothing. -/
theorem recoverable_iff_marked :
    let serde : Serde PlayerInfo := ⟨id, some, fun _ => rfl⟩
    let game : Game := ⟨⟨⟨[], by decide⟩, none, none, none⟩, Decoder.deaf, ""⟩
    let store : Store PlayerInfo := ⟨fun _ => some ⟨{ storyList := [7] }, true⟩, fun _ => none⟩
    let idle : Attempt := ⟨⟨fun _ => 0, ⟨5, 0, 10100, 1, [], []⟩⟩, false, false⟩
    ∃ info, (store.handlePacket game serde 1 idle).1.players 1 = some ⟨info, false⟩ ∧
      (store.handlePacket game serde 1 idle).1.loaded serde 1 = some info :=
  (recoverable_iff _ _ 1 (fun _ => none) []).2 _ _ _ rfl rfl rfl

/-- A story is added and its save fails: the row keeps the fresh record, and the
session is not marked. -/
theorem failed_save_loses_story :
    let decoder : Decoder := { Decoder.deaf with
      cs11017 := fun payload => if payload = [8, 7] then some ⟨7⟩ else none }
    let game : Game := ⟨⟨⟨[], by decide⟩, none, none, none⟩, decoder, ""⟩
    let serde : Serde PlayerInfo := ⟨id, some, fun _ => rfl⟩
    let story : Attempt := ⟨⟨fun _ => 0, ⟨7, 0, 11017, 1, [8, 7], []⟩⟩, false, true⟩
    ¬ ∀ store ∈ between game serde 1 (started fun _ => none) [story], Recoverable serde 1 store := by
  intro decoder game serde story recoverable
  have lost : ¬ Kept game serde 1 (started fun _ => none) story := by
    intro kept
    have unchanged := kept rfl (by simp [Aborts, story])
    have stories := congrArg (fun player => player.storyList) unchanged
    exact absurd stories (by decide)
  exact handle_packet_lost game serde 1 _ story (stored_started serde 1 _) lost
    (recoverable _ (List.mem_cons_of_mem _ List.mem_cons_self))

end Store

end CheshireLane
