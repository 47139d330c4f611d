import CheshireLane.ConcurrentCalls

/-!
# How a session comes into being

Several calls may load the same player at once. Until one of them inserts the
session no packet of the player is handled, so all of them hold the record the
row began with, or the default one that a row without a record is given. From the
insertion on the session stays, and only handled packets change it.
-/

namespace CheshireLane

variable {Text : Type} {game : Game} {serde : Serde Text}

/-- Where a call can be while its player has no session. `row` is what the row
decodes to now. -/
def Call.Opening (initial : PlayerInfo) (row : Option PlayerInfo) : Call → Prop
  | .checking _ | .loading _ => True
  | .creating _ => initial = {}
  | .inserting _ info => info = initial ∧ row = some initial
  | .handling _ | .saving _ => False

/-- A player without a session, whose row began with this record. -/
structure Unopened (serde : Serde Text) (uid : UInt32) (initial : PlayerInfo)
    (state : RuntimeState Text) : Prop where
  absent : state.store.players uid = none
  row : (state.store.loaded serde uid).getD {} = initial
  calls : ∀ (id : CallId) (call : Call), id.uid = uid → state.calls id = some call →
    call.Opening initial (state.store.loaded serde uid)

/-- The record a player begins with: that of the row, or the default one. -/
def initialRecord (serde : Serde Text) (rows : UInt32 → Option (PlayerRow Text)) (uid : UInt32) :
    PlayerInfo :=
  ((Store.started rows).loaded serde uid).getD {}

/-- At the start no session is open and no call is about to open one. -/
theorem unopened_started (serde : Serde Text) (rows : UInt32 → Option (PlayerRow Text))
    (uid : UInt32) : Unopened serde uid (initialRecord serde rows uid) (.started rows) where
  absent := rfl
  row := rfl
  calls := by
    intro id call _ flying
    cases flying

/-- The effects of a step that neither opens a session nor handles a packet. -/
def CallEffect.Preparing : CallEffect → Prop
  | .quiet | .fetched _ => True
  | .inserted _ | .handled _ _ | .notLoaded => False

/-- Whether a session is unopened depends on nothing of other players. -/
theorem Unopened.of_agree {uid : UInt32} {initial : PlayerInfo} {state next : RuntimeState Text}
    (before : Unopened serde uid initial state) (agree : RuntimeState.Agree uid next state) :
    Unopened serde uid initial next where
  absent := agree.1.1.trans before.absent
  row := by
    rw [agree.1.loaded serde]
    exact before.row
  calls := by
    intro id call own flying
    rw [agree.1.loaded serde]
    exact before.calls id call own ((agree.2 id own).symm.trans flying)

/-- A call of the player moves and the row keeps what it decodes to. -/
theorem Unopened.moved {uid : UInt32} {initial : PlayerInfo} {state : RuntimeState Text}
    (before : Unopened serde uid initial state) (id : CallId) (call : Call)
    (opening : call.Opening initial (state.store.loaded serde uid)) :
    Unopened serde uid initial (state.moved id state.store (some call)) where
  absent := before.absent
  row := before.row
  calls := by
    intro other moving own flying
    by_cases same : other = id
    · rw [same, RuntimeState.moved_calls] at flying
      obtain rfl := Option.some.inj flying
      exact opening
    · rw [RuntimeState.moved_others _ _ _ _ _ same] at flying
      exact before.calls other moving own flying

/-- A default row is written for a player whose row holds no record, or the default one. The row
holds that record then, and the call goes on to insert the same one. -/
theorem Unopened.created {uid : UInt32} {state : RuntimeState Text}
    (before : Unopened serde uid {} state) (id : CallId) (task : Task) :
    Unopened serde uid {} (state.moved id (state.store.savePlayer serde uid {})
      (some (.inserting task {}))) where
  absent := before.absent
  row := by simp
  calls := by
    intro other call own flying
    rw [RuntimeState.moved_store, Store.save_player_loaded]
    by_cases same : other = id
    · rw [same, RuntimeState.moved_calls] at flying
      obtain rfl := Option.some.inj flying
      exact ⟨rfl, rfl⟩
    · rw [RuntimeState.moved_others _ _ _ _ _ same] at flying
      have opening := before.calls other call own flying
      cases call with
      | inserting task info => exact ⟨opening.1, rfl⟩
      | _ => exact opening

/-- A step keeps a session unopened, or one of the player's calls opens it with
the record the row holds. One case per phase of the call. -/
theorem unopened_step {uid : UInt32} {initial : PlayerInfo} {state next : RuntimeState Text}
    {event : RuntimeEvent} {label : CallLabel} (before : Unopened serde uid initial state)
    (taken : (playerRuntime game serde).step state event = some (next, label)) :
    (Unopened serde uid initial next ∧ (label.id.uid = uid → label.effect.Preparing)) ∨
      label.id.uid = uid ∧ (∃ task, state.calls label.id = some (.inserting task initial)) ∧
        label.effect = .inserted initial ∧ next.store.players uid = some ⟨initial, false⟩ ∧
        next.store.loaded serde uid = some initial := by
  rcases player_step_cases uid taken with ⟨foreign, agree⟩ |
    ⟨id, task, rfl, rfl, _, rfl, rfl⟩ | ⟨id, now, call, rfl, rfl, flying, rfl, rfl⟩
  · left
    exact ⟨before.of_agree agree, fun own => absurd own foreign⟩
  · left
    exact ⟨before.moved id _ trivial, fun _ => trivial⟩
  · have opening := before.calls id call rfl flying
    cases call with
    | checking task =>
      left
      simp only [advanceCall, Store.containsKey, before.absent, Option.isSome_none,
        Bool.false_eq_true, ↓reduceIte]
      exact ⟨before.moved id _ trivial, fun _ => trivial⟩
    | loading task =>
      left
      have row := before.row
      cases decoded : state.store.loaded serde id.uid with
      | none =>
        rw [decoded] at row
        simp only [advanceCall, decoded]
        exact ⟨before.moved id _ row.symm, fun _ => trivial⟩
      | some info =>
        rw [decoded] at row
        change info = initial at row
        simp only [advanceCall, decoded]
        exact ⟨before.moved id _ ⟨row, by rw [decoded, row]⟩, fun _ => trivial⟩
    | creating task =>
      left
      obtain rfl : initial = {} := opening
      exact ⟨before.created id task, fun _ => trivial⟩
    | inserting task info =>
      right
      obtain ⟨rfl, row⟩ : info = initial ∧ _ := opening
      refine ⟨rfl, ⟨task, flying⟩, ?_, ?_, ?_⟩
      · simp [advanceCall, Store.containsKey, before.absent]
      · simp [advanceCall, Store.insert_session_absent _ _ _ before.absent]
      · simp [advanceCall, Store.insert_session_absent _ _ _ before.absent, row]
    | handling packet => exact opening.elim
    | saving info => exact opening.elim

/-- A step leaves a session that is present alone, unless it handles a packet of the player against
it. Steps of other players do not see the session. Of the player's own, the preparing ones check,
read and write rows, and an insertion finds the session there. -/
theorem opened_step {uid : UInt32} {session : PlayerSession} {state next : RuntimeState Text}
    {event : RuntimeEvent} {label : CallLabel} (present : state.store.players uid = some session)
    (taken : (playerRuntime game serde).step state event = some (next, label)) :
    (next.store.players uid = some session ∧ (label.id.uid = uid → label.effect.Preparing)) ∨
      label.id.uid = uid ∧ ∃ now packet, event = .advance label.id now ∧
        state.calls label.id = some (.handling packet) ∧
        next.store.players uid = some ⟨afterPacket game uid session.info ⟨now, packet⟩, false⟩ ∧
        label.effect = .handled ⟨now, packet⟩
          (handlePlayerPacket game uid now session.info session.dirty packet).out := by
  rcases player_step_cases uid taken with ⟨foreign, agree⟩ |
    ⟨id, task, rfl, rfl, _, rfl, rfl⟩ | ⟨id, now, call, rfl, rfl, flying, rfl, rfl⟩
  · left
    exact ⟨agree.1.1.trans present, fun own => absurd own foreign⟩
  · left
    exact ⟨present, fun _ => trivial⟩
  · cases call with
    | checking task =>
      left
      simp only [advanceCall, Store.containsKey, present, Option.isSome_some, ↓reduceIte]
      exact ⟨present, fun _ => trivial⟩
    | loading task =>
      left
      simp only [advanceCall]
      split <;> exact ⟨present, fun _ => trivial⟩
    | creating task =>
      left
      exact ⟨present, fun _ => trivial⟩
    | inserting task info =>
      left
      simp only [advanceCall, Store.insert_session_present _ _ info session present,
        Store.containsKey, present, Option.isSome_some, ↓reduceIte]
      exact ⟨present, fun _ => trivial⟩
    | handling packet =>
      right
      refine ⟨rfl, now, packet, rfl, flying, ?_, ?_⟩
      · simp only [advanceCall, present, RuntimeState.moved_store, Store.keepHandled,
          Store.set_session_players]
        rw [(handle_ignores_flag game id.uid now session.info session.dirty false packet).1]
        rfl
      · simp only [advanceCall, present]
    | saving info =>
      left
      exact ⟨present, fun _ => trivial⟩

/-- A call that meets no session does not return before there is one. Every other step of it leads
closer to the insert. -/
theorem opening_returns {uid : UInt32} {initial : PlayerInfo} {row : Option PlayerInfo} (now : Clock)
    {store : Store Text} {call : Call} (absent : store.players uid = none)
    (opening : call.Opening initial row)
    (returned : (advanceCall game serde uid now store call).call = none) :
    ((advanceCall game serde uid now store call).store.players uid).isSome = true := by
  cases call with
  | checking task => simp [advanceCall, Store.containsKey, absent] at returned
  | loading task =>
    simp only [advanceCall] at returned
    split at returned <;> cases returned
  | creating task => cases returned
  | inserting task info =>
    simp only [advanceCall, Store.insert_session_absent _ _ info absent, Store.set_session_players,
      Option.isSome_some]
  | handling packet => exact opening.elim
  | saving info => exact opening.elim

/-- A player without a session, or with one that is not marked. -/
def Settled (serde : Serde Text) (uid : UInt32) (initial : PlayerInfo)
    (state : RuntimeState Text) : Prop :=
  Unopened serde uid initial state ∨ ∃ info, state.store.players uid = some ⟨info, false⟩

/-- Between two steps no session is marked: the flag is lowered where it is raised. -/
theorem settled_step {uid : UInt32} {initial : PlayerInfo} {state next : RuntimeState Text}
    {event : RuntimeEvent} {label : CallLabel} (settled : Settled serde uid initial state)
    (taken : (playerRuntime game serde).step state event = some (next, label)) :
    Settled serde uid initial next := by
  rcases settled with unopened | ⟨info, present⟩
  · rcases unopened_step unopened taken with ⟨after, _⟩ | ⟨_, _, _, present, _⟩
    · exact .inl after
    · exact .inr ⟨initial, present⟩
  · rcases opened_step present taken with ⟨kept, _⟩ | ⟨_, _, _, _, _, after, _⟩
    · exact .inr ⟨info, kept⟩
    · exact .inr ⟨_, after⟩

end CheshireLane
