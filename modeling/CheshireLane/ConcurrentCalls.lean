import CheshireLane.Library.Transitions
import CheshireLane.PlayerStore
import CheshireLane.ReachablePlayers

/-!
# Concurrent calls of the player runtime

Any number of calls of `ensure_player` and `handle_packet` are in flight, each
interrupted in front of its next atomic step: a section under the lock of the
session map, a row read or a row write. An event starts a call or lets one take
that step. Database steps succeed here.

A step reads and writes one player only, the owner of the event.
-/

namespace CheshireLane

open Transitions

variable {Text : Type}

/-- A call is known by its player and a number. -/
structure CallId where
  uid : UInt32
  serial : Nat
  deriving DecidableEq

/-- What a call does once its player is loaded. -/
inductive Task where
  | ensure
  | handle (packet : Packet)

/-- The step in front of which a call was interrupted. The first four are those
of `ensure_player`, which `handle_packet` goes through as well. -/
inductive Call where
  | checking (task : Task)
  | loading (task : Task)
  | creating (task : Task)
  | inserting (task : Task) (info : PlayerInfo)
  | handling (packet : Packet)
  | saving (info : PlayerInfo)

/-- `ensure_player` returns. -/
def Task.resumed : Task → Option Call
  | .ensure => none
  | .handle packet => some (.handling packet)

/-- What a step did besides moving its call. -/
inductive CallEffect where
  | quiet
  | fetched (info : PlayerInfo)
  | inserted (info : PlayerInfo)
  | handled (incoming : Incoming) (out : List Packet)
  | notLoaded

/-- What a step leaves: the store, the call's next step unless it returned, and
what was done. -/
structure Advanced (Text : Type) where
  store : Store Text
  call : Option Call
  effect : CallEffect

/-- One atomic step of a call of player `uid`. The points between the steps are the awaits of
`ensure_player` and `handle_packet` and the ends of their lock sections; what a step did is told by
its effect. -/
def advanceCall (game : Game) (serde : Serde Text) (uid : UInt32) (now : Clock)
    (store : Store Text) : Call → Advanced Text
  | .checking task =>
    if store.containsKey uid then ⟨store, task.resumed, .quiet⟩
    else ⟨store, some (.loading task), .quiet⟩
  | .loading task =>
    match store.loaded serde uid with
    | some info => ⟨store, some (.inserting task info), .fetched info⟩
    | none => ⟨store, some (.creating task), .quiet⟩
  | .creating task =>
    ⟨store.savePlayer serde uid {}, some (.inserting task {}), .fetched {}⟩
  | .inserting task info =>
    ⟨store.insertSession uid info, task.resumed,
      if store.containsKey uid then .quiet else .inserted info⟩
  | .handling packet =>
    match store.players uid with
    | none => ⟨store, none, .notLoaded⟩
    | some session =>
      let result := handlePlayerPacket game uid now session.info session.dirty packet
      ⟨store.keepHandled uid result, (Store.toSave result).map .saving,
        .handled ⟨now, packet⟩ result.out⟩
  | .saving info => ⟨store.savePlayer serde uid info, none, .quiet⟩

/-- The store that all calls share, and the calls in progress. -/
structure RuntimeState (Text : Type) where
  store : Store Text
  calls : CallId → Option Call

namespace RuntimeState

/-- A started server without calls. -/
def started (rows : UInt32 → Option (PlayerRow Text)) : RuntimeState Text :=
  ⟨Store.started rows, fun _ => none⟩

/-- No call is in flight. -/
def Quiescent (state : RuntimeState Text) : Prop := ∀ id, state.calls id = none

/-- One call has moved, or has returned, and left this store. -/
def moved (state : RuntimeState Text) (id : CallId) (store : Store Text) (call : Option Call) :
    RuntimeState Text :=
  ⟨store, Function.update state.calls id call⟩

/-- The store is what the step has made of it. -/
@[simp] theorem moved_store (state : RuntimeState Text) (id : CallId) (store : Store Text)
    (call : Option Call) : (state.moved id store call).store = store := rfl

/-- The call that moved is where it moved to. -/
@[simp] theorem moved_calls (state : RuntimeState Text) (id : CallId) (store : Store Text)
    (call : Option Call) : (state.moved id store call).calls id = call := Function.update_self ..

/-- All other calls stay. -/
@[simp] theorem moved_others (state : RuntimeState Text) (id other : CallId) (store : Store Text)
    (call : Option Call) (different : other ≠ id) :
    (state.moved id store call).calls other = state.calls other :=
  Function.update_of_ne different ..

end RuntimeState

/-- A call starts, or takes its next step at this clock. -/
inductive RuntimeEvent where
  | start (id : CallId) (task : Task)
  | advance (id : CallId) (now : Clock)

/-- The call an event belongs to. -/
def RuntimeEvent.id : RuntimeEvent → CallId
  | .start id _ => id
  | .advance id _ => id

/-- Which call did what. -/
structure CallLabel where
  id : CallId
  effect : CallEffect

/-- A call id is started while it is free and advances while it is in flight. -/
def playerRuntime (game : Game) (serde : Serde Text) :
    Machine (RuntimeState Text) RuntimeEvent CallLabel where
  step state event :=
    match event, state.calls event.id with
    | .start id task, none =>
      some (state.moved id state.store (some (.checking task)), ⟨id, .quiet⟩)
    | .advance id now, some call =>
      let advanced := advanceCall game serde id.uid now state.store call
      some (state.moved id advanced.store advanced.call, ⟨id, advanced.effect⟩)
    | _, _ => none

variable {game : Game} {serde : Serde Text}

/-- What a step can be. A call starts under a free id, or a call in flight takes its next step; all
invariants of the runtime are derived from these two cases. -/
theorem runtime_step_cases {state next : RuntimeState Text} {event : RuntimeEvent}
    {label : CallLabel} (taken : (playerRuntime game serde).step state event = some (next, label)) :
    (∃ id task, event = .start id task ∧ state.calls id = none ∧ label = ⟨id, .quiet⟩ ∧
        next = state.moved id state.store (some (.checking task))) ∨
      ∃ id now call, event = .advance id now ∧ state.calls id = some call ∧
        label = ⟨id, (advanceCall game serde id.uid now state.store call).effect⟩ ∧
        next = state.moved id (advanceCall game serde id.uid now state.store call).store
          (advanceCall game serde id.uid now state.store call).call := by
  cases event with
  | start id task =>
    left
    simp only [playerRuntime, RuntimeEvent.id] at taken
    cases free : state.calls id with
    | some call => simp [free] at taken
    | none =>
      simp only [free, Option.some.injEq, Prod.mk.injEq] at taken
      exact ⟨id, task, rfl, free, taken.2.symm, taken.1.symm⟩
  | advance id now =>
    right
    simp only [playerRuntime, RuntimeEvent.id] at taken
    cases flying : state.calls id with
    | none => simp [flying] at taken
    | some call =>
      simp only [flying, Option.some.injEq, Prod.mk.injEq] at taken
      exact ⟨id, now, call, rfl, flying, taken.2.symm, taken.1.symm⟩

/-- A call in flight takes the step it was interrupted in front of. -/
theorem advance_taken {state next : RuntimeState Text} {id : CallId} {now : Clock} {call : Call}
    {label : CallLabel} (flying : state.calls id = some call)
    (taken : (playerRuntime game serde).step state (.advance id now) = some (next, label)) :
    next = state.moved id (advanceCall game serde id.uid now state.store call).store
      (advanceCall game serde id.uid now state.store call).call := by
  simp only [playerRuntime, RuntimeEvent.id, flying, Option.some.injEq, Prod.mk.injEq] at taken
  exact taken.1.symm

/-- Two stores hold the same session and the same row of a player. -/
def Store.Agree (uid : UInt32) (left right : Store Text) : Prop :=
  left.players uid = right.players uid ∧ left.rows uid = right.rows uid

/-- Stores that agree on a player agree on whether it has a session. -/
theorem Store.Agree.containsKey {uid : UInt32} {left right : Store Text}
    (agree : Store.Agree uid left right) : left.containsKey uid = right.containsKey uid := by
  rw [Store.containsKey, agree.1, Store.containsKey]

/-- Stores that agree on a player load the same record. -/
theorem Store.Agree.loaded {uid : UInt32} {left right : Store Text}
    (agree : Store.Agree uid left right) (serde : Serde Text) :
    left.loaded serde uid = right.loaded serde uid := by
  rw [Store.loaded, agree.2, Store.loaded]

/-- Both get the session. -/
theorem Store.Agree.setSession {uid : UInt32} {left right : Store Text}
    (agree : Store.Agree uid left right) (session : PlayerSession) :
    Store.Agree uid (left.setSession uid session) (right.setSession uid session) :=
  ⟨by simp, agree.2⟩

/-- Both get the row, made of the same record. -/
theorem Store.Agree.savePlayer {uid : UInt32} {left right : Store Text}
    (agree : Store.Agree uid left right) (serde : Serde Text) (info : PlayerInfo) :
    Store.Agree uid (left.savePlayer serde uid info) (right.savePlayer serde uid info) :=
  ⟨agree.1, by simp [Store.savePlayer, agree.2]⟩

/-- Both insert, or both keep the session that is there. -/
theorem Store.Agree.insertSession {uid : UInt32} {left right : Store Text}
    (agree : Store.Agree uid left right) (info : PlayerInfo) :
    Store.Agree uid (left.insertSession uid info) (right.insertSession uid info) := by
  unfold Store.insertSession
  rw [agree.containsKey]
  split
  · exact agree
  · exact agree.setSession _

/-- A step of a call sees and changes its own player only. Each statement of a call reads and writes
the session and the row of its player, which agree in both states. -/
theorem advance_local (game : Game) (serde : Serde Text) (uid : UInt32) (now : Clock)
    (left right : Store Text) (call : Call) (agree : Store.Agree uid left right) :
    (advanceCall game serde uid now left call).call =
        (advanceCall game serde uid now right call).call ∧
      (advanceCall game serde uid now left call).effect =
        (advanceCall game serde uid now right call).effect ∧
      Store.Agree uid (advanceCall game serde uid now left call).store
        (advanceCall game serde uid now right call).store := by
  cases call with
  | checking task =>
    simp only [advanceCall, agree.containsKey]
    split <;> exact ⟨rfl, rfl, agree⟩
  | loading task =>
    simp only [advanceCall, agree.loaded serde]
    split <;> exact ⟨rfl, rfl, agree⟩
  | creating task => exact ⟨rfl, rfl, agree.savePlayer serde {}⟩
  | inserting task info =>
    simp only [advanceCall, agree.containsKey, true_and]
    exact agree.insertSession info
  | handling packet =>
    simp only [advanceCall, agree.1]
    split
    · exact ⟨rfl, rfl, agree⟩
    · exact ⟨rfl, rfl, agree.setSession _⟩
  | saving info => exact ⟨rfl, rfl, agree.savePlayer serde info⟩

/-- A step of a call leaves every other player alone. Sessions and rows are kept per player, so each
statement has a frame lemma of its own. -/
theorem advance_frame (game : Game) (serde : Serde Text) (uid other : UInt32) (now : Clock)
    (store : Store Text) (call : Call) (different : other ≠ uid) :
    Store.Agree other (advanceCall game serde uid now store call).store store := by
  cases call with
  | checking task =>
    simp only [advanceCall]
    split <;> exact ⟨rfl, rfl⟩
  | loading task =>
    simp only [advanceCall]
    split <;> exact ⟨rfl, rfl⟩
  | creating task =>
    exact ⟨rfl, Store.save_player_others serde store uid other {} different⟩
  | inserting task info =>
    exact ⟨Store.insert_session_others store uid other info different,
      congrFun (Store.insert_session_rows store uid info) other⟩
  | handling packet =>
    simp only [advanceCall]
    split
    · exact ⟨rfl, rfl⟩
    · exact ⟨Store.set_session_others store uid other _ different, rfl⟩
  | saving info =>
    exact ⟨rfl, Store.save_player_others serde store uid other info different⟩

/-- Two states hold the same session, the same row and the same calls of a player. -/
def RuntimeState.Agree (uid : UInt32) (left right : RuntimeState Text) : Prop :=
  Store.Agree uid left.store right.store ∧
    ∀ id : CallId, id.uid = uid → left.calls id = right.calls id

/-- Agreement holds both ways. -/
theorem RuntimeState.Agree.symm {uid : UInt32} {left right : RuntimeState Text}
    (agree : RuntimeState.Agree uid left right) : RuntimeState.Agree uid right left :=
  ⟨⟨agree.1.1.symm, agree.1.2.symm⟩, fun id own => (agree.2 id own).symm⟩

/-- Agreement goes on over a third state. -/
theorem RuntimeState.Agree.trans {uid : UInt32} {left middle right : RuntimeState Text}
    (first : RuntimeState.Agree uid left middle) (second : RuntimeState.Agree uid middle right) :
    RuntimeState.Agree uid left right :=
  ⟨⟨first.1.1.trans second.1.1, first.1.2.trans second.1.2⟩,
    fun id own => (first.2 id own).trans (second.2 id own)⟩

/-- Both make the same move and agree again. -/
theorem RuntimeState.Agree.moved {uid : UInt32} {left right : RuntimeState Text}
    {leftStore rightStore : Store Text} (agree : RuntimeState.Agree uid left right)
    (stores : Store.Agree uid leftStore rightStore) (id : CallId) (call : Option Call) :
    RuntimeState.Agree uid (left.moved id leftStore call) (right.moved id rightStore call) := by
  refine ⟨stores, fun other own => ?_⟩
  by_cases same : other = id
  · rw [same, RuntimeState.moved_calls, RuntimeState.moved_calls]
  · rw [RuntimeState.moved_others _ _ _ _ _ same, RuntimeState.moved_others _ _ _ _ _ same]
    exact agree.2 other own

/-- A step leaves every player alone but its own. -/
theorem step_frame {state next : RuntimeState Text} {event : RuntimeEvent} {label : CallLabel}
    (uid : UInt32) (taken : (playerRuntime game serde).step state event = some (next, label))
    (foreign : event.id.uid ≠ uid) :
    label.id = event.id ∧ RuntimeState.Agree uid next state := by
  have elsewhere : ∀ id : CallId, id.uid = uid → id ≠ event.id := by
    rintro id rfl rfl
    exact foreign rfl
  rcases runtime_step_cases taken with
    ⟨id, task, rfl, _, rfl, rfl⟩ | ⟨id, now, call, rfl, _, rfl, rfl⟩
  · refine ⟨rfl, ⟨rfl, rfl⟩, fun other own => ?_⟩
    exact RuntimeState.moved_others _ _ _ _ _ (elsewhere other own)
  · refine ⟨rfl, advance_frame game serde id.uid uid now _ call foreign.symm, fun other own => ?_⟩
    exact RuntimeState.moved_others _ _ _ _ _ (elsewhere other own)

/-- A step, seen from one player: that of another player's call, the start of a
call of its own, or a step of one. -/
theorem player_step_cases (uid : UInt32) {state next : RuntimeState Text} {event : RuntimeEvent}
    {label : CallLabel} (taken : (playerRuntime game serde).step state event = some (next, label)) :
    (label.id.uid ≠ uid ∧ RuntimeState.Agree uid next state) ∨
      (∃ id task, event = .start id task ∧ id.uid = uid ∧ state.calls id = none ∧
        label = ⟨id, .quiet⟩ ∧ next = state.moved id state.store (some (.checking task))) ∨
      ∃ id now call, event = .advance id now ∧ id.uid = uid ∧ state.calls id = some call ∧
        label = ⟨id, (advanceCall game serde uid now state.store call).effect⟩ ∧
        next = state.moved id (advanceCall game serde uid now state.store call).store
          (advanceCall game serde uid now state.store call).call := by
  by_cases own : event.id.uid = uid
  · right
    rcases runtime_step_cases taken with
      ⟨id, task, rfl, free, rfl, rfl⟩ | ⟨id, now, call, rfl, flying, rfl, rfl⟩
    · exact .inl ⟨id, task, rfl, own, free, rfl, rfl⟩
    · obtain rfl : id.uid = uid := own
      exact .inr ⟨id, now, call, rfl, rfl, flying, rfl, rfl⟩
  · left
    obtain ⟨same, agree⟩ := step_frame uid taken own
    exact ⟨same ▸ own, agree⟩

/-- States that agree about its player take a step alike. The free id, or the call in flight, is
found in both states, since it belongs to the player. -/
theorem step_local {state other next : RuntimeState Text} {event : RuntimeEvent}
    {label : CallLabel} (agree : RuntimeState.Agree event.id.uid state other)
    (taken : (playerRuntime game serde).step state event = some (next, label)) :
    label.id = event.id ∧ ∃ next', (playerRuntime game serde).step other event =
      some (next', label) ∧ RuntimeState.Agree event.id.uid next next' := by
  rcases runtime_step_cases taken with
    ⟨id, task, rfl, free, rfl, rfl⟩ | ⟨id, now, call, rfl, flying, rfl, rfl⟩
  · have free' : other.calls id = none := (agree.2 id rfl).symm.trans free
    refine ⟨rfl, other.moved id other.store (some (.checking task)), ?_, agree.moved agree.1 id _⟩
    simp only [playerRuntime, RuntimeEvent.id, free']
  · have flying' : other.calls id = some call := (agree.2 id rfl).symm.trans flying
    obtain ⟨sameCall, sameEffect, sameStore⟩ :=
      advance_local game serde id.uid now state.store other.store call agree.1
    refine ⟨rfl, other.moved id (advanceCall game serde id.uid now other.store call).store
      (advanceCall game serde id.uid now other.store call).call, ?_, ?_⟩
    · simp only [playerRuntime, RuntimeEvent.id, flying', sameEffect]
    · rw [sameCall]
      exact agree.moved sameStore id _

end CheshireLane
