import Mathlib.Data.Nat.Pairing
import CheshireLane.InterleavedConnections
import CheshireLane.LinearSessions
import CheshireLane.Library.Histories

/-!
# The server is linearizable

The gate hands packets to the runtime from all connections at once. What happens in the runtime
meanwhile is a run of its calls. A packet it answers took effect at one moment between its receipt
and its answer, and each session is the replay of its player's packets in the order of these
moments, whichever connections they came on. Nothing else is replayed: what takes effect was
received on a connection that is bound to the player, and each receipt takes effect once at most.
-/

namespace CheshireLane

open Transitions Histories

variable {Text : Type}

/-- A step of the server, what the runtime did in it, and the call whose answer was passed on. -/
structure Tick where
  event : ServerEvent
  label : ServerLabel
  calls : List CallLabel
  source : Option CallId

/-- A packet is answered on the connection. -/
def Tick.Answers (tick : Tick) (id : Nat) : Prop := ∃ packet out, tick.label = .answered id packet out

/-- The packet was received on the connection in front of these last steps, and nothing was
answered there since. -/
def Since (id : Nat) (packet : Packet) (past since : List Tick) : Prop :=
  ∃ earlier received, past = earlier ++ received :: since ∧ received.event = .receive id packet ∧
    ∀ tick ∈ received :: since, ¬ tick.Answers id

/-- The packet that a step of a call played, and the call. -/
def CallLabel.played (label : CallLabel) : Option (CallId × Incoming) :=
  match label.effect with
  | .handled incoming _ => some (label.id, incoming)
  | _ => none

/-- The packets that the runtime played in a step of the server. -/
def Tick.plays (tick : Tick) : List (CallId × Incoming) := tick.calls.filterMap CallLabel.played

/-- A packet was received on the connection, where since then nothing was answered and nothing
played: its turn has not come yet. -/
structure Waits (id : Nat) (packet : Packet) (past since : List Tick) : Prop where
  received : Since id packet past since
  unplayed : ∀ tick ∈ since, tick.event.client = some id → tick.plays = []

/-- The runtime plays at most one packet in a step. It is one that waits on the connection which
takes the step, and it is played for the player that this connection is bound to. -/
inductive Played (bound : Nat → UInt32 → Prop) (past : List Tick) (tick : Tick) : Prop
  | nothing (none : tick.plays = [])
  | once {id : Nat} {packet : Packet} {call : CallId} {now : Clock} {since : List Tick}
      (advances : tick.event = .advance id now) (plays : tick.plays = [(call, ⟨now, packet⟩)])
      (waits : Waits id packet past since) (held : bound id call.uid)

/-- Behind these steps the connection is handling a packet and bound to the player. -/
def BoundTo (gate : Gate Text) (start : ServerState Text) (past : List Tick) (id : Nat)
    (uid : UInt32) : Prop :=
  ∃ state labels job, (gateServer gate).run start (past.map Tick.event) = some (state, labels) ∧
    state.clients id = some ⟨some uid, some job⟩

/-- The packets played in the steps of a connection. -/
def playedOn (id : Nat) (timeline : List Tick) : List Packet :=
  timeline.flatMap fun tick =>
    if tick.event.client = some id then tick.plays.map fun play => play.2.packet else []

/-- An answer is given at once to a dropped packet, or it refuses a login, or the runtime handled
the packet since its receipt. -/
inductive Timely (past : List Tick) : Tick → Prop
  | quiet (event : ServerEvent) (calls : List CallLabel) : Timely past ⟨event, .quiet, calls, none⟩
  | dropped (id : Nat) (packet : Packet) :
      Timely past ⟨.receive id packet, .answered id packet [], [], none⟩
  | refused {packet : Packet} {result : UInt32} (event : ServerEvent) (id : Nat) (req : Cs10022)
      (userId : UInt32) (login : packet.cmdId = 10022) (wrong : result ≠ 0) :
      Timely past ⟨event, .answered id packet (Gate.loginRefusal packet req result userId), [], none⟩
  | handled {id : Nat} {packet : Packet} {out : List Packet} {call : CallId} {now : Clock}
      {calls : List CallLabel} {since : List Tick} (event : ServerEvent)
      (received : Since id packet past since)
      (point : ⟨call, .handled ⟨now, packet⟩ out⟩ ∈ since.flatMap Tick.calls ++ calls) :
      Timely past ⟨event, .answered id packet out, calls, some call⟩

/-- The call of a connection: its player, the connection and a turn. -/
def callOf (id : Nat) (turn : Nat) (uid : UInt32) : CallId := ⟨uid, Nat.pair id turn⟩

/-- Calls of different connections are different, because the number of the connection is part of
the call's. -/
theorem call_of_other {id other turn later : Nat} {uid uid' : UInt32} (different : other ≠ id) :
    callOf other later uid' ≠ callOf id turn uid := by
  intro same
  exact different (Nat.pair_eq_pair.mp (congrArg CallId.serial same)).1

/-- Calls of different packets of one connection are different too. -/
theorem call_of_turn {id turn later : Nat} {uid uid' : UInt32} (different : later ≠ turn) :
    callOf id later uid' ≠ callOf id turn uid := by
  intro same
  exact different (Nat.pair_eq_pair.mp (congrArg CallId.serial same)).2

section acts

variable {game : Game} {serde : Serde Text} {id turn : Nat}

/-- What the runtime does in a step of a connection. Calls of other connections stay, calls that
returned stay so, and those of later turns are free. -/
structure Acts (game : Game) (serde : Serde Text) (id turn next : Nat)
    (before after : RuntimeState Text) (log : List CallLabel) : Prop where
  ran : ∃ events, (playerRuntime game serde).run before events = some (after, log)
  onward : turn ≤ next
  others : ∀ other later uid, other ≠ id →
    after.calls (callOf other later uid) = before.calls (callOf other later uid)
  returned : ∀ earlier uid, earlier ≤ turn → before.calls (callOf id earlier uid) = none →
    after.calls (callOf id earlier uid) = none
  free : (∀ later uid, turn < later → before.calls (callOf id later uid) = none) →
    ∀ later uid, next < later → after.calls (callOf id later uid) = none

/-- Doing nothing is a stretch of no steps. -/
theorem Acts.rest (runtime : RuntimeState Text) : Acts game serde id turn turn runtime runtime [] where
  ran := ⟨[], rfl⟩
  onward := Nat.le_refl _
  others _ _ _ _ := rfl
  returned _ _ _ free := free
  free free := free

/-- A call of the next turn starts. -/
theorem Acts.start {runtime : RuntimeState Text} (uid : UInt32) (task : Task)
    (free : runtime.calls (callOf id (turn + 1) uid) = none) :
    Acts game serde id turn (turn + 1) runtime
      (runtime.moved (callOf id (turn + 1) uid) runtime.store (some (.checking task)))
      [⟨callOf id (turn + 1) uid, .quiet⟩] where
  ran := ⟨[.start (callOf id (turn + 1) uid) task], Machine.run_single (by
    simp only [playerRuntime, RuntimeEvent.id, free])⟩
  onward := Nat.le_succ _
  others other later uid different := RuntimeState.moved_others _ _ _ _ _ (call_of_other different)
  returned earlier uid before returned := by
    rw [RuntimeState.moved_others _ _ _ _ _ (call_of_turn (by omega))]
    exact returned
  free free later uid after := by
    rw [RuntimeState.moved_others _ _ _ _ _ (call_of_turn (by omega))]
    exact free later uid (by omega)

/-- The call of this turn takes its next step. It is one event of the runtime, and only this
connection's call of this turn is moved by it. -/
theorem Acts.advance {runtime : RuntimeState Text} {uid : UInt32} {call : Call} (now : Clock)
    (flying : runtime.calls (callOf id turn uid) = some call) :
    let advanced := advanceCall game serde uid now runtime.store call
    Acts game serde id turn turn runtime
      (runtime.moved (callOf id turn uid) advanced.store advanced.call)
      [⟨callOf id turn uid, advanced.effect⟩] where
  ran := ⟨[.advance (callOf id turn uid) now], Machine.run_single (by
    simp only [playerRuntime, RuntimeEvent.id, flying]
    rfl)⟩
  onward := Nat.le_refl _
  others other later uid different := RuntimeState.moved_others _ _ _ _ _ (call_of_other different)
  returned earlier other before returned := by
    have different : callOf id earlier other ≠ callOf id turn uid := by
      intro same
      rw [same, flying] at returned
      cases returned
    rw [RuntimeState.moved_others _ _ _ _ _ different]
    exact returned
  free free later uid after := by
    rw [RuntimeState.moved_others _ _ _ _ _ (call_of_turn (by omega))]
    exact free later uid after

/-- Stretches of runtime steps of one connection follow each other. -/
theorem Acts.trans {middle last : Nat} {before between after : RuntimeState Text}
    {log more : List CallLabel} (first : Acts game serde id turn middle before between log)
    (second : Acts game serde id middle last between after more) :
    Acts game serde id turn last before after (log ++ more) where
  ran := by
    obtain ⟨events, ran⟩ := first.ran
    obtain ⟨later, continued⟩ := second.ran
    exact ⟨events ++ later, Machine.run_append ran continued⟩
  onward := first.onward.trans second.onward
  others other later uid different :=
    (second.others other later uid different).trans (first.others other later uid different)
  returned earlier uid before returned := second.returned earlier uid (before.trans first.onward)
    (first.returned earlier uid before returned)
  free free := second.free (first.free free)

end acts

/-- The call that a job is in. -/
def Job.call : Job → Option (UInt32 × Call)
  | .readingAccount _ _ => none
  | .readingRow _ _ _ => none
  | .entering _ uid call => some (uid, call)
  | .playing _ uid call _ => some (uid, call)

/-- The packet of the job was played, and its change is being saved. -/
def Job.Saves (job : Job) : Prop := ∃ packet uid info out, job = .playing packet uid (.saving info) out

/-- A job that is interrupted on a connection: its packet waits since its receipt, its call is in
flight, and an answer that is being saved was given since. -/
structure Interrupted (past : List Tick) (runtime : RuntimeState Text) (id turn : Nat) (job : Job) :
    Prop where
  waiting : ∃ since, Since id job.packet past since ∧ (¬ job.Saves → Waits id job.packet past since) ∧
    ∀ packet uid info out, job = .playing packet uid (.saving info) out →
      ∃ now, ⟨callOf id turn uid, .handled ⟨now, packet⟩ out⟩ ∈ since.flatMap Tick.calls
  flying : ∀ uid call, job.call = some (uid, call) → runtime.calls (callOf id turn uid) = some call
  about : ∀ packet uid call out, job = .playing packet uid call out →
    call.preparing = some (.handle packet) ∨ call = .handling packet ∨ ∃ info, call = .saving info
  login : job.call = none → job.packet.cmdId = 10022
  loads : ∀ packet uid call, job = .entering packet uid call → call.preparing = some .ensure

/-- A packet that is not answered by a step waits on. -/
theorem Since.later {id : Nat} {packet : Packet} {past since : List Tick}
    (waits : Since id packet past since) {tick : Tick} (silent : ¬ tick.Answers id) :
    Since id packet (past ++ [tick]) (since ++ [tick]) := by
  obtain ⟨earlier, received, rfl, here, quiet⟩ := waits
  refine ⟨earlier, received, by simp, here, ?_⟩
  rw [← List.cons_append]
  exact List.forall_mem_append.mpr ⟨quiet, List.forall_mem_singleton.mpr silent⟩

/-- A packet that is not being saved waits for its turn. -/
theorem Interrupted.waits {past : List Tick} {runtime : RuntimeState Text} {id turn : Nat} {job : Job}
    (pending : Interrupted past runtime id turn job) (open' : ¬ job.Saves) :
    ∃ since, Waits id job.packet past since := by
  obtain ⟨since, _, waits, _⟩ := pending.waiting
  exact ⟨since, waits open'⟩

/-- A packet goes on to wait while its connection neither answers nor plays. -/
theorem Waits.later {id : Nat} {packet : Packet} {past since : List Tick}
    (waits : Waits id packet past since) {tick : Tick} (silent : ¬ tick.Answers id)
    (idle : tick.event.client = some id → tick.plays = []) :
    Waits id packet (past ++ [tick]) (since ++ [tick]) where
  received := waits.received.later silent
  unplayed := List.forall_mem_append.mpr ⟨waits.unplayed, List.forall_mem_singleton.mpr idle⟩

/-- Others take a step. Their steps neither answer this connection nor touch its call, so its packet
waits on. -/
theorem Interrupted.later {past : List Tick} {before after : RuntimeState Text} {id turn : Nat}
    {job : Job} (pending : Interrupted past before id turn job) {tick : Tick}
    (silent : ¬ tick.Answers id) (foreign : tick.event.client ≠ some id)
    (kept : ∀ uid, after.calls (callOf id turn uid) = before.calls (callOf id turn uid)) :
    Interrupted (past ++ [tick]) after id turn job where
  waiting := by
    obtain ⟨since, received, waits, given⟩ := pending.waiting
    refine ⟨since ++ [tick], received.later silent,
      fun open' => (waits open').later silent fun own => absurd own foreign,
      fun packet uid info out same => ?_⟩
    obtain ⟨now, member⟩ := given packet uid info out same
    refine ⟨now, ?_⟩
    rw [List.flatMap_append]
    exact List.mem_append_left _ member
  flying uid call same := (kept uid).trans (pending.flying uid call same)
  about := pending.about
  login := pending.login
  loads := pending.loads

/-- The server and its runtime side by side. The calls in flight in the runtime are those of the
jobs that are under way. A call whose packet was played has returned, and it was the source of no
other packet. -/
structure Simulated (state : ServerState Text) (past : List Tick) (runtime : RuntimeState Text)
    (turns : Nat → Nat) : Prop where
  store : runtime.store = state.world.store
  free : ∀ id later uid, turns id < later → runtime.calls (callOf id later uid) = none
  pending : ∀ id slot job, state.clients id = some ⟨slot, some job⟩ →
    Interrupted past runtime id (turns id) job
  returned : ∀ call ∈ past.filterMap Tick.source, ∃ id turn uid, call = callOf id turn uid ∧
    turn ≤ turns id ∧ runtime.calls call = none
  once : (past.filterMap Tick.source).Nodup

/-- One connection takes a step, or nobody does. What the others have under way is as it was. The
connection itself has what its step says, and a packet that was played belonged to a call that has
returned. -/
theorem Simulated.next {game : Game} {serde : Serde Text} {state next : ServerState Text}
    {past : List Tick} {before after : RuntimeState Text} {turns : Nat → Nat}
    (simulated : Simulated state past before turns) {id turn : Nat} {tick : Tick}
    (acts : Acts game serde id (turns id) turn before after tick.calls)
    (store : after.store = next.world.store)
    (others : ∀ other, other ≠ id → next.clients other = state.clients other)
    (silent : ∀ other, other ≠ id → ¬ tick.Answers other)
    (foreign : ∀ other, other ≠ id → tick.event.client ≠ some other)
    (own : ∀ slot job, next.clients id = some ⟨slot, some job⟩ →
      Interrupted (past ++ [tick]) after id turn job)
    (source : ∀ call, tick.source = some call → ∃ uid, call = callOf id (turns id) uid ∧
      turn = turns id ∧ (before.calls call).isSome = true ∧ after.calls call = none) :
    Simulated next (past ++ [tick]) after (Function.update turns id turn) where
  store := store
  free other later uid beyond := by
    by_cases same : other = id
    · subst same
      rw [Function.update_self] at beyond
      exact acts.free (simulated.free other) later uid beyond
    · rw [Function.update_of_ne same] at beyond
      rw [acts.others other later uid same]
      exact simulated.free other later uid beyond
  pending other slot job busy := by
    by_cases same : other = id
    · subst same
      rw [Function.update_self]
      exact own slot job busy
    · rw [Function.update_of_ne same]
      rw [others other same] at busy
      exact (simulated.pending other slot job busy).later (silent other same) (foreign other same)
        fun uid => acts.others other (turns other) uid same
  returned := by
    intro call member
    rw [List.filterMap_append, List.mem_append] at member
    rcases member with old | new
    · obtain ⟨other, earlier, uid, rfl, behind, returned⟩ := simulated.returned call old
      refine ⟨other, earlier, uid, rfl, ?_, ?_⟩
      · by_cases same : other = id
        · subst same
          rw [Function.update_self]
          exact behind.trans acts.onward
        · rw [Function.update_of_ne same]
          exact behind
      · by_cases same : other = id
        · subst same
          exact acts.returned earlier uid behind returned
        · rw [acts.others other earlier uid same]
          exact returned
    · obtain ⟨other, member, passed⟩ := List.mem_filterMap.mp new
      obtain rfl := List.mem_singleton.mp member
      obtain ⟨uid, rfl, same, _, returned⟩ := source call passed
      refine ⟨id, turns id, uid, rfl, ?_, returned⟩
      rw [Function.update_self]
      exact acts.onward
  once := by
    rw [List.filterMap_append]
    refine List.nodup_append.mpr ⟨simulated.once, ?_, ?_⟩
    · cases passed : tick.source <;> simp [passed]
    · intro call old other new same
      subst same
      obtain ⟨_, member, passed⟩ := List.mem_filterMap.mp new
      obtain rfl := List.mem_singleton.mp member
      obtain ⟨_, _, _, flying, _⟩ := source call passed
      obtain ⟨_, _, _, _, _, returned⟩ := simulated.returned call old
      rw [returned] at flying
      cases flying

section performs

variable {gate : Gate Text} {bound : Nat → UInt32 → Prop} {id turn : Nat} {past : List Tick}
  {before : RuntimeState Text} {world : World Text}

/-- A step of a connection, with what the runtime does in it. -/
def Performs (gate : Gate Text) (bound : Nat → UInt32 → Prop) (id : Nat) (past : List Tick) (turn : Nat)
    (before : RuntimeState Text) (event : ServerEvent) (moved : Moved Text) : Prop :=
  ∃ next after tick, tick.event = event ∧ tick.label = moved.label id ∧ Timely past tick ∧
    Played bound past tick ∧ Acts gate.game gate.serde id turn next before after tick.calls ∧
    after.store = moved.world.store ∧
    (∀ slot job, moved.client = some ⟨slot, some job⟩ →
      Interrupted (past ++ [tick]) after id next job) ∧
    ∀ call, tick.source = some call → ∃ uid, call = callOf id turn uid ∧ next = turn ∧
      (before.calls call).isSome = true ∧ after.calls call = none

/-- A step that leaves the runtime alone. -/
theorem rest_performs {event : ServerEvent} {moved : Moved Text}
    (same : before.store = moved.world.store)
    (timely : Timely past ⟨event, moved.label id, [], none⟩)
    (pending : ∀ slot job, moved.client = some ⟨slot, some job⟩ →
      Interrupted (past ++ [⟨event, moved.label id, [], none⟩]) before id turn job) :
    Performs gate bound id past turn before event moved :=
  ⟨turn, before, ⟨event, moved.label id, [], none⟩, rfl, rfl, timely, .nothing rfl, .rest before, same,
    pending, fun _ passed => by cases passed⟩

/-- A quiet step answers nobody. -/
theorem quiet_silent (event : ServerEvent) (calls : List CallLabel) (source : Option CallId)
    (id : Nat) : ¬ Tick.Answers ⟨event, .quiet, calls, source⟩ id := by
  rintro ⟨packet, out, same⟩
  cases same

/-- A packet that was just received waits. -/
theorem waits_receipt (packet : Packet) (calls : List CallLabel) :
    Waits id packet (past ++ [⟨.receive id packet, .quiet, calls, none⟩]) [] where
  received := ⟨past, _, rfl, rfl, List.forall_mem_singleton.mpr (quiet_silent _ _ _ id)⟩
  unplayed := by simp

/-- A step of a call that handles no packet plays none. -/
theorem unplayed_effect {event : ServerEvent} {label : ServerLabel} {call : CallId}
    {effect : CallEffect} {source : Option CallId}
    (unhandled : ∀ incoming out, effect ≠ .handled incoming out) :
    Tick.plays ⟨event, label, [⟨call, effect⟩], source⟩ = [] := by
  cases effect with
  | handled incoming out => exact absurd rfl (unhandled incoming out)
  | quiet | fetched info | inserted info | notLoaded => rfl

/-- A login whose reads are not done has no call. So there is no state of a call to speak of, and
its packet is the login. -/
theorem pending_reading {since : List Tick} {job : Job} (waits : Waits id job.packet past since)
    (reading : job.call = none) (login : job.packet.cmdId = 10022) :
    Interrupted past before id turn job where
  waiting := by
    refine ⟨since, waits.received, fun _ => waits, ?_⟩
    rintro packet uid info out rfl
    cases reading
  flying uid call same := by
    rw [reading] at same
    cases same
  about := by
    rintro packet uid call out rfl
    cases reading
  login _ := login
  loads := by
    rintro packet uid call rfl
    cases reading

/-- A call in flight that has not handled a packet yet. Its packet waits since its receipt, and the
call is about this packet. -/
theorem pending_call {since : List Tick} {job : Job} {uid : UInt32} {call : Call}
    (waits : Waits id job.packet past since) (running : job.call = some (uid, call))
    (flying : before.calls (callOf id turn uid) = some call)
    (about : ∀ packet out, job = .playing packet uid call out →
      call.preparing = some (.handle packet) ∨ call = .handling packet)
    (loads : ∀ packet, job = .entering packet uid call → call.preparing = some .ensure) :
    Interrupted past before id turn job where
  waiting := by
    refine ⟨since, waits.received, fun _ => waits, ?_⟩
    rintro packet other info out rfl
    cases running
    rcases about packet out rfl with preparing | handling
    · cases preparing
    · cases handling
  flying other step same := by
    rw [running] at same
    cases same
    exact flying
  about := by
    rintro packet other step out rfl
    cases running
    rcases about packet out rfl with preparing | handling
    · exact .inl preparing
    · exact .inr (.inl handling)
  login reading := by
    rw [running] at reading
    cases reading
  loads := by
    rintro packet other step rfl
    cases running
    exact loads packet rfl

/-- A packet is received. One case per way it begins. A packet that is dropped or refused needs no
call; a bound player's packet starts the call of the next turn. -/
theorem begin_performs {slot : Option UInt32} {packet : Packet} (same : before.store = world.store)
    (free : ∀ later uid, turn < later → before.calls (callOf id later uid) = none) :
    Performs gate bound id past turn before (.receive id packet) (gate.beginPacket world slot packet) := by
  have step := begin_cases gate world packet slot
  generalize gate.beginPacket world slot packet = moved at step
  cases step with
  | undecodable _ login rejected =>
    exact rest_performs same (.dropped id packet) fun _ _ busy => by cases busy
  | wrongKey _ req login decoded key =>
    exact rest_performs same (.refused _ id req 0 login (by decide)) fun _ _ busy => by cases busy
  | reading _ req request =>
    refine rest_performs same (.quiet _ _) fun _ job busy => ?_
    cases busy
    exact pending_reading (waits_receipt packet []) rfl request.login
  | unbound play => exact rest_performs same (.dropped id packet) fun _ _ busy => by cases busy
  | bound uid play =>
    refine ⟨turn + 1, _, ⟨.receive id packet, .quiet, [⟨callOf id (turn + 1) uid, .quiet⟩], none⟩, rfl,
      rfl, .quiet _ _, .nothing rfl, .start uid (.handle packet) (free _ uid (by omega)), same, ?_,
      fun _ passed => by cases passed⟩
    intro slot job busy
    cases busy
    refine pending_call (waits_receipt packet _) rfl (RuntimeState.moved_calls ..) ?_
      fun _ same => by cases same
    rintro _ _ ⟨⟩
    exact .inl rfl

/-- A login reads its account. It is refused without the account. With it, its packet waits for the
row. -/
theorem account_performs {slot : Option UInt32} {packet : Packet} {req : Cs10022} (now : Clock)
    (same : before.store = world.store)
    (pending : Interrupted past before id turn (.readingAccount packet req)) :
    Performs gate bound id past turn before (.advance id now)
      (gate.advanceJob now world slot (.readingAccount packet req)) := by
  have step := advance_cases gate now world slot (.readingAccount packet req)
  generalize gate.advanceJob now world slot (.readingAccount packet req) = moved at step
  cases step with
  | unknown _ _ absent =>
    exact rest_performs same (.refused _ id req 0 (pending.login rfl) (by decide))
      fun _ _ busy => by cases busy
  | known _ _ account registered =>
    refine rest_performs same (.quiet _ _) fun _ _ busy => ?_
    cases busy
    obtain ⟨since, waits⟩ := pending.waits fun ⟨_, _, _, _, same⟩ => by cases same
    exact pending_reading (waits.later (quiet_silent _ _ _ id) fun _ => rfl) rfl (pending.login rfl)

/-- A login reads its row, and loads its player. A banned player is refused; else the call that
loads the player begins the next turn. -/
theorem row_performs {slot : Option UInt32} {packet : Packet} {req : Cs10022} {account : Account}
    (now : Clock) (same : before.store = world.store)
    (free : ∀ later uid, turn < later → before.calls (callOf id later uid) = none)
    (pending : Interrupted past before id turn (.readingRow packet req account)) :
    Performs gate bound id past turn before (.advance id now)
      (gate.advanceJob now world slot (.readingRow packet req account)) := by
  obtain ⟨since, waits⟩ := pending.waits fun ⟨_, _, _, _, same⟩ => by cases same
  have step := advance_cases gate now world slot (.readingRow packet req account)
  generalize gate.advanceJob now world slot (.readingRow packet req account) = moved at step
  cases step with
  | refused _ _ _ barred =>
    exact rest_performs same (.refused _ id req _ (pending.login rfl) (by decide))
      fun _ _ busy => by cases busy
  | accepted _ _ _ allowed =>
    refine ⟨turn + 1, _, ⟨.advance id now, .quiet,
      [⟨callOf id (turn + 1) req.accountId, .quiet⟩], none⟩, rfl, rfl, .quiet _ _, .nothing rfl,
      .start req.accountId .ensure (free _ req.accountId (by omega)), same, ?_,
      fun _ passed => by cases passed⟩
    intro _ _ busy
    cases busy
    exact pending_call (waits.later (quiet_silent _ _ _ id) fun _ => rfl) rfl
      (RuntimeState.moved_calls ..) (fun _ _ same => by cases same) fun _ _ => rfl

/-- The call of a job takes its next step. -/
theorem Interrupted.acts {job : Job} {uid : UInt32} {call : Call} (now : Clock)
    (pending : Interrupted past before id turn job) (running : job.call = some (uid, call))
    (same : before.store = world.store) :
    let advanced := advanceCall gate.game gate.serde uid now world.store call
    Acts gate.game gate.serde id turn turn before
      (before.moved (callOf id turn uid) advanced.store advanced.call)
      [⟨callOf id turn uid, advanced.effect⟩] := by
  have acts := @Acts.advance Text gate.game gate.serde id turn before uid call now
    (pending.flying uid call running)
  rw [same] at acts
  exact acts

/-- The player of a login is loaded, and its packet goes on to the game. When the call has returned,
the one that handles the login itself begins the next turn. -/
theorem entering_performs {slot : Option UInt32} {packet : Packet} {uid : UInt32} {call : Call}
    (now : Clock) (same : before.store = world.store)
    (free : ∀ later uid, turn < later → before.calls (callOf id later uid) = none)
    (pending : Interrupted past before id turn (.entering packet uid call)) :
    Performs gate bound id past turn before (.advance id now)
      (gate.advanceJob now world slot (.entering packet uid call)) := by
  obtain ⟨since, waits⟩ := pending.waits fun ⟨_, _, _, _, same⟩ => by cases same
  have acts := @Interrupted.acts Text gate id turn past before world _ uid call now pending rfl same
  obtain ⟨unhandled, _, resumed⟩ := @preparing_advance Text gate.game gate.serde uid now world.store
    call .ensure (pending.loads packet uid call rfl)
  have step := advance_cases gate now world slot (.entering packet uid call)
  generalize gate.advanceJob now world slot (.entering packet uid call) = moved at step
  cases step with
  | loading _ _ _ next onward =>
    simp only [onward] at acts
    refine ⟨turn, _, ⟨.advance id now, .quiet, _, none⟩, rfl, rfl, .quiet _ _,
      .nothing (unplayed_effect unhandled), acts, rfl, ?_, fun _ passed => by cases passed⟩
    intro _ _ busy
    cases busy
    refine pending_call (waits.later (quiet_silent _ _ _ id) fun _ => unplayed_effect unhandled) rfl
      (RuntimeState.moved_calls ..) (fun _ _ same => by cases same) fun _ _ => ?_
    rcases resumed with ⟨later, resumed, preparing⟩ | ⟨returned, _⟩
    · obtain rfl := Option.some.inj (onward.symm.trans resumed)
      exact preparing
    · cases onward.symm.trans returned
  | loaded _ _ _ returned =>
    simp only [returned] at acts
    have started := acts.trans (.start uid (.handle packet)
      (acts.free free (turn + 1) uid (Nat.lt_succ_self turn)))
    have unplayed : Tick.plays ⟨.advance id now, .quiet,
        [⟨callOf id turn uid, (advanceCall gate.game gate.serde uid now world.store call).effect⟩] ++
          [⟨callOf id (turn + 1) uid, .quiet⟩], none⟩ = [] := by
      rw [Tick.plays, List.filterMap_append]
      exact congrArg (· ++ []) (@unplayed_effect (.advance id now) .quiet _ _ none unhandled)
    refine ⟨turn + 1, _, ⟨.advance id now, .quiet, _, none⟩, rfl, rfl, .quiet _ _, .nothing unplayed,
      started, rfl, ?_, fun _ passed => by cases passed⟩
    intro _ _ busy
    cases busy
    refine pending_call (waits.later (quiet_silent _ _ _ id) fun _ => unplayed) rfl
      (RuntimeState.moved_calls ..) ?_ fun _ same => by cases same
    rintro _ _ ⟨⟩
    exact .inl rfl

/-- A packet waits for its player in the runtime. The call goes on to its packet, and cannot find
the player unloaded. -/
theorem preparing_performs {slot : Option UInt32} {packet : Packet} {uid : UInt32} {call : Call}
    {out : List Packet} (now : Clock) (same : before.store = world.store)
    (pending : Interrupted past before id turn (.playing packet uid call out))
    (task : call.preparing = some (.handle packet)) :
    Performs gate bound id past turn before (.advance id now)
      (gate.advanceJob now world slot (.playing packet uid call out)) := by
  obtain ⟨since, waits⟩ := pending.waits fun ⟨_, _, _, _, saves⟩ => by
    cases saves
    cases task
  have acts := @Interrupted.acts Text gate id turn past before world _ uid call now pending rfl same
  obtain ⟨unhandled, loaded, resumed⟩ :=
    @preparing_advance Text gate.game gate.serde uid now world.store call (.handle packet) task
  obtain ⟨next, resumed, about⟩ : ∃ next,
      (advanceCall gate.game gate.serde uid now world.store call).call = some next ∧
        (next.preparing = some (.handle packet) ∨ next = .handling packet) := by
    rcases resumed with ⟨next, resumed, preparing⟩ | ⟨resumed, _⟩
    · exact ⟨next, resumed, .inl preparing⟩
    · exact ⟨_, resumed, .inr rfl⟩
  have step := advance_cases gate now world slot (.playing packet uid call out)
  generalize gate.advanceJob now world slot (.playing packet uid call out) = moved at step
  cases step with
  | missing _ _ _ _ failed => exact absurd failed loaded
  | finished _ _ _ _ held returned => cases returned.symm.trans resumed
  | running _ _ _ later _ held onward =>
    obtain rfl := Option.some.inj (onward.symm.trans resumed)
    simp only [onward] at acts
    refine ⟨turn, _, ⟨.advance id now, .quiet, _, none⟩, rfl, rfl, .quiet _ _,
      .nothing (unplayed_effect unhandled), acts, rfl, ?_, fun _ passed => by cases passed⟩
    intro _ _ busy
    cases busy
    refine pending_call (waits.later (quiet_silent _ _ _ id) fun _ => unplayed_effect unhandled) rfl
      (RuntimeState.moved_calls ..) ?_ fun _ same => by cases same
    rintro _ _ ⟨⟩
    exact about

/-- A step that passes the answer of its call on. The call has returned and its packet is played, so
the turn is over. -/
theorem answer_performs {packet : Packet} {uid : UInt32} {call : Call} {slot : Option UInt32}
    {out : List Packet} {after : RuntimeState Text} {calls : List CallLabel} {since : List Tick}
    {now handledAt : Clock} (flying : before.calls (callOf id turn uid) = some call)
    (acts : Acts gate.game gate.serde id turn turn before after calls)
    (same : after.store = world.store) (returned : after.calls (callOf id turn uid) = none)
    (received : Since id packet past since)
    (point : ⟨callOf id turn uid, .handled ⟨handledAt, packet⟩ out⟩ ∈
      since.flatMap Tick.calls ++ calls)
    (played : Played bound past
      ⟨.advance id now, .answered id packet out, calls, some (callOf id turn uid)⟩) :
    Performs gate bound id past turn before (.advance id now)
      ⟨world, some ⟨slot, none⟩, some (packet, out)⟩ := by
  refine ⟨turn, after, ⟨.advance id now, .answered id packet out, calls, some (callOf id turn uid)⟩,
    rfl, rfl, .handled _ received point, played, acts, same, fun _ _ busy => (by cases busy), ?_⟩
  rintro _ ⟨⟩
  refine ⟨uid, rfl, rfl, ?_, returned⟩
  rw [flying]
  rfl

/-- The runtime handles a packet. If the packet changed nothing the call returns at once and its
answer is passed on; otherwise the save comes first. Either way this is the moment at which the
packet is played. -/
theorem handling_performs {slot : Option UInt32} {packet : Packet} {uid : UInt32} {out : List Packet}
    (now : Clock) (same : before.store = world.store) (held : bound id uid)
    (pending : Interrupted past before id turn (.playing packet uid (.handling packet) out)) :
    Performs gate bound id past turn before (.advance id now)
      (gate.advanceJob now world slot (.playing packet uid (.handling packet) out)) := by
  obtain ⟨since, waits⟩ := pending.waits fun ⟨_, _, _, _, same⟩ => by cases same
  have acts := @Interrupted.acts Text gate id turn past before world _ uid _ now pending rfl same
  have step := advance_cases gate now world slot (.playing packet uid (.handling packet) out)
  generalize gate.advanceJob now world slot (.playing packet uid (.handling packet) out) = moved at step
  cases present : world.store.players uid with
  | none =>
    have effect : (advanceCall gate.game gate.serde uid now world.store (.handling packet)).effect =
        .notLoaded := by
      simp only [advanceCall, present]
    cases step with
    | missing _ _ _ _ failed =>
      refine ⟨turn, _, ⟨.advance id now, .quiet, _, none⟩, rfl, rfl, .quiet _ _, .nothing ?_, acts, rfl,
        fun _ _ busy => (by cases busy), fun _ passed => by cases passed⟩
      rw [effect]
      rfl
    | finished _ _ _ _ held returned => exact absurd effect held
    | running _ _ _ next _ held onward => exact absurd effect held
  | some session =>
    have handled := advance_handling gate.game gate.serde uid now world.store present packet
    cases step with
    | missing _ _ _ _ failed =>
      rw [handled] at failed
      cases failed
    | finished _ _ _ _ loaded returned =>
      simp only [returned] at acts
      rw [handled] at acts ⊢
      exact answer_performs (pending.flying uid _ rfl) acts rfl (RuntimeState.moved_calls ..)
        waits.received (List.mem_append_right _ (List.mem_singleton_self _)) (.once rfl rfl waits held)
    | running _ _ _ next _ loaded onward =>
      simp only [onward] at acts
      rw [handled] at acts onward ⊢
      obtain ⟨info, _, rfl⟩ := Option.map_eq_some_iff.mp onward
      refine ⟨turn, _, ⟨.advance id now, .quiet, _, none⟩, rfl, rfl, .quiet _ _,
        .once rfl rfl waits held, acts, rfl, ?_, fun _ passed => by cases passed⟩
      intro _ _ busy
      cases busy
      -- The answer is the call's from now on, wherever the save ends.
      refine ⟨⟨_, waits.received.later (quiet_silent _ _ _ id),
        fun open' => absurd ⟨_, _, _, _, rfl⟩ open', ?_⟩, ?_, ?_, fun reading => (by cases reading),
        fun _ _ _ same => by cases same⟩
      · rintro _ _ _ _ ⟨⟩
        refine ⟨now, ?_⟩
        rw [List.flatMap_append]
        exact List.mem_append_right _ (List.mem_singleton_self _)
      · rintro _ _ ⟨⟩
        exact RuntimeState.moved_calls ..
      · rintro _ _ _ _ ⟨⟩
        exact .inr (.inr ⟨info, rfl⟩)

/-- What a packet changed is saved, and it is answered. The packet was played when the call handled
it, and now the call returns. -/
theorem saving_performs {slot : Option UInt32} {packet : Packet} {uid : UInt32} {info : PlayerInfo}
    {out : List Packet} (now : Clock) (same : before.store = world.store)
    (pending : Interrupted past before id turn (.playing packet uid (.saving info) out)) :
    Performs gate bound id past turn before (.advance id now)
      (gate.advanceJob now world slot (.playing packet uid (.saving info) out)) := by
  obtain ⟨since, received, _, given⟩ := pending.waiting
  obtain ⟨handledAt, point⟩ := given packet uid info out rfl
  have acts := @Interrupted.acts Text gate id turn past before world _ uid _ now pending rfl same
  have step := advance_cases gate now world slot (.playing packet uid (.saving info) out)
  generalize gate.advanceJob now world slot (.playing packet uid (.saving info) out) = moved at step
  cases step with
  | missing _ _ _ _ failed => cases failed
  | running _ _ _ next _ held onward => cases onward
  | finished _ _ _ _ held returned =>
    exact answer_performs (pending.flying uid _ rfl) acts rfl (RuntimeState.moved_calls ..) received
      (List.mem_append_left _ point) (.nothing rfl)

/-- A job takes a step. One case per point of interruption. -/
theorem job_performs {slot : Option UInt32} {job : Job} (now : Clock)
    (same : before.store = world.store)
    (free : ∀ later uid, turn < later → before.calls (callOf id later uid) = none)
    (held : ∀ uid call, job.call = some (uid, call) → bound id uid)
    (pending : Interrupted past before id turn job) :
    Performs gate bound id past turn before (.advance id now) (gate.advanceJob now world slot job) := by
  cases job with
  | readingAccount packet req => exact account_performs now same pending
  | readingRow packet req account => exact row_performs now same free pending
  | entering packet uid call => exact entering_performs now same free pending
  | playing packet uid call out =>
    rcases pending.about packet uid call out rfl with preparing | rfl | ⟨info, rfl⟩
    · exact preparing_performs now same pending preparing
    · exact handling_performs now same (held uid _ rfl) pending
    · exact saving_performs now same pending

end performs

section run

variable {gate : Gate Text} {state next : ServerState Text} {past : List Tick}
  {runtime : RuntimeState Text} {turns : Nat → Nat}

/-- A connection whose packet is in a call of the runtime is bound to the player of the call. -/
def JobsBound (state : ServerState Text) : Prop :=
  ∀ id slot job uid call, state.clients id = some ⟨slot, some job⟩ → job.call = some (uid, call) →
    slot = some uid

/-- A step of a connection leaves it bound to the player of its call. A login binds it in the step
that starts the first call, and no later step of the job changes the player. -/
theorem jobs_bound_moved {id : Nat} {moved : Moved Text} (bound : JobsBound state)
    (own : ∀ slot job uid call, moved.client = some ⟨slot, some job⟩ → job.call = some (uid, call) →
      slot = some uid) : JobsBound (state.moved id moved) := by
  intro other slot job uid call busy running
  by_cases same : other = id
  · subst same
    rw [ServerState.moved_client] at busy
    exact own slot job uid call busy running
  · have kept : (state.moved id moved).clients other = state.clients other :=
      Function.update_of_ne same ..
    rw [kept] at busy
    exact bound other slot job uid call busy running

/-- Every step of the server keeps the calls with the players their connections are bound to. A call
is begun under the slot of its connection, or by an accepted login, which sets the slot. -/
theorem jobs_bound_step {event : ServerEvent} {label : ServerLabel} (bound : JobsBound state)
    (taken : (gateServer gate).step state event = some (next, label)) : JobsBound next := by
  cases server_step_cases taken with
  | accept id free => exact jobs_bound_moved bound fun _ _ _ _ busy => by cases busy
  | close id => exact jobs_bound_moved bound fun _ _ _ _ busy => by cases busy
  | register uid account free => exact bound
  | receive id packet slot idle =>
    refine jobs_bound_moved bound fun held job uid call busy running => ?_
    have step := begin_cases gate state.world packet slot
    generalize gate.beginPacket state.world slot packet = moved at step busy
    cases step with
    | undecodable _ login rejected => cases busy
    | wrongKey _ req login decoded key => cases busy
    | unbound play => cases busy
    | reading _ req request =>
      cases busy
      cases running
    | bound other play =>
      cases busy
      cases running
      rfl
  | advance id now slot job busy =>
    refine jobs_bound_moved bound fun held later uid call onward running => ?_
    have before := bound id slot job
    have step := advance_cases gate now state.world slot job
    generalize gate.advanceJob now state.world slot job = moved at step onward
    cases step with
    | unknown packet req absent => cases onward
    | refused packet req account barred => cases onward
    | finished packet other earlier out loaded returned => cases onward
    | missing packet other earlier out failed => cases onward
    | known packet req account registered =>
      cases onward
      cases running
    | accepted packet req account allowed =>
      cases onward
      cases running
      rfl
    | loading packet other earlier next resumed =>
      cases onward
      cases running
      exact before _ _ busy rfl
    | loaded packet other earlier returned =>
      cases onward
      cases running
      exact before _ _ busy rfl
    | running packet other earlier next out loaded resumed =>
      cases onward
      cases running
      exact before _ _ busy rfl

/-- The server and its runtime go on side by side with a timely tick, which plays what waits. -/
def GoesOn (gate : Gate Text) (bound : Nat → UInt32 → Prop) (next : ServerState Text)
    (past : List Tick) (runtime : RuntimeState Text) (event : ServerEvent) (label : ServerLabel) :
    Prop :=
  ∃ tick after turns calls, tick.event = event ∧ tick.label = label ∧ Timely past tick ∧
    Played bound past tick ∧
    (playerRuntime gate.game gate.serde).run runtime calls = some (after, tick.calls) ∧
    Simulated next (past ++ [tick]) after turns

/-- The label of a step names its connection. -/
theorem label_silent (moved : Moved Text) {id other : Nat} (different : other ≠ id) {tick : Tick}
    (same : tick.label = moved.label id) : ¬ tick.Answers other := by
  rintro ⟨packet, out, answered⟩
  rw [same] at answered
  obtain ⟨world, client, answer⟩ := moved
  cases answer with
  | none => cases answered
  | some answer =>
    cases answered
    exact different rfl

/-- A connection performs a step. -/
theorem performs_goes_on {bound : Nat → UInt32 → Prop} {id : Nat} {event : ServerEvent}
    {moved : Moved Text} (simulated : Simulated state past runtime turns)
    (performs : Performs gate bound id past (turns id) runtime event moved)
    (client : event.client = some id) :
    GoesOn gate bound (state.moved id moved) past runtime event (moved.label id) := by
  obtain ⟨turn, after, tick, rfl, labelled, timely, played, acts, store, own, source⟩ := performs
  obtain ⟨calls, ran⟩ := acts.ran
  refine ⟨tick, after, Function.update turns id turn, calls, rfl, labelled, timely, played, ran,
    simulated.next acts store (fun other different => Function.update_of_ne different ..)
      (fun other different => label_silent moved different labelled)
      (fun other different same => different (Option.some.inj (same.symm.trans client))) ?_ source⟩
  intro slot job busy
  rw [ServerState.moved_client] at busy
  exact own slot job busy

/-- Every step of the server goes on with its runtime. One case for each event; those of a
connection are performed by the lemmas above, and the others leave the runtime alone. -/
theorem step_goes_on {bound : Nat → UInt32 → Prop} {event : ServerEvent} {label : ServerLabel}
    (simulated : Simulated state past runtime turns)
    (held : ∀ id slot job uid call, state.clients id = some ⟨slot, some job⟩ →
      job.call = some (uid, call) → bound id uid)
    (taken : (gateServer gate).step state event = some (next, label)) :
    GoesOn gate bound next past runtime event label := by
  cases server_step_cases taken with
  | accept id free =>
    exact performs_goes_on simulated
      (rest_performs simulated.store (.quiet _ _) fun _ _ busy => by cases busy) rfl
  | receive id packet slot idle =>
    exact performs_goes_on simulated (begin_performs simulated.store (simulated.free id)) rfl
  | advance id now slot job busy =>
    exact performs_goes_on simulated
      (job_performs now simulated.store (simulated.free id)
        (fun uid call => held id slot job uid call busy) (simulated.pending id slot job busy)) rfl
  | close id =>
    exact performs_goes_on simulated
      (rest_performs simulated.store (.quiet _ _) fun _ _ busy => by cases busy) rfl
  | register uid account free =>
    have rest : Acts gate.game gate.serde 0 (turns 0) (turns 0) runtime runtime [] := .rest runtime
    refine ⟨⟨.register uid account, .quiet, [], none⟩, runtime, _, [], rfl, rfl, .quiet _ _,
      .nothing rfl, rfl,
      simulated.next rest simulated.store (fun _ _ => rfl) (fun other _ => quiet_silent _ _ _ other)
        (fun _ _ same => (by cases same)) (fun slot job busy => ?_) fun _ passed => by cases passed⟩
    exact (simulated.pending 0 slot job busy).later (quiet_silent _ _ _ 0)
      (fun same => by cases same) fun _ => rfl

/-- The run of the server so far, as a timeline that comes with a run of the runtime. -/
def SideBySide (gate : Gate Text) (start : ServerState Text) (rows : UInt32 → Option (PlayerRow Text))
    (events : List ServerEvent) (labels : List ServerLabel) (state : ServerState Text) : Prop :=
  ∃ (timeline : List Tick) (calls : List RuntimeEvent) (runtime : RuntimeState Text)
    (turns : Nat → Nat), timeline.map Tick.event = events ∧ timeline.map Tick.label = labels ∧
      (playerRuntime gate.game gate.serde).run (.started rows) calls =
        some (runtime, timeline.flatMap Tick.calls) ∧
      Told Timely timeline ∧ Told (fun past => Played (BoundTo gate start past) past) timeline ∧
      Simulated state timeline runtime turns ∧ JobsBound state

/-- At the start both runs are empty, and the runtime has the store of the gate. -/
theorem side_by_side_started (gate : Gate Text) (accounts : UInt32 → Option Account)
    (rows : UInt32 → Option (PlayerRow Text)) :
    SideBySide gate ⟨⟨accounts, Store.started rows⟩, fun _ => none⟩ rows [] []
      ⟨⟨accounts, Store.started rows⟩, fun _ => none⟩ := by
  refine ⟨[], [], .started rows, fun _ => 0, rfl, rfl, rfl, told_nil, told_nil,
    ⟨rfl, fun _ _ _ _ => rfl, ?_, ?_, List.nodup_nil⟩, ?_⟩
  · intro id slot job busy
    cases busy
  · intro call member
    cases member
  · intro id slot job uid call busy
    cases busy

/-- A step of the server comes with one tick more. The run in front of it is what shows that the
connection of a packet that is played is bound. -/
theorem SideBySide.step {start : ServerState Text} {rows : UInt32 → Option (PlayerRow Text)}
    {events : List ServerEvent} {labels : List ServerLabel} {event : ServerEvent} {label : ServerLabel}
    (ran : (gateServer gate).run start events = some (state, labels))
    (together : SideBySide gate start rows events labels state)
    (taken : (gateServer gate).step state event = some (next, label)) :
    SideBySide gate start rows (events ++ [event]) (labels ++ [label]) next := by
  obtain ⟨timeline, calls, runtime, turns, rfl, rfl, before, timely, played, simulated, bound⟩ :=
    together
  have held : ∀ id slot job uid call, state.clients id = some ⟨slot, some job⟩ →
      job.call = some (uid, call) → BoundTo gate start timeline id uid := by
    intro id slot job uid call busy running
    obtain rfl := bound id slot job uid call busy running
    exact ⟨state, _, job, ran, busy⟩
  obtain ⟨tick, after, turns, more, rfl, rfl, here, plays, onward, simulated⟩ :=
    step_goes_on simulated held taken
  refine ⟨timeline ++ [tick], calls ++ more, after, turns, List.map_append, List.map_append, ?_,
    told_append timely here, told_append played plays, simulated, jobs_bound_step bound taken⟩
  rw [List.flatMap_append, List.flatMap_singleton]
  exact Machine.run_append before onward

/-- What a connection plays in two stretches it plays in the first and then in the second. -/
theorem played_on_append (id : Nat) (timeline more : List Tick) :
    playedOn id (timeline ++ more) = playedOn id timeline ++ playedOn id more :=
  List.flatMap_append

/-- Steps in which the connection plays nothing. -/
theorem played_on_idle {id : Nat} {timeline : List Tick}
    (idle : ∀ tick ∈ timeline, tick.event.client = some id → tick.plays = []) :
    playedOn id timeline = [] := by
  refine List.flatMap_eq_nil_iff.mpr fun tick member => ?_
  split
  · next own => rw [idle tick member own, List.map_nil]
  · rfl

/-- What is played on a connection are packets it received, in their order and each at most once.
Induct on the length of the timeline: the last packet played waited since its receipt, so what was
played before it was played in front of that receipt. -/
theorem played_received {fits : List Tick → Nat → UInt32 → Prop} (id : Nat) (timeline : List Tick)
    (played : Told (fun past => Played (fits past) past) timeline) :
    (playedOn id timeline).Sublist (receivedOn id (timeline.map Tick.event)) := by
  induction size : timeline.length using Nat.strong_induction_on generalizing timeline with
  | _ size inductionHypothesis =>
    rcases List.eq_nil_or_concat' timeline with rfl | ⟨past, tick, rfl⟩
    · exact List.Sublist.refl _
    have shorter : ∀ front rest, past = front ++ rest →
        (playedOn id front).Sublist (receivedOn id (front.map Tick.event)) := by
      rintro front rest rfl
      refine inductionHypothesis front.length ?_ front (fun before event after split => ?_) rfl
      · rw [← size, List.append_assoc, List.length_append, List.length_append, List.length_singleton]
        omega
      · exact played before event (after ++ rest ++ [tick]) (by simp [split])
    rw [played_on_append, List.map_append, received_on_append]
    have silent : playedOn id [tick] = [] →
        (playedOn id past ++ playedOn id [tick]).Sublist
          (receivedOn id (past.map Tick.event) ++ receivedOn id ([tick].map Tick.event)) := by
      intro none
      rw [none, List.append_nil]
      exact (shorter past [] (List.append_nil _).symm).trans (List.sublist_append_left ..)
    cases played past tick [] rfl with
    | nothing none =>
      exact silent (played_on_idle fun other member _ => by rw [List.mem_singleton.mp member, none])
    | @once other packet call now since advances plays waits held =>
      by_cases own : other = id
      · subst own
        obtain ⟨earlier, received, rfl, receipt, _⟩ := waits.received
        have between : playedOn other (received :: since) = [] := by
          refine played_on_idle (List.forall_mem_cons.mpr ⟨fun _ => ?_, waits.unplayed⟩)
          cases played earlier received (since ++ [tick]) (by simp) with
          | nothing none => exact none
          | once advances => cases receipt.symm.trans advances
        have last : playedOn other [tick] = [packet] := by
          simp [playedOn, advances, plays, ServerEvent.client]
        have first : packet ∈ receivedOn other ((received :: since).map Tick.event) :=
          List.mem_filterMap.mpr ⟨received.event, List.mem_cons_self, by simp [receipt]⟩
        rw [played_on_append, between, List.append_nil, last, List.map_append, received_on_append,
          List.append_assoc]
        exact (shorter earlier _ rfl).append (List.singleton_sublist.mpr (List.mem_append_left _ first))
      · refine silent (played_on_idle fun same member theirs => ?_)
        obtain rfl := List.mem_singleton.mp member
        rw [advances] at theirs
        exact absurd (Option.some.inj theirs) own

/-- The server is linearizable, over every run from any accounts and any rows.

What the runtime does within the run is a run of its own calls. Every answer is passed on from its
own call of the runtime, which handled the packet at a moment between its receipt and its answer,
unless the packet was dropped at its receipt or was a refused login. Every player's session is the
replay of its packets, from all connections, in the order of these moments, and so are the answers.
Every packet replayed was received on the connection that takes the step, waited since and is played
for the player this connection is bound to, so over the whole run a connection plays packets it
received, in their order and each at most once. -/
theorem server_linearizable (gate : Gate Text) (accounts : UInt32 → Option Account)
    (rows : UInt32 → Option (PlayerRow Text)) {state : ServerState Text}
    {events : List ServerEvent} {labels : List ServerLabel}
    (ran : (gateServer gate).run ⟨⟨accounts, Store.started rows⟩, fun _ => none⟩ events =
      some (state, labels)) :
    ∃ (timeline : List Tick) (calls : List RuntimeEvent) (runtime : RuntimeState Text),
      timeline.map Tick.event = events ∧ timeline.map Tick.label = labels ∧
      (playerRuntime gate.game gate.serde).run (.started rows) calls =
        some (runtime, timeline.flatMap Tick.calls) ∧
      runtime.store = state.world.store ∧
      Told Timely timeline ∧
      (timeline.filterMap Tick.source).Nodup ∧
      (∀ uid, History gate.game uid (initialRecord gate.serde rows uid)
        (timeline.flatMap Tick.calls) (state.world.store.players uid)) ∧
      Told (fun past => Played (BoundTo gate ⟨⟨accounts, Store.started rows⟩, fun _ => none⟩ past) past)
        timeline ∧
      ∀ id, (playedOn id timeline).Sublist (receivedOn id events) := by
  have together : SideBySide gate _ rows events labels state :=
    Machine.run_history (SideBySide gate _ rows) _ (side_by_side_started gate accounts rows)
      (fun _ _ _ _ _ _ ran together taken => together.step ran taken) events state labels ran
  obtain ⟨timeline, calls, runtime, turns, rfl, also, ran, timely, played, simulated, _⟩ := together
  refine ⟨timeline, calls, runtime, rfl, also, ran, simulated.store, timely, simulated.once, ?_, played,
    fun id => played_received id timeline played⟩
  intro uid
  rw [← simulated.store]
  exact (linear_run ran uid).history

/-- A first login with the right key, while another connection is closed. The packet is played once
for the player of the login, on its own connection. -/
theorem server_linearizable_login :
    let login : Packet := ⟨53, 0, 10022, 1, Gate.sampleLogin, []⟩
    let onward : ServerEvent := .advance 3 fun _ => 0
    let events : List ServerEvent := [.accept 3, .accept 4, .receive 3 login, onward, onward, onward,
      .close 4, onward, onward, onward, onward, onward]
    ∃ state labels timeline, (gateServer Gate.sampleGate).run
        ⟨⟨fun _ => some ⟨1⟩, Store.started fun _ => none⟩, fun _ => none⟩ events = some (state, labels) ∧
      timeline.map Tick.label = labels ∧ Told Timely timeline ∧
      (∃ out, labels.getLast? = some (.answered 3 login out)) ∧
      History Gate.sampleGate.game 1 {} (timeline.flatMap Tick.calls) (state.world.store.players 1) ∧
      (playedOn 3 timeline).Sublist [login] := by
  intro login onward events
  have ran : (gateServer Gate.sampleGate).run
      ⟨⟨fun _ => some ⟨1⟩, Store.started fun _ => none⟩, fun _ => none⟩ events = some (_, _) := rfl
  obtain ⟨timeline, calls, runtime, same, also, _, _, timely, _, history, _, received⟩ :=
    server_linearizable Gate.sampleGate (fun _ => some ⟨1⟩) (fun _ => none) ran
  exact ⟨_, _, timeline, ran, also, timely, ⟨_, rfl⟩, history 1, received 3⟩

end run

end CheshireLane
