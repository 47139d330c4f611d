import CheshireLane.UndisturbedConnections

/-!
# Interleaved connections

The server takes the steps of all connections in any order, and the calls of the runtime are cut
into steps as well. From one connection this looks as if its packets were handled whole, one
after another: the others only change what is found at a login's two reads and at the moment a
packet is handled, and they found it so at moments of the run, in this order.
-/

namespace CheshireLane

open Transitions

variable {Text : Type}

/-- The packet a job is about. -/
def Job.packet : Job → Packet
  | .readingAccount packet _ => packet
  | .readingRow packet _ _ => packet
  | .entering packet _ _ => packet
  | .playing packet _ _ _ => packet

/-- The packets received on a connection. -/
def receivedOn (id : Nat) (events : List ServerEvent) : List Packet :=
  events.filterMap fun
    | .receive other packet => if other = id then some packet else none
    | _ => none

/-- A packet that meets no failure and finds these worlds at its account read, at its row read
and at being handled. -/
def found (now : Clock) (packet : Packet) (account row handle : World Text) : Arrival Text where
  toAttempt := smoothly now packet
  accountFails := false
  rowFails := false
  ensureFails := false
  beforeAccount := fun _ => account
  beforeRow := fun _ => row
  beforeEnsure := fun world => world
  beforeHandle := fun _ => handle

section run

variable (gate : Gate Text) (initial : ServerState Text)

/-- The run passed the world behind its first events. -/
def Passed (front : List ServerEvent) (world : World Text) : Prop :=
  ∃ state labels, (gateServer gate).run initial front = some (state, labels) ∧ state.world = world

/-- The worlds lie in this order between two points of the run. -/
structure Moments (front last : List ServerEvent) (account row handle : World Text) : Prop where
  passed : ∃ first second third, front <+: first ∧ first <+: second ∧ second <+: third ∧
    third <+: last ∧ Passed gate initial first account ∧ Passed gate initial second row ∧
    Passed gate initial third handle

/-- What some packets found lies in the order of the packets on the run. -/
inductive InOrder : List ServerEvent → List (Arrival Text) → Prop
  | nothing (last : List ServerEvent) : InOrder last []
  | more {front last : List ServerEvent} {arrivals : List (Arrival Text)}
      {account row handle : World Text} (now : Clock) (packet : Packet)
      (before : InOrder front arrivals)
      (moments : Moments gate initial front last account row handle) :
      InOrder last (arrivals ++ [found now packet account row handle])

end run

section conversation

variable {gate : Gate Text}

/-- The packet is answered so on a connection with this slot, whatever its world. -/
def Answers (gate : Gate Text) (bound : Option UInt32) (arrival : Arrival Text) (out : List Packet)
    (next : Option UInt32) : Prop :=
  ∀ world, (gate.handlePacket arrival bound world).answer = some out ∧
    (gate.handlePacket arrival bound world).uid = next

/-- Packets that are all answered, in whatever world their connection leaves them. -/
inductive Conversation (gate : Gate Text) (slot : Option UInt32) :
    List (Arrival Text) → List (Packet × List Packet) → Option UInt32 → Prop
  | start : Conversation gate slot [] [] slot
  | more {arrivals : List (Arrival Text)} {answers : List (Packet × List Packet)}
      {bound next : Option UInt32} {arrival : Arrival Text} {out : List Packet}
      (before : Conversation gate slot arrivals answers bound)
      (answered : Answers gate bound arrival out next) :
      Conversation gate slot (arrivals ++ [arrival]) (answers ++ [(arrival.packet, out)]) next

/-- The uid slot behind some exchanges. -/
def Gate.slotAfter (slot : Option UInt32) (exchanges : List (Gate.Exchange Text)) : Option UInt32 :=
  exchanges.foldl (fun _ exchange => exchange.served.uid) slot

/-- One more packet on a connection that is still open. By induction on the packets before it: each
of them was answered, so the next one is handled behind it, in the world that it left. -/
theorem connection_snoc (gate : Gate Text) (arrivals : List (Arrival Text)) (arrival : Arrival Text)
    (slot : Option UInt32) (world : World Text)
    (open' : Gate.answered (Gate.connection gate slot world arrivals) = true)
    (all : (Gate.connection gate slot world arrivals).map Gate.Exchange.arrival = arrivals) :
    ∃ last, Gate.connection gate slot world (arrivals ++ [arrival]) =
      Gate.connection gate slot world arrivals ++
        [⟨Gate.slotAfter slot (Gate.connection gate slot world arrivals), last, arrival,
          gate.handlePacket arrival
            (Gate.slotAfter slot (Gate.connection gate slot world arrivals)) last⟩] := by
  induction arrivals generalizing slot world with
  | nil =>
    refine ⟨world, ?_⟩
    simp only [List.nil_append, Gate.connection, Gate.slotAfter, List.foldl_nil]
    split <;> rfl
  | cons first arrivals inductionHypothesis =>
    cases answer : (gate.handlePacket first slot world).answer with
    | none => simp [Gate.connection, Gate.answered, answer] at open'
    | some out =>
      simp only [Gate.connection, Gate.answered, answer, List.all_cons, Option.isSome_some,
        Bool.true_and, List.map_cons, List.cons.injEq, true_and] at open' all
      obtain ⟨last, same⟩ := inductionHypothesis _ _ open' all
      refine ⟨last, ?_⟩
      simp only [List.cons_append, Gate.connection, answer, Gate.slotAfter, List.foldl_cons,
        List.cons.injEq, true_and]
      exact same

/-- A conversation is what its connection comes to. By induction on the conversation. Each packet is
answered the same in whatever world it meets, since it finds what it needs there itself. -/
theorem Conversation.connection {slot bound : Option UInt32} {arrivals : List (Arrival Text)}
    {answers : List (Packet × List Packet)}
    (conversation : Conversation gate slot arrivals answers bound) (world : World Text) :
    let exchanges := Gate.connection gate slot world arrivals
    exchanges.map Gate.Exchange.arrival = arrivals ∧ Gate.answered exchanges = true ∧
      answers = exchanges.map Gate.Exchange.answers ∧ bound = Gate.slotAfter slot exchanges := by
  induction conversation with
  | start => exact ⟨rfl, rfl, rfl, rfl⟩
  | @more arrivals answers bound next arrival out before answered inductionHypothesis =>
    obtain ⟨all, open', said, held⟩ := inductionHypothesis
    obtain ⟨last, same⟩ := connection_snoc gate arrivals arrival slot world open' all
    rw [← held] at same
    obtain ⟨answer, moved⟩ := answered last
    simp only [same, List.map_append, List.map_cons, List.map_nil, all, Gate.slotAfter,
      List.foldl_append, List.foldl_cons, List.foldl_nil, moved, ← said, Gate.Exchange.answers, answer]
    refine ⟨trivial, ?_, rfl, trivial⟩
    simp only [Gate.answered, List.all_append, List.all_cons, List.all_nil, answer] at open' ⊢
    simp [open']

end conversation

section serving

variable (gate : Gate Text)

/-- The packet is handed to the runtime under this uid, once it found these worlds at its reads. -/
def Admits (bound : Option UInt32) (packet : Packet) (uid : UInt32) (account row : World Text) : Prop :=
  ∀ now handle out,
    (∀ world, (gate.handToRuntime (found now packet account row handle) uid world).answer = some out) →
      Answers gate bound (found now packet account row handle) out (some uid)

variable {gate} {bound : Option UInt32} {packet : Packet} {account row : World Text}

/-- A player in memory is handled at once. -/
theorem handle_present (game : Game) (serde : Serde Text) (uid : UInt32) (now : Clock)
    (store : Store Text) {session : PlayerSession} (present : store.players uid = some session)
    (packet : Packet) :
    (store.handlePacket game serde uid (smoothly now packet)).2 =
      some (handlePlayerPacket game uid now session.info session.dirty packet).out := by
  have held : store.containsKey uid = true := by
    rw [Store.containsKey, present]
    rfl
  simp only [Store.handlePacket, smoothly, Store.ensurePlayer, held, if_true, present]
  cases Store.toSave (handlePlayerPacket game uid now session.info session.dirty packet) with
  | none => rfl
  | some info => simp only [Bool.false_eq_true, if_false]

/-- A packet of the game is handed on under the bound uid. -/
theorem game_admits {uid : UInt32} (play : packet.cmdId ≠ 10022) :
    Admits gate (some uid) packet uid account row := by
  intro now handle out answered world
  have whole : gate.handlePacket (found now packet account row handle) (some uid) world =
      gate.handToRuntime (found now packet account row handle) uid world := if_neg play
  rw [whole]
  exact ⟨answered world, rfl⟩

/-- A login is handed on under the uid it asks for. The worlds that its two reads and its handling
find are given, and so whatever world it starts in does not matter. -/
theorem login_admits {req : Cs10022} {known : Account} (request : LoginRequest gate packet req)
    (registered : account.accounts req.accountId = some known)
    (allowed : Gate.banned row req.accountId = false) :
    Admits gate bound packet req.accountId account row := by
  intro now handle out answered world
  obtain ⟨prepared, ensured, _⟩ := finish_ensure gate.game gate.serde req.accountId now row.store []
  have entered : gate.enter (found now packet account row handle) req.accountId row =
      gate.handToRuntime (found now packet account row handle) req.accountId
        { row with store := prepared } :=
    enter_loaded gate (found now packet account row handle) ensured
  have whole : gate.handlePacket (found now packet account row handle) bound world =
      gate.enter (found now packet account row handle) req.accountId row := by
    simp only [Gate.handlePacket, Gate.handleLogin, found, smoothly, request.login, request.decoded,
      request.key, registered, allowed, ↓reduceIte, Bool.false_eq_true]
  rw [whole, entered]
  exact ⟨answered _, rfl⟩

end serving

/-- The task of a call in front of the handling of its packet. -/
def Call.preparing : Call → Option Task
  | .checking task => some task
  | .loading task => some task
  | .creating task => some task
  | .inserting task _ => some task
  | .handling _ => none
  | .saving _ => none

section doing

variable (gate : Gate Text) (initial : ServerState Text) (bound : Option UInt32)
  (front events : List ServerEvent)

/-- The packet found worlds of the run that explain its answer. -/
def Explained (packet : Packet) (out : List Packet) (next : Option UInt32) : Prop :=
  ∃ now account row handle, Moments gate initial front events account row handle ∧
    Answers gate bound (found now packet account row handle) out next

/-- The packet found worlds of the run at its reads that lead it to the runtime. -/
def Admitted (packet : Packet) (uid : UInt32) : Prop :=
  ∃ account row first second, front <+: first ∧ first <+: second ∧ second <+: events ∧
    Passed gate initial first account ∧ Passed gate initial second row ∧
    Admits gate bound packet uid account row

/-- What is known of a connection by where the handling of its packet was interrupted. -/
inductive Doing (store : Store Text) : Option UInt32 → Option Job → Prop
  | idle : Doing store bound none
  | readingAccount {packet : Packet} {req : Cs10022} (request : LoginRequest gate packet req) :
      Doing store bound (some (.readingAccount packet req))
  | readingRow {packet : Packet} {req : Cs10022} {account : Account}
      (request : LoginRequest gate packet req) (read : ∃ first world, front <+: first ∧
        first <+: events ∧ Passed gate initial first world ∧
        world.accounts req.accountId = some account) :
      Doing store bound (some (.readingRow packet req account))
  | entering {packet : Packet} {uid : UInt32} {call : Call}
      (admitted : Admitted gate initial bound front events packet uid) :
      Doing store (some uid) (some (.entering packet uid call))
  | preparing {packet : Packet} {uid : UInt32} {call : Call} {out : List Packet}
      (admitted : Admitted gate initial bound front events packet uid)
      (task : call.preparing = some (.handle packet)) :
      Doing store (some uid) (some (.playing packet uid call out))
  | handling {packet : Packet} {uid : UInt32} {out : List Packet}
      (admitted : Admitted gate initial bound front events packet uid)
      (present : (store.players uid).isSome = true) :
      Doing store (some uid) (some (.playing packet uid (.handling packet) out))
  | saving {packet : Packet} {uid : UInt32} {info : PlayerInfo} {out : List Packet}
      (explained : Explained gate initial bound front events packet out (some uid)) :
      Doing store (some uid) (some (.playing packet uid (.saving info) out))

/-- Where a packet gets: it is answered, and the run explains the answer, or it is still being
handled. -/
def Continues (packet : Packet) (moved : Moved Text) : Prop :=
  ∃ client, moved.client = some client ∧
    match moved.answer with
    | none => client.job.map Job.packet = some packet ∧
        Doing gate initial bound front events moved.world.store client.slot client.job
    | some (answered, out) => answered = packet ∧ client.job = none ∧
        Explained gate initial bound front events packet out client.slot

variable {gate initial bound front events} {last : List ServerEvent}

/-- Worlds that a run has passed are passed by every longer run. -/
theorem Moments.later {account row handle : World Text}
    (moments : Moments gate initial front events account row handle) (longer : events <+: last) :
    Moments gate initial front last account row handle := by
  obtain ⟨first, second, third, one, two, three, four, passed⟩ := moments.passed
  exact ⟨first, second, third, one, two, three, four.trans longer, passed⟩

/-- An answer stays explained while the run goes on. -/
theorem Explained.later {packet : Packet} {out : List Packet} {next : Option UInt32}
    (explained : Explained gate initial bound front events packet out next) (longer : events <+: last) :
    Explained gate initial bound front last packet out next := by
  obtain ⟨now, account, row, handle, moments, answers⟩ := explained
  exact ⟨now, account, row, handle, moments.later longer, answers⟩

/-- A login stays admitted while the run goes on. -/
theorem Admitted.later {packet : Packet} {uid : UInt32}
    (admitted : Admitted gate initial bound front events packet uid) (longer : events <+: last) :
    Admitted gate initial bound front last packet uid := by
  obtain ⟨account, row, first, second, one, two, three, passed⟩ := admitted
  exact ⟨account, row, first, second, one, two, three.trans longer, passed⟩

/-- Others may step as long as they drop no session. -/
theorem Doing.later {store after : Store Text} {slot : Option UInt32} {job : Option Job}
    (doing : Doing gate initial bound front events store slot job) (longer : events <+: last)
    (kept : ∀ uid, (store.players uid).isSome = true → (after.players uid).isSome = true) :
    Doing gate initial bound front last after slot job := by
  cases doing with
  | idle => exact .idle
  | readingAccount request => exact .readingAccount request
  | readingRow request read =>
    obtain ⟨first, world, one, two, passed⟩ := read
    exact .readingRow request ⟨first, world, one, two.trans longer, passed⟩
  | entering admitted => exact .entering (admitted.later longer)
  | preparing admitted task => exact .preparing (admitted.later longer) task
  | handling admitted present => exact .handling (admitted.later longer) (kept _ present)
  | saving explained => exact .saving (explained.later longer)

/-- What the packet found at this point of the run explains its answer. -/
theorem explained_here {packet : Packet} {out : List Packet} {next : Option UInt32}
    {world : World Text} (here : Passed gate initial events world) (between : front <+: events)
    (longer : events <+: last)
    (answers : ∀ now, Answers gate bound (found now packet world world world) out next) :
    Explained gate initial bound front last packet out next :=
  ⟨fun _ => 0, world, world, world,
    ⟨events, events, events, between, events.prefix_refl, events.prefix_refl, longer, here, here, here⟩,
    answers _⟩

/-- A packet is received. One case per way it begins. A packet that needs no read of the database is
answered at once, and any other one leaves a job. -/
theorem begin_continues {packet : Packet} {world : World Text}
    (here : Passed gate initial events world) (between : front <+: events) (longer : events <+: last) :
    Continues gate initial bound front last packet (gate.beginPacket world bound packet) := by
  have step := begin_cases gate world packet bound
  generalize gate.beginPacket world bound packet = moved at step
  cases step with
  | undecodable _ login rejected =>
    refine ⟨_, rfl, rfl, rfl, explained_here here between longer fun now other => ?_⟩
    simp [Gate.handlePacket, Gate.handleLogin, found, smoothly, login, rejected]
  | wrongKey _ req login decoded key =>
    refine ⟨_, rfl, rfl, rfl, explained_here here between longer fun now other => ?_⟩
    simp only [Gate.handlePacket, Gate.handleLogin, found, smoothly, login, decoded, key, ↓reduceIte]
    exact ⟨rfl, trivial⟩
  | reading _ req request => exact ⟨_, rfl, rfl, .readingAccount request⟩
  | unbound play =>
    refine ⟨_, rfl, rfl, rfl, explained_here here between longer fun now other => ?_⟩
    simp [Gate.handlePacket, found, smoothly, play]
  | bound uid play =>
    exact ⟨_, rfl, rfl, .preparing ⟨world, world, events, events, between, events.prefix_refl, longer,
      here, here, game_admits play⟩ rfl⟩

/-- A login has read its account. -/
theorem account_continues {packet : Packet} {req : Cs10022} {world : World Text} (now : Clock)
    (request : LoginRequest gate packet req) (here : Passed gate initial events world)
    (between : front <+: events) (longer : events <+: last) :
    Continues gate initial bound front last packet
      (gate.advanceJob now world bound (.readingAccount packet req)) := by
  have step := advance_cases gate now world bound (.readingAccount packet req)
  generalize gate.advanceJob now world bound (.readingAccount packet req) = moved at step
  cases step with
  | unknown _ _ absent =>
    refine ⟨_, rfl, rfl, rfl, explained_here here between longer fun now other => ?_⟩
    simp only [Gate.handlePacket, Gate.handleLogin, found, smoothly, request.login, request.decoded,
      request.key, absent, ↓reduceIte, Bool.false_eq_true]
    exact ⟨rfl, trivial⟩
  | known _ _ account registered =>
    exact ⟨_, rfl, rfl, .readingRow request ⟨events, world, between, longer, here, registered⟩⟩

/-- A login has read its row. A ban refuses it; otherwise the connection is bound and the call for
its player begins. -/
theorem row_continues {packet : Packet} {req : Cs10022} {account : Account} {world : World Text}
    (now : Clock) (request : LoginRequest gate packet req)
    (read : ∃ first world, front <+: first ∧ first <+: events ∧ Passed gate initial first world ∧
      world.accounts req.accountId = some account)
    (here : Passed gate initial events world) (longer : events <+: last) :
    Continues gate initial bound front last packet
      (gate.advanceJob now world bound (.readingRow packet req account)) := by
  obtain ⟨first, earlier, after, before, passed, registered⟩ := read
  have step := advance_cases gate now world bound (.readingRow packet req account)
  generalize gate.advanceJob now world bound (.readingRow packet req account) = moved at step
  cases step with
  | refused _ _ _ barred =>
    refine ⟨_, rfl, rfl, rfl, fun _ => 0, earlier, world, world,
      ⟨first, events, events, after, before, events.prefix_refl, longer, passed, here, here⟩,
      fun other => ?_⟩
    simp only [Gate.handlePacket, Gate.handleLogin, found, smoothly, request.login, request.decoded,
      request.key, registered, barred, ↓reduceIte, Bool.false_eq_true]
    exact ⟨rfl, trivial⟩
  | accepted _ _ _ allowed =>
    exact ⟨_, rfl, rfl, .entering ⟨earlier, world, first, events, after, before, longer, passed, here,
      login_admits request registered allowed⟩⟩

/-- A call in `ensure_player` goes on to what it was made for, and only with a session. One case for
each point of `ensure_player`. It returns only behind a check that found the session or behind an
insertion. -/
theorem preparing_advance {game : Game} {serde : Serde Text} (uid : UInt32) (now : Clock)
    (store : Store Text) {call : Call} {task : Task} (prepares : call.preparing = some task) :
    let advanced := advanceCall game serde uid now store call
    (∀ incoming out, advanced.effect ≠ .handled incoming out) ∧ advanced.effect ≠ .notLoaded ∧
      ((∃ next, advanced.call = some next ∧ next.preparing = some task) ∨
        advanced.call = task.resumed ∧ (advanced.store.players uid).isSome = true) := by
  cases call with
  | checking task' =>
    cases prepares
    cases held : store.containsKey uid with
    | true =>
      simp only [advanceCall, held, if_true]
      exact ⟨by simp, by simp, .inr ⟨trivial, held⟩⟩
    | false =>
      simp only [advanceCall, held, Bool.false_eq_true, if_false]
      exact ⟨by simp, by simp, .inl ⟨_, rfl, rfl⟩⟩
  | loading task' =>
    cases prepares
    cases loaded : store.loaded serde uid with
    | none =>
      simp only [advanceCall, loaded]
      exact ⟨by simp, by simp, .inl ⟨_, rfl, rfl⟩⟩
    | some info =>
      simp only [advanceCall, loaded]
      exact ⟨by simp, by simp, .inl ⟨_, rfl, rfl⟩⟩
  | creating task' =>
    cases prepares
    simp only [advanceCall]
    exact ⟨by simp, by simp, .inl ⟨_, rfl, rfl⟩⟩
  | inserting task' info =>
    cases prepares
    refine ⟨?_, ?_, .inr ⟨rfl, insert_session_held uid store info⟩⟩
    · intro incoming out
      simp only [advanceCall]
      split <;> simp
    · simp only [advanceCall]
      split <;> simp
  | handling packet' => cases prepares
  | saving info => cases prepares

/-- A packet that waits for its player goes on, and is not answered yet. It can neither find the
player unloaded nor return without having handled the packet. -/
theorem preparing_continues {packet : Packet} {uid : UInt32} {call : Call} {out : List Packet}
    {world : World Text} (now : Clock) (admitted : Admitted gate initial bound front events packet uid)
    (task : call.preparing = some (.handle packet)) (longer : events <+: last) :
    Continues gate initial bound front last packet
      (gate.advanceJob now world (some uid) (.playing packet uid call out)) := by
  obtain ⟨_, loaded, resumed⟩ :=
    @preparing_advance Text gate.game gate.serde uid now world.store call (.handle packet) task
  have step := advance_cases gate now world (some uid) (.playing packet uid call out)
  generalize gate.advanceJob now world (some uid) (.playing packet uid call out) = moved at step
  cases step with
  | missing _ _ _ _ failed => exact absurd failed loaded
  | finished _ _ _ _ held returned =>
    rcases resumed with ⟨next, resumed, _⟩ | ⟨resumed, _⟩ <;> cases returned.symm.trans resumed
  | running _ _ _ next _ held onward =>
    rcases resumed with ⟨later, resumed, preparing⟩ | ⟨resumed, present⟩
    · obtain rfl := Option.some.inj (onward.symm.trans resumed)
      exact ⟨_, rfl, rfl, .preparing (admitted.later longer) preparing⟩
    · obtain rfl := Option.some.inj (onward.symm.trans resumed)
      exact ⟨_, rfl, rfl, .handling (admitted.later longer) present⟩

/-- A packet is handled at this point of the run. The session is there, so the packet is answered
from its record, which belongs to the world of this moment. -/
theorem handling_continues {packet : Packet} {uid : UInt32} {out : List Packet} {world : World Text}
    (now : Clock) (admitted : Admitted gate initial bound front events packet uid)
    (present : (world.store.players uid).isSome = true)
    (here : Passed gate initial events world) (longer : events <+: last) :
    Continues gate initial bound front last packet
      (gate.advanceJob now world (some uid) (.playing packet uid (.handling packet) out)) := by
  obtain ⟨session, present⟩ := Option.isSome_iff_exists.mp present
  obtain ⟨account, row, first, second, one, two, three, passed, also, admits⟩ := admitted
  have explained : Explained gate initial bound front last packet
      (handlePlayerPacket gate.game uid now session.info session.dirty packet).out (some uid) :=
    ⟨now, account, row, world,
      ⟨first, second, events, one, two, three, longer, passed, also, here⟩,
      admits now world _ fun other =>
        handle_present gate.game gate.serde uid now world.store present packet⟩
  have handled := advance_handling gate.game gate.serde uid now world.store present packet
  have step := advance_cases gate now world (some uid) (.playing packet uid (.handling packet) out)
  generalize gate.advanceJob now world (some uid) (.playing packet uid (.handling packet) out) =
    moved at step
  cases step with
  | missing _ _ _ _ failed =>
    rw [handled] at failed
    cases failed
  | finished _ _ _ _ held returned =>
    rw [handled]
    exact ⟨_, rfl, rfl, rfl, explained⟩
  | running _ _ _ next _ held onward =>
    rw [handled] at onward ⊢
    obtain ⟨info, _, rfl⟩ := Option.map_eq_some_iff.mp onward
    exact ⟨_, rfl, rfl, .saving explained⟩

/-- Every step of a job goes on with its packet. One case per point of interruption. What is known
of a job depends on how far it has got; the lemmas above treat the points one by one. -/
theorem job_continues {slot : Option UInt32} {job : Job} {world : World Text} (now : Clock)
    (doing : Doing gate initial bound front events world.store slot (some job))
    (here : Passed gate initial events world) (between : front <+: events) (longer : events <+: last) :
    Continues gate initial bound front last job.packet (gate.advanceJob now world slot job) := by
  cases doing with
  | readingAccount request => exact account_continues now request here between longer
  | readingRow request read => exact row_continues now request read here longer
  | @entering packet uid call admitted =>
    have step := advance_cases gate now world (some uid) (.entering packet uid call)
    generalize gate.advanceJob now world (some uid) (.entering packet uid call) = moved at step
    cases step with
    | loading _ _ _ next onward => exact ⟨_, rfl, rfl, .entering (admitted.later longer)⟩
    | loaded _ _ _ returned => exact ⟨_, rfl, rfl, .preparing (admitted.later longer) rfl⟩
  | preparing admitted task => exact preparing_continues now admitted task longer
  | handling admitted present => exact handling_continues now admitted present here longer
  | @saving packet uid info out explained =>
    have step := advance_cases gate now world (some uid) (.playing packet uid (.saving info) out)
    generalize gate.advanceJob now world (some uid) (.playing packet uid (.saving info) out) =
      moved at step
    cases step with
    | missing _ _ _ _ failed => cases failed
    | running _ _ _ next _ held onward => cases onward
    | finished _ _ _ _ held returned => exact ⟨_, rfl, rfl, rfl, explained.later longer⟩

end doing

/-- No step of a call drops a session. Sessions are inserted and replaced, and never removed. -/
theorem advance_sessions (game : Game) (serde : Serde Text) (uid other : UInt32) (now : Clock)
    (store : Store Text) (call : Call) (present : (store.players other).isSome = true) :
    ((advanceCall game serde uid now store call).store.players other).isSome = true := by
  by_cases same : other = uid
  · subst same
    cases call with
    | checking task =>
      simp only [advanceCall]
      split <;> exact present
    | loading task =>
      simp only [advanceCall]
      split <;> exact present
    | creating task => exact present
    | inserting task info => exact insert_session_held other store info
    | handling packet =>
      simp only [advanceCall]
      split
      · exact present
      · rw [Store.keepHandled, Store.set_session_players]
        rfl
    | saving info => exact present
  · rw [(advance_frame game serde uid other now store call same).1]
    exact present

/-- No step of the server drops a session. Only a step of a job works on the sessions, and it does
so by one step of its call. -/
theorem step_sessions {gate : Gate Text} {state next : ServerState Text} {event : ServerEvent}
    {label : ServerLabel} (taken : (gateServer gate).step state event = some (next, label))
    (uid : UInt32) (present : (state.world.store.players uid).isSome = true) :
    (next.world.store.players uid).isSome = true := by
  cases server_step_cases taken with
  | accept id free => exact present
  | receive id packet slot idle =>
    have same := (begin_packet_keeps gate state.world slot packet).1
    simp only [ServerState.moved, same]
    exact present
  | advance id now slot job busy =>
    simp only [ServerState.moved]
    cases job with
    | readingAccount packet req =>
      simp only [Gate.advanceJob]
      split <;> exact present
    | readingRow packet req account =>
      simp only [Gate.advanceJob]
      split <;> exact present
    | entering packet other call =>
      simp only [Gate.advanceJob]
      split <;> exact advance_sessions gate.game gate.serde other uid now _ call present
    | playing packet other call out =>
      have kept := advance_sessions gate.game gate.serde other uid now _ call present
      simp only [Gate.advanceJob]
      split
      · exact kept
      · split <;> exact kept
  | close id => exact present
  | register other account free => exact present

section interleaving

variable {gate : Gate Text} {initial : ServerState Text} {slot : Option UInt32} {id : Nat}

/-- What is known of a connection at a point of the run. -/
structure Tracked (gate : Gate Text) (initial : ServerState Text) (slot : Option UInt32) (id : Nat)
    (events : List ServerEvent) (labels : List ServerLabel) (state : ServerState Text)
    (arrivals : List (Arrival Text)) (bound : Option UInt32) (front : List ServerEvent)
    (client : Client) : Prop where
  conversation : Conversation gate slot arrivals (answersOn id labels) bound
  order : InOrder gate initial front arrivals
  reached : front <+: events
  there : state.clients id = some client
  doing : Doing gate initial bound front events state.world.store client.slot client.job
  received : receivedOn id events =
    arrivals.map (fun arrival => arrival.packet) ++ client.job.toList.map Job.packet

variable {events : List ServerEvent} {labels : List ServerLabel} {state : ServerState Text}
  {arrivals : List (Arrival Text)} {bound : Option UInt32} {front : List ServerEvent} {client : Client}

/-- The connection is tracked somehow. -/
def OnTrack (gate : Gate Text) (initial : ServerState Text) (slot : Option UInt32) (id : Nat)
    (events : List ServerEvent) (labels : List ServerLabel) (state : ServerState Text) : Prop :=
  ∃ arrivals bound front client,
    Tracked gate initial slot id events labels state arrivals bound front client

/-- The connection itself moves on with a packet. What it received and what was answered grow by at
most one, and its job is about the packet that waits for an answer. -/
theorem Tracked.moved {event : ServerEvent} {packet : Packet} {moved : Moved Text}
    (tracked : Tracked gate initial slot id events labels state arrivals bound front client)
    (received : receivedOn id (events ++ [event]) =
      arrivals.map (fun arrival => arrival.packet) ++ [packet])
    (continues : Continues gate initial bound front (events ++ [event]) packet moved) :
    OnTrack gate initial slot id (events ++ [event]) (labels ++ [moved.label id])
      (state.moved id moved) := by
  have said : answersOn id (labels ++ [moved.label id]) =
      answersOn id labels ++ moved.answer.toList := by
    rw [answers_on_append, answers_on_label]
  obtain ⟨client, there, onward⟩ := continues
  cases answer : moved.answer with
  | none =>
    simp only [answer] at onward
    obtain ⟨about, doing⟩ := onward
    refine ⟨arrivals, bound, front, client, ?_, tracked.order,
      tracked.reached.trans (List.prefix_append ..), ?_, doing, ?_⟩
    · rw [said, answer, Option.toList_none, List.append_nil]
      exact tracked.conversation
    · rw [ServerState.moved_client, there]
    · obtain ⟨job, busy, same⟩ := Option.map_eq_some_iff.mp about
      rw [received, busy, ← same]
      rfl
  | some answered =>
    obtain ⟨answered, out⟩ := answered
    simp only [answer] at onward
    obtain ⟨rfl, idle, now, account, row, handle, moments, answers⟩ := onward
    refine ⟨arrivals ++ [found now answered account row handle], client.slot, events ++ [event], client,
      ?_, .more now answered tracked.order moments, List.prefix_refl _, ?_, ?_, ?_⟩
    · rw [said, answer]
      exact .more tracked.conversation answers
    · rw [ServerState.moved_client, there]
    · rw [idle]
      exact .idle
    · rw [received, idle, List.map_append]
      simp only [Option.toList_none, List.map_nil, List.append_nil]
      rfl

/-- What the connection does is what it did while another one steps. Neither its labels nor its
client change; only the world does, which the run has then passed one more time. -/
theorem foreign_quiet {next : ServerState Text} {event : ServerEvent} {label : ServerLabel}
    (taken : (gateServer gate).step state event = some (next, label))
    (foreign : event.client ≠ some id) : answersOn id [label] = [] ∧ receivedOn id [event] = [] := by
  have other : ∀ (moved : Moved Text) (other : Nat), other ≠ id →
      answersOn id [moved.label other] = [] := by
    intro moved other different
    obtain ⟨world, client, answer⟩ := moved
    cases answer with
    | none => rfl
    | some answer => exact List.filterMap_cons_none (if_neg different)
  cases server_step_cases taken with
  | accept self free => exact ⟨rfl, rfl⟩
  | receive self packet slot idle =>
    have different : self ≠ id := fun same => foreign (congrArg some same)
    exact ⟨other _ self different, List.filterMap_cons_none (if_neg different)⟩
  | advance self now slot job busy =>
    exact ⟨other _ self fun same => foreign (congrArg some same), rfl⟩
  | close self => exact ⟨rfl, rfl⟩
  | register uid account free => exact ⟨rfl, rfl⟩

/-- The packets received in two stretches are those of the first and then those of the second. -/
theorem received_on_append (id : Nat) (events more : List ServerEvent) :
    receivedOn id (events ++ more) = receivedOn id events ++ receivedOn id more :=
  List.filterMap_append

/-- Every step of the server keeps the connection on track, unless it is closed. A foreign step
keeps what is known, since no session is ever dropped; the steps of its own are a receipt, a step of
its job, and its end. -/
theorem track_step {next : ServerState Text} {event : ServerEvent} {label : ServerLabel}
    (ran : (gateServer gate).run initial events = some (state, labels))
    (track : OnTrack gate initial slot id events labels state) (stays : event ≠ .close id)
    (taken : (gateServer gate).step state event = some (next, label)) :
    OnTrack gate initial slot id (events ++ [event]) (labels ++ [label]) next := by
  obtain ⟨arrivals, bound, front, client, tracked⟩ := track
  have here : Passed gate initial events state.world := ⟨state, labels, ran, rfl⟩
  have longer : events <+: events ++ [event] := List.prefix_append ..
  by_cases own : event.client = some id
  · cases server_step_cases taken with
    | accept self free =>
      cases own
      rw [tracked.there] at free
      cases free
    | receive self packet held idle =>
      cases own
      obtain rfl := Option.some.inj (tracked.there.symm.trans idle)
      have doing := tracked.doing
      have received := tracked.received
      cases doing with
      | idle =>
        refine tracked.moved ?_ (begin_continues here tracked.reached longer)
        rw [received_on_append, received]
        simp only [Option.toList_none, List.map_nil, List.append_nil]
        exact congrArg _ (List.filterMap_cons_some (if_pos rfl))
    | advance self now held job busy =>
      cases own
      obtain rfl := Option.some.inj (tracked.there.symm.trans busy)
      refine tracked.moved ?_ (job_continues now tracked.doing here tracked.reached longer)
      rw [received_on_append, tracked.received]
      exact List.append_nil _
    | close self =>
      cases own
      exact absurd rfl stays
    | register uid account free => cases own
  · obtain ⟨silent, unheard⟩ := foreign_quiet taken own
    refine ⟨arrivals, bound, front, client, ?_, tracked.order, tracked.reached.trans longer, ?_,
      tracked.doing.later longer (step_sessions taken), ?_⟩
    · rw [answers_on_append, silent, List.append_nil]
      exact tracked.conversation
    · rw [step_foreign taken id own]
      exact tracked.there
    · rw [received_on_append, unheard, List.append_nil]
      exact tracked.received

/-- Arrivals stay in order while the run goes on. -/
theorem InOrder.later {last : List ServerEvent} (order : InOrder gate initial events arrivals)
    (longer : events <+: last) : InOrder gate initial last arrivals := by
  cases order with
  | nothing => exact .nothing last
  | more now packet before moments => exact .more now packet before (moments.later longer)

/-- Every interleaving looks sequential from each connection.

In every run of the server, from any state and with any steps of other connections in between, a
connection that is not closed is answered as if its packets were handled whole and one after
another, without failures, in some arrivals whose account reads, row reads and handlings found
worlds that the run passed in this order. All received packets are answered so but the last one
maybe, which is then being handled; the server itself never drops the connection, and its uid slot
is that of the sequential connection. -/
theorem connection_interleaved (gate : Gate Text) {initial state : ServerState Text}
    {events : List ServerEvent} {labels : List ServerLabel}
    (ran : (gateServer gate).run initial events = some (state, labels)) (id : Nat)
    {slot : Option UInt32} (idle : initial.clients id = some ⟨slot, none⟩)
    (stays : .close id ∉ events) :
    ∃ arrivals client, state.clients id = some client ∧ InOrder gate initial events arrivals ∧
      receivedOn id events =
        arrivals.map (fun arrival => arrival.packet) ++ client.job.toList.map Job.packet ∧
      let exchanges := Gate.connection gate slot initial.world arrivals
      exchanges.map Gate.Exchange.arrival = arrivals ∧ Gate.answered exchanges = true ∧
        answersOn id labels = exchanges.map Gate.Exchange.answers ∧
        (client.job = none → client.slot = Gate.slotAfter slot exchanges) := by
  have started : OnTrack gate initial slot id [] [] initial :=
    ⟨[], slot, [], ⟨slot, none⟩, .start, .nothing _, List.prefix_refl _, idle, .idle, rfl⟩
  have track : OnTrack gate initial slot id events labels state := by
    refine Machine.run_history (fun events labels state =>
      .close id ∉ events → OnTrack gate initial slot id events labels state) initial
      (fun _ => started) ?_ events state labels ran stays
    intro events labels state event next label ran track taken stays
    obtain ⟨open', other⟩ := not_or.mp (mt List.mem_append.mpr stays)
    exact track_step ran (track open') (fun same => other (List.mem_singleton.mpr same.symm)) taken
  obtain ⟨arrivals, bound, front, ⟨clientSlot, job⟩, tracked⟩ := track
  obtain ⟨all, open', said, held⟩ := tracked.conversation.connection initial.world
  refine ⟨arrivals, _, tracked.there, tracked.order.later tracked.reached, tracked.received,
    all, open', said, fun resting => ?_⟩
  obtain rfl : job = none := resting
  rw [← held]
  have doing := tracked.doing
  cases doing
  rfl

/-- A login whose account is registered while it is handled, and whose player is banned. -/
theorem connection_interleaved_registered :
    let initial : ServerState PlayerInfo :=
      ⟨⟨fun _ => none, Store.started fun _ => some ⟨1, {}⟩⟩, fun _ => some ⟨none, none⟩⟩
    let login : Packet := ⟨53, 0, 10022, 1, Gate.sampleLogin, []⟩
    let events : List ServerEvent := [.receive 3 login, .receive 4 login, .register 1 ⟨1⟩,
      .advance 3 fun _ => 0, .close 4, .advance 3 fun _ => 0]
    ∃ arrivals, InOrder Gate.sampleGate initial events arrivals ∧
      (Gate.connection Gate.sampleGate none initial.world arrivals).map Gate.Exchange.answers =
        [(login, Gate.loginRefusal login ⟨1, "test", Gate.sampleDigest⟩ 17 1)] := by
  intro initial login events
  have ran : (gateServer Gate.sampleGate).run initial events = some (_, _) := rfl
  obtain ⟨arrivals, client, there, order, received, all, open', said, held⟩ :=
    connection_interleaved Gate.sampleGate ran 3 rfl (by simp [events])
  exact ⟨arrivals, order, said.symm⟩

end interleaving

end CheshireLane
