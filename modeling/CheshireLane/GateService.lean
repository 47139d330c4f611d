import CheshireLane.Library.Serving
import CheshireLane.AnswersReadBack
import CheshireLane.GateLogin
import CheshireLane.GateSegmentation

/-!
# The gate's connections

The gate splits packets off what it has read, handles each one as it comes, and writes
the answers. A packet that cannot be handled and a write that fails end the connection.

What a connection comes to is what handling the packets of the whole stream comes to,
unless a padding byte can be misread. A client whose logins are all refused reads
nothing but refusals.
-/

namespace CheshireLane

open WireFormat StreamSplitter

variable {Text : Type}

/-- What a packet meets: clock readings, failures, changes by others in front of each
step, and a write that may fail behind some bytes. -/
structure Circumstances (Text : Type) where
  now : Clock
  createFails : Bool
  saveFails : Bool
  accountFails : Bool
  rowFails : Bool
  ensureFails : Bool
  beforeAccount : World Text → World Text
  beforeRow : World Text → World Text
  beforeEnsure : World Text → World Text
  beforeHandle : World Text → World Text
  written : Option Nat

/-- A packet together with what it meets. -/
def Circumstances.arrival (met : Circumstances Text) (packet : Packet) : Arrival Text where
  now := met.now
  packet := packet
  createFails := met.createFails
  saveFails := met.saveFails
  accountFails := met.accountFails
  rowFails := met.rowFails
  ensureFails := met.ensureFails
  beforeAccount := met.beforeAccount
  beforeRow := met.beforeRow
  beforeEnsure := met.beforeEnsure
  beforeHandle := met.beforeHandle

/-- The task of one connection: the packets it handled, the player it is bound to, and
the world it shares with all others. -/
structure ClientTask (Text : Type) where
  handled : Nat
  uid : Option UInt32
  world : World Text

namespace Gate

/-- What a handled packet makes of the task. -/
def Exchange.leaves (client : ClientTask Text) (exchange : Exchange Text) : ClientTask Text :=
  ⟨client.handled + 1, exchange.served.uid, exchange.served.world⟩

/-- The bytes of the answers to some packets. -/
def answerBytes (exchanges : List (Exchange Text)) : List UInt8 :=
  exchanges.flatMap fun exchange => (exchange.served.answer.getD []).flatMap Packet.toBytes

/-- One turn of the inner loop of `handle_client`. A handler that fails ends the connection without
an answer, and a write that fails ends it behind the bytes that got out. -/
def handle (gate : Gate Text) (meets : Nat → Circumstances Text) (client : ClientTask Text)
    (packet : Packet) : Turn (ClientTask Text) UInt8 :=
  let met := meets client.handled
  let served := gate.handlePacket (met.arrival packet) client.uid client.world
  let client : ClientTask Text := ⟨client.handled + 1, served.uid, served.world⟩
  match served.answer, met.written with
  | none, _ => ⟨client, [], false⟩
  | some rsps, none => ⟨client, rsps.flatMap Packet.toBytes, true⟩
  | some [], some _ => ⟨client, [], true⟩
  | some (rsp :: rsps), some written =>
    ⟨client, ((rsp :: rsps).flatMap Packet.toBytes).take written, false⟩

/-- `handle_client` on the chunks it reads. -/
def handleClient (gate : Gate Text) (meets : Nat → Circumstances Text) (world : World Text)
    (chunks : List (List UInt8)) : Service (Option UInt16) UInt8 UInt8 (ClientTask Text) :=
  serveLoop gateLoop (gate.handle meets) none ⟨0, none, world⟩ [] chunks

/-- Packets with what each one meets, the first of which is the given one. -/
def arrivals (meets : Nat → Circumstances Text) : Nat → List Packet → List (Arrival Text)
  | _, [] => []
  | handled, packet :: packets => (meets handled).arrival packet :: arrivals meets (handled + 1) packets

/-- The exchanges of a connection that is read and written without failures. -/
def exchanges (gate : Gate Text) (meets : Nat → Circumstances Text) (client : ClientTask Text)
    (packets : List Packet) : List (Exchange Text) :=
  connection gate client.uid client.world (arrivals meets client.handled packets)

/-- Whether the connection is still open behind some exchanges. -/
def answered (exchanges : List (Exchange Text)) : Bool :=
  exchanges.all fun exchange => exchange.served.answer.isSome

/-- The exchange a task has over the next packet. -/
def exchange (gate : Gate Text) (meets : Nat → Circumstances Text) (client : ClientTask Text)
    (packet : Packet) : Exchange Text :=
  let arrival := (meets client.handled).arrival packet
  ⟨client.uid, client.world, arrival, gate.handlePacket arrival client.uid client.world⟩

/-- The exchanges go on behind a packet that has an answer, from where it leads. -/
theorem exchanges_cons (gate : Gate Text) (meets : Nat → Circumstances Text) (client : ClientTask Text)
    (packet : Packet) (packets : List Packet) :
    gate.exchanges meets client (packet :: packets) =
      gate.exchange meets client packet ::
        if (gate.exchange meets client packet).served.answer.isSome then
          gate.exchanges meets ((gate.exchange meets client packet).leaves client) packets
        else [] := by
  simp only [exchanges, arrivals, connection, exchange, Exchange.leaves]
  congr 1
  split <;> rename_i answer <;> simp only [answer, Option.isSome_none, Option.isSome_some,
    Bool.false_eq_true, ↓reduceIte]

/-- The same circumstances with writes that do not fail. -/
def unfailing (meets : Nat → Circumstances Text) : Nat → Circumstances Text :=
  fun handled => { meets handled with written := none }

/-- A packet breaks the connection if it has answers and the write of them fails. -/
def Breaks (gate : Gate Text) (meets : Nat → Circumstances Text) (client : ClientTask Text)
    (packet : Packet) : Prop :=
  (meets client.handled).written.isSome = true ∧
    (gate.exchange meets client packet).served.answer.getD [] ≠ []

/-- No packet of these meets a write that fails and has answers. -/
def Unbroken (gate : Gate Text) (meets : Nat → Circumstances Text) (client : ClientTask Text)
    (packets : List Packet) : Prop :=
  StreamSplitter.Unbroken (gate.Breaks meets) (gate.handle (unfailing meets)) client packets

/-- Without failing writes a turn is its exchange: it sends all answers, and it goes on unless there
was an error. -/
theorem handle_exchange (gate : Gate Text) (meets : Nat → Circumstances Text) (client : ClientTask Text)
    (packet : Packet) :
    gate.handle (unfailing meets) client packet =
      ⟨(gate.exchange meets client packet).leaves client,
        answerBytes [gate.exchange meets client packet],
        (gate.exchange meets client packet).served.answer.isSome⟩ := by
  have same : (unfailing meets client.handled).arrival packet = (meets client.handled).arrival packet :=
    rfl
  simp only [handle, exchange, Exchange.leaves, answerBytes, List.flatMap_cons, List.flatMap_nil,
    List.append_nil, same]
  split
  · next answer => simp [answer]
  · next answer written => simp [answer]
  · next written => cases written
  · next written => cases written

/-- A packet that does not break the connection is handled as if no write failed. -/
theorem handle_unbroken (gate : Gate Text) (meets : Nat → Circumstances Text) (client : ClientTask Text)
    (packet : Packet) (unbroken : ¬ gate.Breaks meets client packet) :
    gate.handle meets client packet = gate.handle (unfailing meets) client packet := by
  rw [handle_exchange]
  simp only [handle, exchange, Exchange.leaves, answerBytes, List.flatMap_cons, List.flatMap_nil,
    List.append_nil]
  split
  · next answer => simp [answer]
  · next answer written => simp [answer]
  · next answer written => simp [answer]
  · next answer written =>
    refine absurd ⟨by rw [written]; rfl, ?_⟩ unbroken
    simp only [exchange, answer, Option.getD_some]
    simp

/-- A packet that breaks the connection leaves what its exchange leaves, and its answers are written
up to the byte at which the write fails. -/
theorem handle_broken (gate : Gate Text) (meets : Nat → Circumstances Text) (client : ClientTask Text)
    (packet : Packet) (breaks : gate.Breaks meets client packet) :
    ∃ written, (meets client.handled).written = some written ∧
      gate.handle meets client packet = ⟨(gate.exchange meets client packet).leaves client,
        (answerBytes [gate.exchange meets client packet]).take written, false⟩ := by
  obtain ⟨fails, answers⟩ := breaks
  obtain ⟨written, fails⟩ := Option.isSome_iff_exists.mp fails
  refine ⟨written, fails, ?_⟩
  simp only [exchange] at answers
  simp only [handle, exchange, Exchange.leaves, answerBytes, List.flatMap_cons, List.flatMap_nil,
    List.append_nil]
  split
  · next answer => simp [answer] at answers
  · next none => cases none.symm.trans fails
  · next answer _ => simp [answer] at answers
  · next answer same =>
    cases same.symm.trans fails
    simp only [answer, Option.getD_some, List.flatMap_cons]

/-- The bytes of the answers, one exchange at a time. -/
theorem answer_bytes_cons (exchange : Exchange Text) (exchanges : List (Exchange Text)) :
    answerBytes (exchange :: exchanges) = answerBytes [exchange] ++ answerBytes exchanges := by
  simp only [answerBytes, List.flatMap_cons, List.flatMap_nil, List.append_nil]

/-- If no write fails, a task is where its exchanges lead and has written all of them. By induction
on the packets. An exchange without an answer closes the connection, and the packets behind it are
not handled. -/
theorem handle_all_exchanges (gate : Gate Text) (meets : Nat → Circumstances Text)
    (client : ClientTask Text) (packets : List Packet) :
    handleAll (gate.handle (unfailing meets)) client packets =
      ⟨(gate.exchanges meets client packets).foldl Exchange.leaves client,
        answerBytes (gate.exchanges meets client packets),
        answered (gate.exchanges meets client packets)⟩ := by
  induction packets generalizing client with
  | nil => rfl
  | cons packet packets inductionHypothesis =>
    rw [handle_all_cons, exchanges_cons, answer_bytes_cons, handle_exchange]
    simp only [List.foldl_cons, answered, List.all_cons]
    cases open' : (gate.exchange meets client packet).served.answer.isSome with
    | true =>
      simp only [↓reduceIte, inductionHypothesis, Bool.true_and]
      rfl
    | false =>
      simp only [Bool.false_eq_true, ↓reduceIte, List.foldl_nil, Bool.false_and]
      simp [answerBytes]

/-- Either no write breaks the connection, or the answers of one packet do. Then those of all packets
in front of it are written, of its own the bytes in front of the failure, and no later packet is
handled. -/
theorem handle_all_cases (gate : Gate Text) (meets : Nat → Circumstances Text)
    (client : ClientTask Text) (packets : List Packet) :
    (gate.Unbroken meets client packets ∧ handleAll (gate.handle meets) client packets =
        ⟨(gate.exchanges meets client packets).foldl Exchange.leaves client,
          answerBytes (gate.exchanges meets client packets),
          answered (gate.exchanges meets client packets)⟩) ∨
      ∃ front packet behind written, packets = front ++ packet :: behind ∧
        gate.Unbroken meets client front ∧
        let before := gate.exchanges meets client front
        let reached := before.foldl Exchange.leaves client
        let broken := gate.exchange meets reached packet
        answered before = true ∧ (meets reached.handled).written = some written ∧
          broken.served.answer.getD [] ≠ [] ∧
          handleAll (gate.handle meets) client packets = ⟨broken.leaves reached,
            answerBytes before ++ (answerBytes [broken]).take written, false⟩ := by
  rcases handle_all_broken (handle_unbroken gate meets)
      (fun client packet breaks => by
        obtain ⟨_, _, ended⟩ := handle_broken gate meets client packet breaks
        rw [ended]) client packets with
    ⟨unbroken, same⟩ | ⟨front, packet, behind, split, unbroken, goesOn, breaks, ended⟩
  · exact .inl ⟨unbroken, same.trans (handle_all_exchanges gate meets client packets)⟩
  · rw [handle_all_exchanges gate meets client front] at goesOn breaks ended
    obtain ⟨written, fails, turn⟩ := handle_broken gate meets _ packet breaks
    refine .inr ⟨front, packet, behind, written, split, unbroken, goesOn, fails, breaks.2, ?_⟩
    rw [ended, turn]

/-- The exchanges over some packets go on from where those over the first ones lead, if all of these
are answered. -/
theorem exchanges_append (gate : Gate Text) (meets : Nat → Circumstances Text)
    (client : ClientTask Text) (front packets : List Packet)
    (goesOn : answered (gate.exchanges meets client front) = true) :
    gate.exchanges meets client (front ++ packets) = gate.exchanges meets client front ++
      gate.exchanges meets ((gate.exchanges meets client front).foldl Exchange.leaves client)
        packets := by
  induction front generalizing client with
  | nil => rfl
  | cons packet front inductionHypothesis =>
    rw [exchanges_cons] at goesOn ⊢
    rw [List.cons_append, exchanges_cons]
    cases open' : (gate.exchange meets client packet).served.answer.isSome with
    | false => simp [answered, open'] at goesOn
    | true =>
      simp only [answered, open', ↓reduceIte, List.all_cons, Bool.true_and] at goesOn ⊢
      rw [inductionHypothesis _ goesOn, List.cons_append, List.foldl_cons]

/-- Wherever a write fails, a task is where some first exchanges lead and has written nothing but
their answers. -/
theorem handle_all_front (gate : Gate Text) (meets : Nat → Circumstances Text)
    (client : ClientTask Text) (packets : List Packet) :
    ∃ front behind, gate.exchanges meets client packets = front ++ behind ∧
      (handleAll (gate.handle meets) client packets).server = front.foldl Exchange.leaves client ∧
      (handleAll (gate.handle meets) client packets).sent <+: answerBytes front := by
  rcases handle_all_cases gate meets client packets with
    ⟨_, same⟩ | ⟨front, packet, behind, written, rfl, _, goesOn, _, _, ended⟩
  · rw [same]
    exact ⟨_, [], (List.append_nil _).symm, rfl, List.prefix_refl _⟩
  · rw [ended, exchanges_append gate meets client front _ goesOn, exchanges_cons]
    refine ⟨gate.exchanges meets client front ++ [_], _, (List.append_cons ..), ?_, ?_⟩
    · rw [List.foldl_append]
      rfl
    · simp only [answerBytes, List.flatMap_append]
      exact (List.prefix_append_right_inj _).mpr (List.take_prefix _ _)

/-- Without failing writes no packet breaks the connection, and all exchanges are written. -/
theorem handle_all_unbroken (gate : Gate Text) (meets : Nat → Circumstances Text)
    (unbroken : ∀ handled, (meets handled).written = none) (client : ClientTask Text)
    (packets : List Packet) :
    handleAll (gate.handle meets) client packets =
      ⟨(gate.exchanges meets client packets).foldl Exchange.leaves client,
        answerBytes (gate.exchanges meets client packets),
        answered (gate.exchanges meets client packets)⟩ := by
  have same : unfailing meets = meets := by
    funext handled
    rw [unfailing, ← unbroken handled]
  rw [← handle_all_exchanges gate meets client packets, same]

/-- The bytes arrive in any pieces, but the packets handled are those of the whole stream, if no
padding byte can be misread. -/
theorem handle_client_eq (gate : Gate Text) (meets : Nat → Circumstances Text)
    (world : World Text) (stream : List UInt8) (chunks : List (List UInt8))
    (cut : Cut stream chunks) (clear : Clear gateLoop ZeroPadding none stream) :
    gate.handleClient meets world chunks =
      conclude (gate.handle meets) ⟨0, none, world⟩ (drain gateLoop none stream) :=
  serve_loop_whole gate_reliable _ none _ stream chunks cut.1 (gate_idle none) clear

/-- The gate serves a stream as it serves the packets of the whole stream, however the stream is cut.

If no write breaks the connection, its task is where all exchanges lead and has written their answers,
and the connection is closed by an exchange without answer or by the stream's framing error, or it
waits for more. Otherwise the write of the answers to one packet fails: all answers in front of it are
written, of these the bytes in front of the failure, and the task stops behind this packet. -/
theorem gate_served (gate : Gate Text) (meets : Nat → Circumstances Text) (world : World Text)
    (stream : List UInt8) (chunks : List (List UInt8)) (cut : Cut stream chunks)
    (clear : Clear gateLoop ZeroPadding none stream) :
    let read := drain gateLoop none stream
    let start : ClientTask Text := ⟨0, none, world⟩
    let exchanges := gate.exchanges meets start read.1
    let service := gate.handleClient meets world chunks
    gate.Unbroken meets start read.1 ∧
        service = ⟨exchanges.foldl Exchange.leaves start, answerBytes exchanges,
          if answered exchanges then read.2.standing else .stopped⟩ ∨
      ∃ front packet behind written, read.1 = front ++ packet :: behind ∧
        gate.Unbroken meets start front ∧
        let before := gate.exchanges meets start front
        let reached := before.foldl Exchange.leaves start
        let broken := gate.exchange meets reached packet
        answered before = true ∧ (meets reached.handled).written = some written ∧
          broken.served.answer.getD [] ≠ [] ∧
          service = ⟨broken.leaves reached,
            answerBytes before ++ (answerBytes [broken]).take written, .stopped⟩ := by
  intro read start exchanges service
  have served : service = conclude (gate.handle meets) start read :=
    handle_client_eq gate meets world stream chunks cut clear
  rw [served]
  rcases handle_all_cases gate meets start read.1 with
    ⟨unbroken, same⟩ | ⟨front, packet, behind, written, split, unbroken, goesOn, fails, answers, ended⟩
  · refine .inl ⟨unbroken, ?_⟩
    rw [conclude, same]
  · refine .inr ⟨front, packet, behind, written, split, unbroken, goesOn, fails, answers, ?_⟩
    rw [conclude, ended]
    rfl

/-- A stream of one frame has no padding byte that could be misread. Its boundaries are the first,
where nothing is remembered, and the last, where nothing is left. -/
theorem single_frame_clear (stream : List UInt8) (packet : Packet)
    (whole : Packet.splitFromAfter stream none = (some (.ok packet), [])) :
    Clear gateLoop ZeroPadding none stream := by
  intro last remaining reached trapped
  have taken : gateLoop.split none stream = .yielded packet (rememberId none packet) [] :=
    (turn_yielded _ _ _ _ _).mpr ⟨whole, rfl⟩
  generalize rememberId none packet = next at taken
  cases reached with
  | here => exact trapped
  | later again onward =>
    obtain ⟨rfl, rfl, rfl⟩ := Verdict.yielded.inj (taken.symm.trans again)
    cases onward with
    | here =>
      cases last with
      | none => exact trapped
      | some previous =>
        obtain ⟨_, _, low, rest, same, _⟩ := trapped
        cases same
    | later empty _ =>
      have shorter := gateLoop.shrinks empty
      cases shorter

/-- An accepted login in two pieces, whose answer is cut off behind nine bytes. The answer has
fifteen bytes behind its length; the write fails, so of the two outcomes it is the second. -/
theorem gate_served_pieces :
    let start : ClientTask PlayerInfo := ⟨0, none, fun _ => some ⟨1⟩, Store.started fun _ => none⟩
    let meets : Nat → Circumstances PlayerInfo := fun _ =>
      ⟨fun _ => 0, false, false, false, false, false, id, id, id, id, some 9⟩
    let stream : List UInt8 := [0, 53, 0, 39, 38, 0, 1] ++ sampleLogin
    let login : Packet := ⟨53, 0, 10022, 1, sampleLogin, stream⟩
    let service := sampleGate.handleClient meets start.world [stream.take 30, stream.drop 30]
    service = ⟨(sampleGate.exchange meets start login).leaves start,
      (answerBytes [sampleGate.exchange meets start login]).take 9, .stopped⟩ ∧
      service.sent = [0, 15, 0, 39, 39, 0, 1, 8, 0] ∧ service.server.uid = some 1 := by
  intro start meets stream login service
  have drained : (drain gateLoop none stream).1 = [login] := by decide +kernel
  have answers : (sampleGate.exchange meets start login).served.answer.getD [] ≠ [] :=
    List.cons_ne_nil _ _
  refine ⟨?_, by decide +kernel, by decide +kernel⟩
  rcases gate_served sampleGate meets start.world stream [stream.take 30, stream.drop 30]
      ⟨by decide, by decide⟩ (single_frame_clear stream login (by decide +kernel)) with
    whole | ⟨front, packet, behind, written, split, _, _, fails, _, ended⟩
  · rw [drained] at whole
    exact absurd ⟨rfl, answers⟩ whole.1.1
  · rw [drained] at split
    cases front with
    | nil =>
      cases split
      cases fails
      exact ended
    | cons first front =>
      have tooLong := congrArg List.length split
      simp at tooLong

/-- A refusal of the login in a packet. -/
def Refusal (gate : Gate Text) (packet : Packet) (message : Sent) : Prop :=
  ∃ req result userId, gate.game.decoder.cs10022 packet.data = some req ∧ result ≠ 0 ∧
    message = ⟨Sc10023.response ⟨result, userId, req.serverTicket, none, none⟩, packet.id⟩

/-- A login that is not accepted is refused, or not answered. One case per branch of `handle_login`.
Where the login would be accepted the assumption is contradicted; everywhere else it answers one
refusal or nothing. -/
theorem unaccepted_answer (gate : Gate Text) (arrival : Arrival Text) (slot : Option UInt32)
    (world : World Text) (login : arrival.packet.cmdId = 10022)
    (unaccepted : ∀ uid, ¬ gate.Accepted uid arrival world) :
    ∃ sent : List Sent,
      (gate.handleLogin arrival slot world).answer.getD [] = sent.map Sent.packet ∧
        ∀ message ∈ sent, gate.Refusal arrival.packet message := by
  have silent : ∃ sent : List Sent, [] = sent.map Sent.packet ∧
      ∀ message ∈ sent, gate.Refusal arrival.packet message :=
    ⟨[], rfl, fun _ member => nomatch member⟩
  have refused : ∀ (req : Cs10022) (result userId : UInt32),
      gate.game.decoder.cs10022 arrival.packet.data = some req → result ≠ 0 →
      ∃ sent : List Sent, refusal arrival req result userId = sent.map Sent.packet ∧
        ∀ message ∈ sent, gate.Refusal arrival.packet message :=
    fun req result userId decoded nonzero =>
      ⟨[⟨Sc10023.response ⟨result, userId, req.serverTicket, none, none⟩, arrival.packet.id⟩], rfl,
        List.forall_mem_singleton.mpr ⟨req, result, userId, decoded, nonzero, rfl⟩⟩
  unfold handleLogin
  cases decoded : gate.game.decoder.cs10022 arrival.packet.data with
  | none => exact silent
  | some req =>
    simp only
    split
    · next key =>
      split
      · exact silent
      · next accountRead =>
        cases known : (arrival.beforeAccount world).accounts req.accountId with
        | none => exact refused req 1 0 decoded (by decide)
        | some account =>
          simp only
          split
          · exact silent
          · next rowRead =>
            split
            · exact refused req 17 (castU32 account.uid) decoded (by decide)
            · next allowed =>
              refine absurd ⟨login, ⟨req, decoded, rfl, key⟩, ?_, ?_, ?_, ?_⟩
                (unaccepted req.accountId)
              · simp only [known, Option.isSome_some]
              · exact (banned_eq_false _ _).mp (Bool.eq_false_iff.mpr allowed)
              · exact Bool.eq_false_iff.mpr accountRead
              · exact Bool.eq_false_iff.mpr rowRead
    · exact refused req 1 0 decoded (by decide)

/-- What a packet comes to on a connection that is not bound, unless it is an accepted
login. -/
theorem stranger_handled (gate : Gate Text) (arrival : Arrival Text) (world : World Text)
    (unaccepted : ∀ uid, ¬ gate.Accepted uid arrival world) :
    (gate.handlePacket arrival none world).uid = none ∧
      Untouched arrival world (gate.handlePacket arrival none world).world ∧
      ∃ sent : List Sent,
        (gate.handlePacket arrival none world).answer.getD [] = sent.map Sent.packet ∧
          ∀ message ∈ sent, gate.Refusal arrival.packet message := by
  unfold handlePacket
  by_cases login : arrival.packet.cmdId = 10022
  · rw [if_pos login]
    obtain ⟨slot, _, untouched⟩ := login_unaccepted gate arrival none world login unaccepted
    exact ⟨slot, untouched, unaccepted_answer gate arrival none world login unaccepted⟩
  · rw [if_neg login]
    exact ⟨rfl, .inl rfl, [], rfl, fun _ member => nomatch member⟩

/-- On a connection without an accepted login every answer is a refusal. By induction on the
packets: the connection stays unbound, so the next packet is again one of a stranger. -/
theorem strangers_refused (gate : Gate Text) (world : World Text) (arrivals : List (Arrival Text))
    (quiet : ∀ exchange ∈ connection gate none world arrivals, ∀ uid,
      ¬ gate.Accepted uid exchange.arrival exchange.world) :
    ∀ exchange ∈ connection gate none world arrivals, ∃ sent : List Sent,
      exchange.served.answer.getD [] = sent.map Sent.packet ∧
        ∀ message ∈ sent, gate.Refusal exchange.arrival.packet message := by
  induction arrivals generalizing world with
  | nil => exact List.forall_mem_nil _
  | cons arrival later inductionHypothesis =>
    rw [connection] at quiet ⊢
    obtain ⟨here, onward⟩ := List.forall_mem_cons.mp quiet
    obtain ⟨slot, _, refused⟩ := stranger_handled gate arrival world here
    refine List.forall_mem_cons.mpr ⟨refused, ?_⟩
    split
    · exact List.forall_mem_nil _
    · next answer =>
      simp only [answer, slot] at onward ⊢
      exact inductionHypothesis _ onward

/-- Without an accepted login a connection stays unbound, and what the others keep is kept. By
induction on the packets. The two reads of a login are the only places at which others act, and a
stranger's packet writes nothing itself. -/
theorem strangers_unbound (gate : Gate Text) (holds : World Text → Prop)
    (arrivals : List (Arrival Text))
    (others : ∀ arrival ∈ arrivals, ∀ world, holds world →
      holds (arrival.beforeAccount world) ∧ holds (arrival.beforeRow world))
    (client : ClientTask Text) (unbound : client.uid = none) (initial : holds client.world)
    (quiet : ∀ exchange ∈ connection gate none client.world arrivals, ∀ uid,
      ¬ gate.Accepted uid exchange.arrival exchange.world)
    (front behind : List (Exchange Text))
    (ran : connection gate none client.world arrivals = front ++ behind) :
    (front.foldl Exchange.leaves client).uid = none ∧
      holds (front.foldl Exchange.leaves client).world := by
  induction arrivals generalizing client front with
  | nil =>
    obtain ⟨rfl, _⟩ := List.append_eq_nil_iff.mp ran.symm
    exact ⟨unbound, initial⟩
  | cons arrival later inductionHypothesis =>
    rw [connection] at quiet ran
    obtain ⟨here, onward⟩ := List.forall_mem_cons.mp quiet
    obtain ⟨mine, theirs⟩ := List.forall_mem_cons.mp others
    obtain ⟨slot, untouched, _⟩ := stranger_handled gate arrival client.world here
    have kept : holds (gate.handlePacket arrival none client.world).world := by
      obtain ⟨account, _⟩ := mine _ initial
      rcases untouched with same | same | same <;> rw [same]
      · exact initial
      · exact account
      · exact (mine _ account).2
    cases front with
    | nil => exact ⟨unbound, initial⟩
    | cons first front =>
      obtain ⟨rfl, rest⟩ := List.cons.inj ran
      rw [List.foldl_cons]
      cases answer : (gate.handlePacket arrival none client.world).answer with
      | none =>
        simp only [answer] at rest
        obtain ⟨rfl, _⟩ := List.append_eq_nil_iff.mp rest.symm
        exact ⟨slot, kept⟩
      | some packets =>
        simp only [answer, slot] at onward rest
        exact inductionHypothesis theirs _ slot kept onward front rest

/-- Every arrival meets the circumstances of some count. -/
theorem arrivals_member (meets : Nat → Circumstances Text) (handled : Nat) (packets : List Packet) :
    ∀ arrival ∈ arrivals meets handled packets, ∃ count packet,
      arrival = (meets count).arrival packet := by
  induction packets generalizing handled with
  | nil => exact fun _ member => nomatch member
  | cons packet packets inductionHypothesis =>
    exact List.forall_mem_cons.mpr ⟨⟨handled, packet, rfl⟩, inductionHypothesis (handled + 1)⟩

/-- A refusal is read back, if its ticket leaves room for the result and the user id. The ticket is
sent back, and result, user id and the keys take at most sixteen bytes besides. -/
theorem refusal_readable (gate : Gate Text) (packet : Packet) (message : Sent)
    (refused : gate.Refusal packet message)
    (fits : ∀ req, gate.game.decoder.cs10022 packet.data = some req →
      req.serverTicket.utf8ByteSize ≤ 65514) : message.Readable := by
  obtain ⟨req, result, userId, decoded, _, rfl⟩ := refused
  refine ⟨rfl, ?_⟩
  have bound := fits req decoded
  have first := width_bound result
  have second := width_bound userId
  have header : varintLen req.serverTicket.utf8ByteSize ≤ 3 :=
    (varint_len_mono bound).trans (by decide +kernel)
  have fields : (Sc10023.response ⟨result, userId, req.serverTicket, none, none⟩).fields =
      [.uint32 1 result, .uint32 2 userId, .string 3 req.serverTicket] := rfl
  simp (disch := decide) only [Response.size, fields, Message.size_cons, Message.size_nil,
    short_uint32, short_string, textRoom]
  omega

/-- What the gate does on some chunks is what handling the packets it splits off them comes to. -/
theorem handle_client_reads (gate : Gate Text) (meets : Nat → Circumstances Text) (world : World Text)
    (chunks : List (List UInt8)) :
    gate.handleClient meets world chunks =
      conclude (gate.handle meets) ⟨0, none, world⟩ (readLoop gateLoop none [] chunks) :=
  serve_loop_eq gateLoop (gate.handle meets) none ⟨0, none, world⟩ [] chunks

/-- A client none of whose logins is accepted reads nothing but refusals off the gate, whatever it
sends, however that is cut and wherever a write fails, as far as no ticket is so long that a refusal
overflows its length field. Its connection is not bound, and the world is only as the others have
changed it. -/
theorem gate_strangers (gate : Gate Text) (meets : Nat → Circumstances Text) (world : World Text)
    (chunks : List (List UInt8))
    (quiet : ∀ exchange ∈ gate.exchanges meets ⟨0, none, world⟩ (readLoop gateLoop none [] chunks).1,
      ∀ uid, ¬ gate.Accepted uid exchange.arrival exchange.world)
    (fits : ∀ exchange ∈ gate.exchanges meets ⟨0, none, world⟩ (readLoop gateLoop none [] chunks).1,
      ∀ req, gate.game.decoder.cs10022 exchange.arrival.packet.data = some req →
        req.serverTicket.utf8ByteSize ≤ 65514) :
    let service := gate.handleClient meets world chunks
    (∀ message ∈ (readBack service.sent).1, ∃ result userId ticket, result ≠ 0 ∧
        message.fields = some (Sc10023.response ⟨result, userId, ticket, none, none⟩).fields ∧
        message.cmdId = 10023) ∧
      service.server.uid = none ∧
      ∀ holds : World Text → Prop,
        (∀ count others, holds others →
          holds ((meets count).beforeAccount others) ∧ holds ((meets count).beforeRow others)) →
        holds world → holds service.server.world := by
  intro service
  obtain ⟨front, behind, joined, server, upper⟩ :=
    handle_all_front gate meets ⟨0, none, world⟩ (readLoop gateLoop none [] chunks).1
  have served : service = conclude (gate.handle meets) ⟨0, none, world⟩ (readLoop gateLoop none [] chunks) :=
    handle_client_reads gate meets world chunks
  have kept : ∀ holds : World Text → Prop,
      (∀ count others, holds others →
        holds ((meets count).beforeAccount others) ∧ holds ((meets count).beforeRow others)) →
      holds world → service.server.uid = none ∧ holds service.server.world := by
    intro holds others initial
    rw [served, conclude, server]
    refine strangers_unbound gate holds _ ?_ ⟨0, none, world⟩ rfl initial quiet front behind joined
    intro arrival member
    obtain ⟨count, packet, rfl⟩ := arrivals_member meets 0 _ arrival member
    exact others count
  refine ⟨?_, (kept (fun _ => True) (fun _ _ _ => ⟨trivial, trivial⟩) trivial).1,
    fun holds others initial => (kept holds others initial).2⟩
  have refused := strangers_refused gate world _ quiet
  have pieces := sent_pieces (fun message => message.Readable ∧ ∃ packet, gate.Refusal packet message)
    front (fun exchange => exchange.served.answer.getD []) fun exchange member => by
      have exchanged := (joined ▸ List.mem_append_left behind member : exchange ∈
        gate.exchanges meets ⟨0, none, world⟩ (readLoop gateLoop none [] chunks).1)
      obtain ⟨sent, out, each⟩ := refused exchange exchanged
      exact ⟨sent, out, fun message inside =>
        ⟨refusal_readable gate _ message (each message inside) (fits exchange exchanged), _,
          each message inside⟩⟩
  obtain ⟨sent, out, each⟩ := pieces
  have bytes : answerBytes front = (sent.map Sent.packet).flatMap Packet.toBytes := by
    rw [← out, List.flatMap_assoc]
    rfl
  rw [bytes] at upper
  have read := read_back_prefix upper
  rw [readable_read_back sent fun message member => (each message member).1] at read
  intro message member
  rw [served] at member
  obtain ⟨refusal, inside, rfl⟩ := List.mem_map.mp (read.subset member)
  obtain ⟨packet, req, result, userId, _, nonzero, rfl⟩ := (each refusal inside).2
  exact ⟨result, userId, req.serverTicket, nonzero, rfl, rfl⟩

/-- A login with a wrong key, cut inside its payload. Its one refusal is read back. -/
theorem gate_strangers_wrong_key :
    let world : World PlayerInfo := ⟨fun _ => some ⟨1⟩, Store.started fun _ => none⟩
    let meets : Nat → Circumstances PlayerInfo := fun _ =>
      ⟨fun _ => 0, false, false, false, false, false, id, id, id, id, none⟩
    let frame : List UInt8 := [0, 24, 0, 39, 38, 0, 1] ++ forgedLogin
    (∀ message ∈ (readBack (sampleGate.handleClient meets world [frame.take 9, frame.drop 9]).sent).1,
        message.cmdId = 10023) ∧
      (readBack (sampleGate.handleClient meets world [frame.take 9, frame.drop 9]).sent).1.length = 1 ∧
      (sampleGate.handleClient meets world [frame.take 9, frame.drop 9]).server.uid = none := by
  intro world meets frame
  have reads : (readLoop gateLoop none [] [frame.take 9, frame.drop 9]).1 =
      [⟨24, 0, 10022, 1, forgedLogin, frame⟩] := by decide +kernel
  have one : (readBack
      (sampleGate.handleClient meets world [frame.take 9, frame.drop 9]).sent).1.length = 1 := by
    decide +kernel
  have handed : ∀ exchange ∈ sampleGate.exchanges meets ⟨0, none, world⟩
      (readLoop gateLoop none [] [frame.take 9, frame.drop 9]).1,
        exchange.arrival = (meets 0).arrival ⟨24, 0, 10022, 1, forgedLogin, frame⟩ := by
    rw [reads]
    exact List.forall_mem_singleton.mpr rfl
  have decoded : sampleGate.game.decoder.cs10022 forgedLogin = some ⟨1, "test", "bad"⟩ := rfl
  have refused := gate_strangers sampleGate meets world [frame.take 9, frame.drop 9]
    (fun exchange member uid accepted => by
      obtain ⟨req, read, _, key⟩ := accepted.request
      rw [handed exchange member] at read
      cases decoded.symm.trans read
      exact absurd key (by decide))
    (fun exchange member req read => by
      rw [handed exchange member] at read
      cases decoded.symm.trans read
      decide +kernel)
  refine ⟨fun message member => ?_, one, refused.2.1⟩
  obtain ⟨_, _, _, _, _, kind⟩ := refused.1 message member
  exact kind

end Gate

end CheshireLane
