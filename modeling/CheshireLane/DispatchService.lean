import CheshireLane.Library.Serving
import CheshireLane.AnswersReadBack
import CheshireLane.ConfigEditor

/-!
# The dispatch service

A client asks the dispatch service for the gateway, for the servers, and with a login
for the account to enter the game with. Each answer carries the id of its request. A
request that does not decode, and any other packet, is not answered.

A connection ends with the stream, with a framing error, or with a write that fails,
of which some bytes may have got out.
-/

namespace CheshireLane

open WireFormat StreamSplitter

/-- The fields of a server in the order of their numbers. The four behind the name are optional. -/
def Serverinfo.fields (server : Serverinfo) : Message :=
  repeatedUint32 1 server.ids ++
    [.string 2 server.ip, .uint32 3 server.port, .uint32 4 server.state, .string 5 server.name] ++
    optionalUint32 6 server.tagState ++ optionalUint32 7 server.sort ++
    optionalString 8 server.proxyIp ++ optionalUint32 9 server.proxyPort

/-- Answers a request for the gateway with its address and the versions. -/
structure Sc10801 where
  gatewayIp : String
  gatewayPort : UInt32
  url : String
  version : List String
  proxyIp : Option String
  proxyPort : Option UInt32
  isTs : UInt32
  timestamp : UInt32
  monday0oclockTimestamp : UInt32
  cdnList : List String

/-- The versions are repeated, the addresses required. -/
def Sc10801.response (message : Sc10801) : Response where
  cmdId := 10801
  fields :=
    [.string 1 message.gatewayIp, .uint32 2 message.gatewayPort, .string 3 message.url] ++
      message.version.map (.string 4) ++ optionalString 5 message.proxyIp ++
      optionalUint32 6 message.proxyPort ++
      [.uint32 7 message.isTs, .uint32 8 message.timestamp,
        .uint32 9 message.monday0oclockTimestamp] ++
      message.cdnList.map (.string 10)

/-- The lists of notices and of limited servers stay empty. -/
structure Sc10021 where
  result : UInt32
  serverlist : List Serverinfo
  accountId : UInt32
  serverTicket : String
  device : Option UInt32

/-- The servers are repeated; the notices are left empty and leave no bytes. -/
def Sc10021.response (message : Sc10021) : Response where
  cmdId := 10021
  fields :=
    [.uint32 1 message.result] ++
      repeatedMessage 2 (message.serverlist.map Serverinfo.fields) ++
      [.uint32 3 message.accountId, .string 4 message.serverTicket] ++
      optionalUint32 6 message.device

/-- Answers a request for the servers. -/
structure Sc10019 where
  serverlist : List Serverinfo

/-- One entry for each server, in the order of the configuration. -/
def Sc10019.response (message : Sc10019) : Response where
  cmdId := 10019
  fields := repeatedMessage 1 (message.serverlist.map Serverinfo.fields)

/-- A login at the dispatch service. The ticket is checked against the key, and a further argument
carries the account. -/
structure Cs10020 where
  arg1 : String
  arg2 : Option String
  arg3 : Option String
  checkKey : String
  device : Option UInt32

/-- `DispatchData`: the part of the configuration that the answers are made of. -/
structure DispatchData where
  gatewayIp : String
  gatewayPort : UInt16
  version : List String
  servers : List Serverinfo

/-- The configured data, and what the service needs besides. -/
structure Dispatch where
  data : DispatchData
  md5WithSalt : String → String
  cs10020 : List UInt8 → Option Cs10020

namespace Dispatch

/-- The answer to `Cs10800`. -/
def gateway (data : DispatchData) (now : UInt32) : Sc10801 where
  gatewayIp := data.gatewayIp
  gatewayPort := data.gatewayPort.toUInt32
  url := "http://" ++ data.gatewayIp
  version := data.version
  proxyIp := some data.gatewayIp
  proxyPort := some data.gatewayPort.toUInt32
  isTs := 0
  timestamp := now
  monday0oclockTimestamp := 1606114800
  cdnList := []

/-- The answer to `Cs10020`. -/
def login (dispatch : Dispatch) (req : Cs10020) : Sc10021 where
  result := if dispatch.md5WithSalt req.arg1 ≠ req.checkKey then 1 else 0
  serverlist := dispatch.data.servers
  accountId := (req.arg2.bind parseU32).getD 0
  serverTicket := req.arg3.getD ""
  device := req.device

/-- The message a packet is answered with. -/
def reply (dispatch : Dispatch) (now : UInt32) (packet : Packet) : Option Response :=
  if packet.cmdId = 10800 then some (gateway dispatch.data now).response
  else if packet.cmdId = 10020 then
    (dispatch.cs10020 packet.data).map fun req => (dispatch.login req).response
  else if packet.cmdId = 10018 then some (Sc10019.response ⟨dispatch.data.servers⟩)
  else none

/-- `handle_packet`: the answer goes out under the id of the request. -/
def handlePacket (dispatch : Dispatch) (now : UInt32) (packet : Packet) : Option Packet :=
  (dispatch.reply now packet).map fun response => Packet.encode response packet.id

/-- What happens while a packet is handled: the clock is read, and the write may fail
behind some bytes. -/
structure Moment where
  now : UInt32
  written : Option Nat

/-- One turn of the inner loop of `handle_client`. The server counts its packets. -/
def handle (dispatch : Dispatch) (moments : Nat → Moment) (handled : Nat) (packet : Packet) :
    Turn Nat UInt8 :=
  match dispatch.handlePacket (moments handled).now packet with
  | none => ⟨handled + 1, [], true⟩
  | some rsp =>
    match (moments handled).written with
    | none => ⟨handled + 1, rsp.toBytes, true⟩
    | some written => ⟨handled + 1, rsp.toBytes.take written, false⟩

/-- `handle_client` on the chunks it reads. -/
def handleClient (dispatch : Dispatch) (moments : Nat → Moment) (chunks : List (List UInt8)) :
    Service Unit UInt8 UInt8 Nat :=
  serveLoop dispatchLoop (dispatch.handle moments) () 0 [] chunks

/-- The answers to some packets, the first of which is the given one of its connection. -/
def answers (dispatch : Dispatch) (moments : Nat → Moment) : Nat → List Packet → List Sent
  | _, [] => []
  | handled, packet :: packets =>
    ((dispatch.reply (moments handled).now packet).map fun response => ⟨response, packet.id⟩).toList ++
      dispatch.answers moments (handled + 1) packets

/-- The command a packet is answered with. -/
def replyKind (dispatch : Dispatch) (packet : Packet) : Option UInt16 :=
  if packet.cmdId = 10800 then some 10801
  else if packet.cmdId = 10020 then
    if (dispatch.cs10020 packet.data).isSome then some 10021 else none
  else if packet.cmdId = 10018 then some 10019
  else none

/-- Which answer a packet gets depends on its command id, and for a login on whether it decodes. -/
theorem reply_kind (dispatch : Dispatch) (now : UInt32) (packet : Packet) :
    (dispatch.reply now packet).map Response.cmdId = dispatch.replyKind packet := by
  unfold reply replyKind
  split
  · rfl
  · split
    · cases dispatch.cs10020 packet.data <;> rfl
    · split <;> rfl

/-- One answer for each request that has one, in order and under its id. -/
theorem answers_kinds (dispatch : Dispatch) (moments : Nat → Moment) (handled : Nat)
    (packets : List Packet) :
    (dispatch.answers moments handled packets).map (fun sent => (sent.response.cmdId, sent.id)) =
      packets.filterMap fun packet => (dispatch.replyKind packet).map fun kind => (kind, packet.id) := by
  induction packets generalizing handled with
  | nil => rfl
  | cons packet packets inductionHypothesis =>
    have kind := reply_kind dispatch (moments handled).now packet
    rw [answers, List.map_append, inductionHypothesis, List.filterMap_cons, ← kind]
    cases dispatch.reply (moments handled).now packet <;> rfl

/-- Without a failing write all packets are handled and all answers are written. By induction on the
packets, whose number is the count of the moments; a packet without an answer writes nothing. -/
theorem handle_all_answers (dispatch : Dispatch) (moments : Nat → Moment)
    (unbroken : ∀ handled, (moments handled).written = none) (handled : Nat)
    (packets : List Packet) :
    handleAll (dispatch.handle moments) handled packets =
      ⟨handled + packets.length,
        ((dispatch.answers moments handled packets).map Sent.packet).flatMap Packet.toBytes, true⟩ := by
  induction packets generalizing handled with
  | nil => rfl
  | cons packet packets inductionHypothesis =>
    have turn : dispatch.handle moments handled packet =
        ⟨handled + 1, (((dispatch.reply (moments handled).now packet).map fun response =>
          (⟨response, packet.id⟩ : Sent)).toList.map Sent.packet).flatMap Packet.toBytes, true⟩ := by
      unfold handle handlePacket
      cases dispatch.reply (moments handled).now packet with
      | none => rfl
      | some response =>
        simp only [Option.map_some, unbroken handled, Option.toList_some, List.map_cons, List.map_nil,
          List.flatMap_cons, List.flatMap_nil, List.append_nil]
        rfl
    rw [handle_all_cons, turn]
    simp only [↓reduceIte, inductionHypothesis, answers, List.map_append, List.flatMap_append,
      List.length_cons]
    congr 1
    omega

/-- The same moments with writes that do not fail. -/
def whole (moments : Nat → Moment) : Nat → Moment :=
  fun handled => { moments handled with written := none }

/-- The answers do not depend on whether they can be written. -/
theorem answers_whole (dispatch : Dispatch) (moments : Nat → Moment) (handled : Nat)
    (packets : List Packet) :
    dispatch.answers (whole moments) handled packets = dispatch.answers moments handled packets := by
  induction packets generalizing handled with
  | nil => rfl
  | cons packet packets inductionHypothesis => rw [answers, answers, inductionHypothesis]; rfl

/-- A packet breaks the connection if it is answered and the write of its answer fails. -/
def Breaks (dispatch : Dispatch) (moments : Nat → Moment) (handled : Nat) (packet : Packet) : Prop :=
  (moments handled).written.isSome = true ∧ (dispatch.replyKind packet).isSome = true

/-- What is answered is told by the kind of the answer, which no clock changes. -/
theorem reply_is_some (dispatch : Dispatch) (now : UInt32) (packet : Packet) :
    (dispatch.replyKind packet).isSome = (dispatch.reply now packet).isSome := by
  rw [← reply_kind dispatch now packet, Option.isSome_map]

/-- A packet that does not break the connection is handled as if no write failed. -/
theorem handle_unbroken (dispatch : Dispatch) (moments : Nat → Moment) (handled : Nat)
    (packet : Packet) (unbroken : ¬ dispatch.Breaks moments handled packet) :
    dispatch.handle moments handled packet = dispatch.handle (whole moments) handled packet := by
  rw [Breaks, reply_is_some dispatch (moments handled).now packet] at unbroken
  unfold handle handlePacket
  cases replied : dispatch.reply (moments handled).now packet with
  | none =>
    simp only [whole, replied, Option.map_none]
  | some response =>
    cases written : (moments handled).written with
    | none => simp only [whole, replied, Option.map_some]
    | some bytes => exact absurd ⟨by rw [written]; rfl, by rw [replied]; rfl⟩ unbroken

/-- A packet that breaks the connection is answered up to the byte at which the write fails. -/
theorem handle_broken (dispatch : Dispatch) (moments : Nat → Moment) (handled : Nat)
    (packet : Packet) (breaks : dispatch.Breaks moments handled packet) :
    ∃ response written, dispatch.reply (moments handled).now packet = some response ∧
      (moments handled).written = some written ∧
      dispatch.handle moments handled packet =
        ⟨handled + 1, (Packet.encode response packet.id).toBytes.take written, false⟩ := by
  obtain ⟨fails, answered⟩ := breaks
  rw [reply_is_some dispatch (moments handled).now packet] at answered
  obtain ⟨written, fails⟩ := Option.isSome_iff_exists.mp fails
  obtain ⟨response, replied⟩ := Option.isSome_iff_exists.mp answered
  refine ⟨response, written, replied, fails, ?_⟩
  simp only [handle, handlePacket, replied, Option.map_some, fails]

/-- The bytes of all answers to some packets, if they are the first of their connection. -/
def answerBytes (dispatch : Dispatch) (moments : Nat → Moment) (packets : List Packet) : List UInt8 :=
  ((dispatch.answers moments 0 packets).map Sent.packet).flatMap Packet.toBytes

/-- The answers to the packets of a stream. -/
def answered (dispatch : Dispatch) (moments : Nat → Moment) (stream : List UInt8) : List Sent :=
  dispatch.answers moments 0 (drain dispatchLoop () stream).1

/-- The bytes arrive in any pieces, but the packets handled are those of the whole stream, because
no frame depends on where it was cut. -/
theorem handle_client_eq (dispatch : Dispatch) (moments : Nat → Moment) (stream : List UInt8)
    (chunks : List (List UInt8)) (cut : Cut stream chunks) :
    dispatch.handleClient moments chunks =
      conclude (dispatch.handle moments) 0 (drain dispatchLoop () stream) :=
  serve_loop_whole dispatch_reliable _ () 0 stream chunks cut.1 (by rw [drain_eq]; rfl)
    fun _ _ _ => id

/-- No packet of these meets a write that fails and has an answer. -/
def Unbroken (dispatch : Dispatch) (moments : Nat → Moment) (packets : List Packet) : Prop :=
  StreamSplitter.Unbroken (dispatch.Breaks moments) (dispatch.handle (whole moments)) 0 packets

/-- The connection has answered all packets, or all up to one whose answer got out in part. In front
of the first answer that meets a failing write the connection is as it is when none fails, and that
answer is the last thing it writes. -/
theorem handle_all_cases (dispatch : Dispatch) (moments : Nat → Moment) (packets : List Packet) :
    (dispatch.Unbroken moments packets ∧ handleAll (dispatch.handle moments) 0 packets =
        ⟨packets.length, dispatch.answerBytes moments packets, true⟩) ∨
      ∃ front packet behind response written, packets = front ++ packet :: behind ∧
        dispatch.Unbroken moments front ∧ (moments front.length).written = some written ∧
        dispatch.reply (moments front.length).now packet = some response ∧
        handleAll (dispatch.handle moments) 0 packets = ⟨front.length + 1,
          dispatch.answerBytes moments front ++
            (Packet.encode response packet.id).toBytes.take written, false⟩ := by
  have all : ∀ packets, handleAll (dispatch.handle (whole moments)) 0 packets =
      ⟨packets.length, dispatch.answerBytes moments packets, true⟩ := by
    intro packets
    rw [handle_all_answers dispatch (whole moments) (fun _ => rfl) 0 packets, answers_whole,
      Nat.zero_add]
    rfl
  rcases handle_all_broken (handle_unbroken dispatch moments)
      (fun handled packet breaks => by
        obtain ⟨_, _, _, _, ended⟩ := handle_broken dispatch moments handled packet breaks
        rw [ended]) 0 packets with
    ⟨unbroken, same⟩ | ⟨front, packet, behind, split, unbroken, _, breaks, ended⟩
  · exact .inl ⟨unbroken, same.trans (all packets)⟩
  · rw [all front] at breaks ended
    obtain ⟨response, written, replied, fails, turn⟩ :=
      handle_broken dispatch moments front.length packet breaks
    refine .inr ⟨front, packet, behind, response, written, split, unbroken, fails, replied, ?_⟩
    rw [ended, turn]

/-- The dispatch service answers a stream of requests, however the stream is cut and wherever a
write fails.

Each request that has an answer gets one, in order and under its own id. If no answer meets a failing
write, all answers are written and the connection waits for more or has met the stream's framing
error. Otherwise a first answer does: all answers in front of it are written, of this one the bytes in
front of the failure, and nothing behind it. -/
theorem dispatch_served (dispatch : Dispatch) (moments : Nat → Moment) (stream : List UInt8)
    (chunks : List (List UInt8)) (cut : Cut stream chunks) :
    let read := drain dispatchLoop () stream
    let service := dispatch.handleClient moments chunks
    (dispatch.answered moments stream).map (fun message => (message.response.cmdId, message.id)) =
        read.1.filterMap (fun packet =>
          (dispatch.replyKind packet).map fun kind => (kind, packet.id)) ∧
      (dispatch.Unbroken moments read.1 ∧
          service = ⟨read.1.length, dispatch.answerBytes moments read.1, read.2.standing⟩ ∨
        ∃ front packet behind response written, read.1 = front ++ packet :: behind ∧
          dispatch.Unbroken moments front ∧ (moments front.length).written = some written ∧
          dispatch.reply (moments front.length).now packet = some response ∧
          service = ⟨front.length + 1, dispatch.answerBytes moments front ++
            (Packet.encode response packet.id).toBytes.take written, .stopped⟩) := by
  intro read service
  refine ⟨answers_kinds dispatch moments 0 read.1, ?_⟩
  have served : service = conclude (dispatch.handle moments) 0 read :=
    handle_client_eq dispatch moments stream chunks cut
  rcases handle_all_cases dispatch moments read.1 with
    ⟨unbroken, same⟩ | ⟨front, packet, behind, response, written, split, unbroken, fails, replied, ended⟩
  · refine .inl ⟨unbroken, ?_⟩
    rw [served, conclude, same]
    rfl
  · refine .inr ⟨front, packet, behind, response, written, split, unbroken, fails, replied, ?_⟩
    rw [served, conclude, ended]
    rfl

/-- A request for the servers and one for the gateway, cut inside the second frame. The second write
fails behind eight bytes: the first answer got out whole, and of the second one these bytes. -/
theorem dispatch_served_cut :
    let dispatch : Dispatch := ⟨⟨"127.0.0.1", 21180, [], []⟩, id, fun _ => none⟩
    let first : List UInt8 := [0, 7, 0, 39, 34, 0, 3, 8, 1]
    let second : List UInt8 := [0, 10, 0, 42, 48, 0, 4, 8, 1, 18, 1, 48]
    let chunks : List (List UInt8) := [first ++ second.take 1, second.drop 1]
    let moments : Nat → Moment := fun handled => ⟨0, if handled = 1 then some 8 else none⟩
    let packets : List Packet := [⟨7, 0, 10018, 3, [8, 1], first⟩,
      ⟨10, 0, 10800, 4, [8, 1, 18, 1, 48], second⟩]
    (∃ front packet behind response written, packets = front ++ packet :: behind ∧
      (moments front.length).written = some written ∧
      dispatch.handleClient moments chunks = ⟨front.length + 1, dispatch.answerBytes moments front ++
        (Packet.encode response packet.id).toBytes.take written, .stopped⟩) ∧
      (dispatch.handleClient moments chunks).sent =
        [0, 5, 0, 39, 35, 0, 3] ++ [0, 63, 0, 42, 49, 0, 4, 10] := by
  intro dispatch first second chunks moments packets
  have drained : (drain dispatchLoop () (first ++ second)).1 = packets := by decide +kernel
  refine ⟨?_, by decide +kernel⟩
  rcases (dispatch_served dispatch moments (first ++ second) chunks ⟨by decide, by decide⟩).2 with
    written | ⟨front, packet, behind, response, written, split, _, fails, _, ended⟩
  · rw [drained] at written
    exact absurd ⟨rfl, rfl⟩ (written.1.2 rfl).1
  · exact ⟨front, packet, behind, response, written, drained.symm.trans split, fails, ended⟩

end Dispatch

end CheshireLane
