import CheshireLane.ResponseFrames
import CheshireLane.ResponseSchemas

/-!
# Every answer is read back

Each arm answers with messages of the schemas their commands have. So a client that knows the
schemas reads every packet as the very message that was pushed, whatever the record holds, and
splits the stream into these packets as long as no answer is too long for its length field.
-/

namespace CheshireLane

open WireFormat StreamSplitter

/-- The packets are conforming responses under one id. -/
def Announced (id : UInt16) (out : List Packet) : Prop :=
  ∃ responses, out = pushAll id responses ∧ ∀ response ∈ responses, response.Conforms

/-- Pushing nothing announces nothing. -/
theorem announced_nil (id : UInt16) : Announced id [] :=
  ⟨[], rfl, fun _ member => nomatch member⟩

/-- A conforming response that is pushed alone is announced. -/
theorem announced_single {id : UInt16} {response : Response} (conforming : response.Conforms) :
    Announced id (pushAll id [response]) :=
  ⟨[response], rfl, List.forall_mem_singleton.mpr conforming⟩

/-- Most arms answer a request they can decode, and ignore one they cannot. -/
theorem announced_answer {decoder : Decoder} {request : Request} {packet : Packet}
    {response : Response} (conforming : response.Conforms) :
    Announced packet.id (answer decoder request packet response) := by
  unfold answer
  split
  · exact announced_single conforming
  · exact announced_nil packet.id

/-- The dock is sent in pieces, and each piece is a list of ships of the player. A list message is
accepted when its items are, and the items of a typed record are. -/
theorem ships_conform (player : PlayerInfo) (typed : player.Typed) :
    ∀ response ∈ shipData player, response.Conforms := by
  have listed : ∀ (cmdId : UInt16) (ships : List Shipinfo), ships ⊆ player.ships →
      schemaOf cmdId = some (listSchema 1 Shipinfo.schema) →
      Response.Conforms ⟨cmdId, repeatedMessage 1 (ships.map Shipinfo.fields)⟩ := by
    intro cmdId ships owned known
    have accepted := @accepts_items Shipinfo.schema _ 1 ships Shipinfo.fields fun ship member =>
      ship_accepted ship (typed.ships ship (owned member))
    rw [Response.Conforms, known, Option.any_some, accepted]
  have pieces : ∀ chunk ∈ chunks 100 player.ships, chunk ⊆ player.ships :=
    fun chunk member => chunk_members (by decide) player.ships chunk member
  rw [ship_data_eq]
  refine List.forall_mem_cons.mpr ⟨listed 12001 _ ?_ rfl, ?_⟩
  · cases first : (chunks 100 player.ships).head? with
    | none => exact List.nil_subset _
    | some chunk => exact pieces chunk (List.mem_of_head? first)
  · intro response member
    obtain ⟨chunk, inside, rfl⟩ := List.mem_map.mp member
    exact listed 12010 chunk (pieces chunk (List.mem_of_mem_tail inside)) rfl

/-- A response that is a list conforms if the schema of its elements accepts each of them. -/
theorem list_conforms {α : Type} (element : Schema) {cmdId : UInt16} {tag : Nat} {items : List α}
    {fields : α → Message} (known : schemaOf cmdId = some (listSchema tag element))
    (each : ∀ item ∈ items, element.accepts (fields item) = true) :
    Response.Conforms ⟨cmdId, repeatedMessage tag (items.map fields)⟩ := by
  rw [Response.Conforms, known, Option.any_some, accepts_items tag items fields each]

/-- Commanders and presets are passed on, and the boxes are integers. -/
theorem commanders_conform (player : PlayerInfo) (typed : player.Typed) :
    player.notifyCommanderData.response.Conforms := by
  refine conforms_by Sc25001.schema rfl ?_ ?_
  · simp [Message.has, Sc25001.schema, Sc25001.response, Field.tag]
  · simp only [Sc25001.response, Message.conforms_append, Bool.and_eq_true]
    and_intros
    · exact conforms_messages 1 _ rfl typed.commanders
    · exact @conforms_repeated _ (numbers [1, 2, 3, 4]) _ 2 _ _ rfl fun _ _ => rfl
    · rfl
    · exact conforms_messages 4 _ rfl typed.presets

/-- Every message of the burst conforms, whatever the lists of the record hold. Only the commanders,
the fleets and the current chapter are passed on as the record has them, so their shape is what a
typed record gives; all other messages are written by the code itself. -/
theorem burst_conforms (game : Game) (player : PlayerInfo) (now : Clock) (typed : player.Typed) :
    ∀ response ∈ playerData game player now, response.Conforms := by
  have buffs : player.notifyPlayerBuff.response.Conforms :=
    list_conforms pairSchema rfl fun _ _ => rfl
  have skins : player.notifyPlayerShipSkinsData.response.Conforms :=
    list_conforms pairSchema rfl fun _ _ => rfl
  have chapters : player.notifyChapterInfo.response.Conforms :=
    list_conforms (numbers [1, 2, 3, 4, 5, 6, 7, 8]) rfl fun _ _ => rfl
  have bag : player.notifyBagData.response.Conforms :=
    list_conforms pairSchema rfl fun _ _ => rfl
  have statistics : (player.notifyStatistics game.data).response.Conforms := by
    refine conforms_by _ rfl ?_ ?_
    · simp [Message.has, Sc17001.response, Field.tag]
    · simp only [Sc17001.response, Message.conforms_append, Bool.and_eq_true]
      exact ⟨@conforms_repeated _ (numbers [1, 2, 3, 4, 5, 6, 7]) _ 3 _ _ rfl fun _ _ => rfl, rfl⟩
  have commanders := commanders_conform player typed
  have fleets : player.notifyFleetData.response.Conforms := by
    have accepted := accepts_list 1 player.fleet typed.fleet
    rwa [Response.Conforms, show schemaOf player.notifyFleetData.response.cmdId =
      some (listSchema 1 fleetSchema) from rfl, Option.any_some]
  have chapter : player.notifyCurrentChapter.response.Conforms := by
    refine conforms_by _ rfl rfl ?_
    rw [show player.notifyCurrentChapter.response.fields =
      .uint32 1 _ :: optionalMessage 2 player.currentChapter from rfl, Message.conforms,
      conforms_optional 2 _ rfl typed.currentChapter]
    rfl
  simp only [playerData, List.forall_mem_append, List.forall_mem_cons]
  refine ⟨⟨⟨rfl, player_data_conforms _, buffs, rfl, rfl, rfl, rfl, commanders, statistics, rfl,
    rfl, List.forall_mem_nil _⟩, ships_conform player typed⟩, fleets, skins, rfl, rfl, rfl,
    chapters, chapter, rfl, rfl, rfl, rfl, rfl, rfl, bag, rfl, rfl, rfl, rfl, rfl, rfl, rfl, rfl,
    rfl, rfl, rfl, rfl, rfl, List.forall_mem_nil _⟩

/-- The id a request is answered under: chat answers carry none. -/
def replyId (packet : Packet) : Request → UInt16
  | .cs50102 => 0
  | _ => packet.id

/-- The chat commands answer with the new ships or skins, and all of them with a chat message.
Giving ships keeps a record typed, so the dock that is pushed behind it conforms again. -/
theorem chat_announced (data : GameData) (player : PlayerInfo) (dirty : Bool) (content : String)
    (typed : player.Typed) : Announced 0 (handleChat data player dirty content).out := by
  unfold handleChat
  generalize ChatCommand.ofContent content = command
  have reply : (chatReply command).response.Conforms := rfl
  cases command with
  | ship =>
    have filled := give_all_ships_invariant data PlayerInfo.Typed (PlayerInfo.Typed.add_ship data)
      player typed
    refine ⟨shipData (giveAllShips data player) ++ [(chatReply .ship).response], ?_, ?_⟩
    · simp only [pushShipData, pushAll, List.map_append]
    · exact List.forall_mem_append.mpr
        ⟨ships_conform _ filled, List.forall_mem_singleton.mpr reply⟩
  | skin =>
    refine ⟨[(giveAllSkins data player).notifyPlayerShipSkinsData.response] ++
      [(chatReply .skin).response], ?_, ?_⟩
    · simp only [pushAll, List.map_append]
    · exact List.forall_mem_append.mpr
        ⟨List.forall_mem_singleton.mpr (list_conforms pairSchema rfl fun _ _ => rfl),
          List.forall_mem_singleton.mpr reply⟩
  | other | missing => exact announced_single reply

/-- Every request is answered with conforming messages, if at all. One case per arm; most arms answer
with a message of a fixed shape, which is checked by evaluation. -/
theorem request_announced (game : Game) (uid : UInt32) (now : Clock) (player : PlayerInfo)
    (dirty : Bool) (packet : Packet) (request : Request) (typed : player.Typed) :
    Announced (replyId packet request)
      (handleRequest game uid now player dirty packet request).out := by
  cases request
  case cs11001 => exact ⟨_, rfl, burst_conforms game player now typed⟩
  case cs15008 => exact announced_single rfl
  case cs10991 | cs12299 | cs15300 => exact announced_nil _
  case cs50102 =>
    simp only [handleRequest]
    split
    · exact chat_announced game.data player dirty _ typed
    · exact announced_nil 0
  case cs11401 =>
    simp only [handleRequest]
    split
    · next req _ =>
      by_cases moved : player.chatRoomId ≠ if req.roomId = 0 then 1 else req.roomId
      · rw [if_pos moved]
        exact announced_single rfl
      · rw [if_neg moved]
        exact announced_single rfl
    · exact announced_nil _
  case cs10022 | cs10024 | cs11017 | cs11011 | cs12202 | cs11701 =>
    simp only [handleRequest]
    split
    · exact announced_single rfl
    · exact announced_nil _
  case cs29001 =>
    simp only [handleRequest]
    split
    · exact announced_single (educate_conforms _ _ _)
    · exact announced_nil _
  case cs34001 =>
    simp only [handleRequest]
    split
    · exact announced_single (list_conforms ⟨[1, 2], integers [1, 2, 3]⟩ rfl
        fun info _ => group_accepted info)
    · exact announced_nil _
  all_goals exact announced_answer (by decide +kernel)

/-- A response and the id it is sent under. -/
structure Sent where
  response : Response
  id : UInt16

namespace Sent

/-- The packet that carries the response. -/
def packet (sent : Sent) : Packet := Packet.encode sent.response sent.id

/-- It conforms to its schema and fits its length field. -/
def Readable (sent : Sent) : Prop := sent.response.Conforms ∧ sent.response.size ≤ 65530

end Sent

/-- The message a packet carries: none if nothing of the protocol has its command, or if the payload
is not a message of that schema. -/
def Packet.message (packet : Packet) : Option Message :=
  (schemaOf packet.cmdId).bind fun schema => readMessage schema packet.data

/-- A conforming response is read from its packet as it was pushed. -/
theorem conforming_read (sent : Sent) (conforming : sent.response.Conforms) :
    sent.packet.message = some sent.response.fields := by
  obtain ⟨schema, known, accepted⟩ := (Option.any_eq_true _ _).mp conforming
  rw [Packet.message, show schemaOf sent.packet.cmdId = some schema from known, Option.bind_some]
  exact read_message_encode schema _ accepted

/-- A message as a client has it, with the command and the id of its packet. -/
structure ReadBack where
  cmdId : UInt16
  id : UInt16
  fields : Option Message

/-- A client splits the frames off and reads each payload by the schema of its command. -/
def readBack (bytes : List UInt8) : List ReadBack × Ending Unit UInt8 :=
  let (packets, ending) := drain dispatchLoop () bytes
  (packets.map fun packet => ⟨packet.cmdId, packet.id, packet.message⟩, ending)

/-- The bytes of readable responses are read back as these responses. A readable payload is never
one byte long and fits its length field, so the frames are split as they were joined; each payload
then conforms and is read by its schema. -/
theorem readable_read_back (sent : List Sent) (readable : ∀ message ∈ sent, message.Readable) :
    readBack ((sent.map Sent.packet).flatMap Packet.toBytes) =
      (sent.map fun message => ⟨message.response.cmdId, message.id, some message.response.fields⟩,
        .pending () []) := by
  have drained := drain_frames (sent.map fun message => message.response.outgoing message.id) [] (by
    intro outgoing member
    obtain ⟨message, inside, rfl⟩ := List.mem_map.mp member
    have size : (message.response.outgoing message.id).payload.length = message.response.size :=
      Message.encode_length message.response.fields
    exact ⟨size ▸ Message.size_ne_one message.response.fields, size ▸ (readable message inside).2⟩)
    (by decide)
  have bytes : (sent.map Sent.packet).flatMap Packet.toBytes =
      ((sent.map fun message => message.response.outgoing message.id).map Outgoing.frame).flatten ++
        [] := by
    rw [List.append_nil, List.flatMap_map, List.map_map]
    rfl
  rw [readBack, bytes, drained]
  simp only [List.map_map, Prod.mk.injEq, and_true]
  refine List.map_congr_left fun message inside => ?_
  have read := conforming_read message (readable message inside).1
  exact congrArg (ReadBack.mk message.response.cmdId message.id) read

/-- The front part of some bytes has the first messages of all of them. -/
theorem read_back_prefix {front bytes : List UInt8} (early : front <+: bytes) :
    (readBack front).1 <+: (readBack bytes).1 :=
  (drain_front dispatch_reliable () front bytes early fun _ _ _ => id).map _

/-- The answers to all packets of a run. -/
def answers (game : Game) (uid : UInt32) (player : PlayerInfo) (packets : List Incoming) :
    List Packet :=
  (visits game uid player packets).flatMap fun visit =>
    (handlePlayerPacket game uid visit.2.now visit.1 false visit.2.packet).out

/-- What is sent piece by piece is sent as a whole. -/
theorem sent_pieces {α : Type} (property : Sent → Prop) (items : List α) (out : α → List Packet)
    (each : ∀ item ∈ items, ∃ sent : List Sent,
      out item = sent.map Sent.packet ∧ ∀ message ∈ sent, property message) :
    ∃ sent : List Sent,
      items.flatMap out = sent.map Sent.packet ∧ ∀ message ∈ sent, property message := by
  induction items with
  | nil => exact ⟨[], rfl, List.forall_mem_nil _⟩
  | cons item items inductionHypothesis =>
    obtain ⟨here, later⟩ := List.forall_mem_cons.mp each
    obtain ⟨first, firstOut, firstSent⟩ := here
    obtain ⟨rest, restOut, restSent⟩ := inductionHypothesis later
    refine ⟨first ++ rest, ?_, List.forall_mem_append.mpr ⟨firstSent, restSent⟩⟩
    rw [List.flatMap_cons, firstOut, restOut, List.map_append]

/-- The answers to one packet, known to an arm or not, are conforming responses. -/
theorem handled_sent (game : Game) (uid : UInt32) (now : Clock) (player : PlayerInfo)
    (packet : Packet) (typed : player.Typed) :
    ∃ sent : List Sent, (handlePlayerPacket game uid now player false packet).out =
      sent.map Sent.packet ∧ ∀ message ∈ sent, message.response.Conforms := by
  unfold handlePlayerPacket
  cases Request.ofCmdId packet.cmdId with
  | none => exact ⟨[], rfl, List.forall_mem_nil _⟩
  | some request =>
    obtain ⟨responses, out, conform⟩ :=
      request_announced game uid now player false packet request typed
    refine ⟨responses.map fun response => ⟨response, replyId packet request⟩, ?_,
      List.forall_mem_map.mpr conform⟩
    simp only [out, pushAll, List.map_map]
    rfl

/-- Over every run of the player runtime, from any record and over any packets, every packet that is
pushed carries a message of the protocol: its schema accepts it, with all that is required, and a
client reads exactly the fields that were pushed. If no payload is too long for its length field, a
client that has the bytes of all answers splits them into these messages, in order and with their
ids, and nothing is left over. -/
theorem run_read_back (game : Game) (uid : UInt32) (player : PlayerInfo) (typed : player.Typed)
    (packets : List Incoming) :
    ∃ sent : List Sent, answers game uid player packets = sent.map Sent.packet ∧
      (∀ message ∈ sent, message.response.Conforms ∧
        message.packet.message = some message.response.fields) ∧
      ((∀ packet ∈ answers game uid player packets, packet.data.length ≤ 65530) →
        readBack ((answers game uid player packets).flatMap Packet.toBytes) =
          (sent.map fun message =>
              ⟨message.response.cmdId, message.id, some message.response.fields⟩,
            .pending () [])) := by
  have each : ∀ visit ∈ visits game uid player packets, ∃ sent : List Sent,
      (handlePlayerPacket game uid visit.2.now visit.1 false visit.2.packet).out =
        sent.map Sent.packet ∧ ∀ message ∈ sent, message.response.Conforms := by
    intro visit member
    have kept : visit.1.Typed := visits_invariant game uid PlayerInfo.Typed
      (PlayerInfo.Typed.change game uid) player typed packets visit member
    exact handled_sent game uid visit.2.now visit.1 visit.2.packet kept
  obtain ⟨sent, out, conform⟩ := sent_pieces (fun message => message.response.Conforms) _ _ each
  refine ⟨sent, out, fun message member => ?_, fun fits => ?_⟩
  · exact ⟨conform message member, conforming_read message (conform message member)⟩
  · rw [answers, out] at fits ⊢
    refine readable_read_back sent fun message member => ⟨conform message member, ?_⟩
    have short := fits message.packet (List.mem_map_of_mem member)
    rwa [show message.packet.data.length = message.response.size from
      Message.encode_length message.response.fields] at short

/-- A player with a fleet and a strengthened ship asks for all ships and moves to a chat room; the last
packet is one no arm handles. -/
theorem run_read_back_dock :
    let ship : List UInt8 := [8, 1, 18, 4, 115, 104, 105, 112]
    let decoder : Decoder := { Decoder.deaf with
      cs50102 := fun payload => if payload = ship then some ⟨"ship"⟩ else none
      cs11401 := fun payload => if payload = [8, 5] then some ⟨5⟩ else none }
    let game : Game := ⟨⟨⟨[], by decide⟩, none, none, none⟩, decoder, ""⟩
    let player : PlayerInfo :=
      { uid := 1
        ships := [{ id := 1, templateId := 101, strengthList := [[.uint32 1 2, .uint32 2 5]] }]
        fleet := [[.uint32 1 1, .string 2 "first", .uint32 3 1]] }
    let packets : List Incoming :=
      [⟨fun _ => 0, ⟨13, 0, 50102, 3, ship, []⟩⟩, ⟨fun _ => 0, ⟨7, 0, 11401, 4, [8, 5], []⟩⟩,
        ⟨fun _ => 0, ⟨5, 0, 11402, 5, [], []⟩⟩]
    (readBack ((answers game 1 player packets).flatMap Packet.toBytes)).1.map
        (fun message => (message.cmdId, message.id)) = [(12001, 0), (50101, 0), (11402, 4)] ∧
      ∃ sent : List Sent, readBack ((answers game 1 player packets).flatMap Packet.toBytes) =
        (sent.map fun message => ⟨message.response.cmdId, message.id, some message.response.fields⟩,
          .pending () []) := by
  intro ship decoder game player packets
  have typed : player.Typed := by
    constructor
    · decide
    · exact fun chapter member => by cases member
    · decide
    · decide
    · intro owned member
      obtain rfl := List.mem_singleton.mp member
      exact ⟨by decide, by decide, fun weapon member => by cases member⟩
  obtain ⟨sent, out, _, whole⟩ := run_read_back game 1 player typed packets
  have read := whole (by decide +kernel)
  refine ⟨?_, sent, read⟩
  have kinds : (answers game 1 player packets).map (fun packet => (packet.cmdId, packet.id)) =
      [(12001, 0), (50101, 0), (11402, 4)] := by decide +kernel
  rw [out, List.map_map] at kinds
  rw [read, List.map_map]
  exact kinds

end CheshireLane
