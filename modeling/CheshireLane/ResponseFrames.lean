import CheshireLane.FrameRoundTrip
import CheshireLane.LoginSizes

/-!
# When the answers to a packet are well framed

The length field of a packet has sixteen bits. Answers up to 65530 bytes fit, and
a client splits the stream back into them. A longer answer wraps its own length
field. No answer is a single byte, so the exceptional length 6 never occurs.

Five requests can be answered too long: a login with a long ticket, the login
burst of a large record, a request for many groups, and the two chat commands.
-/

namespace CheshireLane

open WireFormat StreamSplitter

/-- Every length field tells its payload, and the written stream is split back
into the packets. -/
def Framed (out : List Packet) : Prop :=
  (∀ packet ∈ out, packet.length.toNat = 5 + packet.data.length) ∧
    drain dispatchLoop () (out.map Packet.toBytes).flatten =
      (out.map fun packet => { packet with raw := packet.toBytes }, .pending () [])

/-- An encoded response as its sender hands it over. -/
def Response.outgoing (response : Response) (id : UInt16) : Outgoing :=
  ⟨response.cmdId, id, Message.encode response.fields⟩

/-- Answers are well framed exactly when each has at most 65530 bytes. The length field has 16 bits
and counts five bytes of the header besides the payload; beyond that it wraps. -/
theorem framed_iff (id : UInt16) (responses : List Response) :
    Framed (pushAll id responses) ↔ ∀ response ∈ responses, response.size ≤ 65530 := by
  have size : ∀ response : Response, (Packet.encode response id).data.length = response.size :=
    fun response => Message.encode_length response.fields
  constructor
  · rintro ⟨lengths, _⟩ response member
    have field := lengths _ (List.mem_map.mpr ⟨response, member, rfl⟩)
    have bound := (Packet.encode response id).length.toNat_lt
    rw [size] at field
    omega
  · intro fits
    have sendable : ∀ response ∈ responses, (response.outgoing id).Sendable := by
      intro response member
      constructor
      · exact size response ▸ Message.size_ne_one response.fields
      · exact size response ▸ fits response member
    constructor
    · intro packet member
      obtain ⟨response, inside, rfl⟩ := List.mem_map.mp member
      exact (response.outgoing id).encoded_length (sendable response inside)
    · have drained := drain_frames (responses.map fun response => response.outgoing id) [] (by
        intro outgoing member
        obtain ⟨response, inside, rfl⟩ := List.mem_map.mp member
        exact sendable response inside) (by decide)
      rw [List.append_nil, List.map_map, List.map_map] at drained
      rw [pushAll, List.map_map, List.map_map]
      exact drained

/-- Without responses there is nothing to frame. -/
theorem framed_nil : Framed [] := (framed_iff 0 []).mpr fun _ member => nomatch member

/-- A single response is framed if its payload fits the length field. -/
theorem framed_single (id : UInt16) (response : Response) :
    Framed (pushAll id [response]) ↔ response.size ≤ 65530 := by
  rw [framed_iff, List.forall_mem_singleton]

/-- Answers of a fixed shape are well framed. -/
theorem framed_bound (id : UInt16) (response : Response)
    (bound : Message.bound response.fields ≤ 65530) : Framed (pushAll id [response]) :=
  (framed_single id response).mpr (response.size_of_bound bound)

/-- A response that can never be long is always framed. -/
theorem answer_framed (decoder : Decoder) (request : Request) (packet : Packet)
    (response : Response) (bound : Message.bound response.fields ≤ 65530) :
    Framed (answer decoder request packet response) := by
  unfold answer
  split
  · exact framed_bound packet.id response bound
  · exact framed_nil

/-- The growing parts of the login burst are short enough. -/
structure LoginFits (game : Game) (player : PlayerInfo) : Prop where
  playerData : playerDataSize player ≤ 65530
  statistics : ((statisticsEntries game.data player).map statisticsRoom).sum ≤ 65528
  ships : ∀ chunk ∈ chunks 100 player.ships, (chunk.map shipRoom).sum ≤ 65530
  skins : (player.shipSkins.map skinRoom).sum ≤ 65530
  chapters : (player.chapterInfos.map chapterRoom).sum ≤ 65530
  notice : noticeSize game.noticeImageUrl ≤ 65530

/-- The ships or skins owned after a chat command are short enough. -/
def ChatFits (data : GameData) (player : PlayerInfo) : ChatCommand → Prop
  | .ship => ∀ chunk ∈ chunks 100 (giveAllShips data player).ships, (chunk.map shipRoom).sum ≤ 65530
  | .skin => ((giveAllSkins data player).shipSkins.map skinRoom).sum ≤ 65530
  | .other => True
  | .missing => True

/-- The request and the record are small enough for the request's arm. -/
def Fits (game : Game) (player : PlayerInfo) (packet : Packet) : Request → Prop
  | .cs10022 => ∀ req, game.decoder.cs10022 packet.data = some req →
      ticketSize player.uid req.serverTicket ≤ 65530
  | .cs11001 => LoginFits game player
  | .cs34001 => ∀ req, game.decoder.cs34001 packet.data = some req →
      (req.groupId.map groupRoom).sum ≤ 65530
  | .cs50102 => ∀ req, game.decoder.cs50102 packet.data = some req →
      ChatFits game.data player (ChatCommand.ofContent req.content)
  | _ => True

/-- The burst fits when its growing parts do. The other messages of the burst have a bound that does
not depend on the record, and on an ordinary player the lists that no packet fills are empty. -/
theorem login_framed (game : Game) (player : PlayerInfo) (now : Clock) (id : UInt16)
    (ordinary : Ordinary player) :
    Framed (loadPlayerData game player now id) ↔ LoginFits game player := by
  have fixed : ∀ response : Response, Message.bound response.fields ≤ 65530 →
      (response.size ≤ 65530) = True :=
    fun response bound => eq_true (response.size_of_bound bound)
  have buff : player.notifyPlayerBuff.response.size = 0 := by
    rw [PlayerInfo.notifyPlayerBuff, ordinary.buffList]
    decide
  have commander : player.notifyCommanderData.response.size = 2 := by
    rw [PlayerInfo.notifyCommanderData, ordinary.commanders, ordinary.commanderBox,
      ordinary.presets]
    decide
  have fleet : player.notifyFleetData.response.size = 0 := by
    rw [PlayerInfo.notifyFleetData, ordinary.fleet]
    decide
  have currentChapter : player.notifyCurrentChapter.response.size = 2 := by
    rw [PlayerInfo.notifyCurrentChapter, ordinary.currentChapter]
    decide
  have bag : player.notifyBagData.response.size = 0 := by
    rw [PlayerInfo.notifyBagData, ordinary.bag]
    decide
  rw [loadPlayerData, framed_iff, playerData]
  simp only [List.forall_mem_append, List.forall_mem_cons, List.not_mem_nil, false_implies,
    implies_true, and_true, buff, commander, fleet, currentChapter, bag, Nat.zero_le, true_and,
    player_data_size player ordinary, statistics_size, skins_size, chapters_size, notice_size,
    ship_data_fits player ordinary.issued]
  simp (disch := exact Nat.le_of_ble_eq_true rfl) only [fixed, Nat.reduceLeDiff, true_and, and_true]
  constructor
  · rintro ⟨⟨⟨playerData, statistics⟩, ships⟩, skins, chapters, notice⟩
    exact ⟨playerData, statistics, ships, skins, chapters, notice⟩
  · rintro ⟨playerData, statistics, ships, skins, chapters, notice⟩
    exact ⟨⟨⟨playerData, statistics⟩, ships⟩, skins, chapters, notice⟩

/-- The chat answer has a fixed shape for every command. -/
theorem chat_reply_bound (command : ChatCommand) :
    Message.bound (chatReply command).response.fields ≤ 65530 := by
  cases command <;> exact Nat.le_of_ble_eq_true rfl

/-- What a line of chat answers is framed, as far as the ships or skins that it pushes fit. The
reply itself is short whatever the command was, so only the dock and the skins count. -/
theorem chat_framed (data : GameData) (player : PlayerInfo) (dirty : Bool) (content : String)
    (ordinary : Ordinary player) :
    Framed (handleChat data player dirty content).out ↔
      ChatFits data player (ChatCommand.ofContent content) := by
  unfold handleChat
  generalize ChatCommand.ofContent content = command
  have reply := Response.size_of_bound (chatReply command).response (chat_reply_bound command)
  cases command with
  | ship =>
    have issued := (give_all_ships_invariant data Ordinary (Ordinary.add_ship data) player
      ordinary).issued
    simp only [pushShipData, pushAll, ← List.map_append]
    rw [← pushAll, framed_iff, List.forall_mem_append, List.forall_mem_singleton,
      ship_data_fits _ issued]
    exact and_iff_left reply
  | skin =>
    simp only [pushAll, ← List.map_append]
    rw [← pushAll, framed_iff, List.forall_mem_append, List.forall_mem_singleton,
      List.forall_mem_singleton, skins_size]
    exact and_iff_left reply
  | other => exact iff_true_intro ((framed_single 0 _).mpr reply)
  | missing => exact iff_true_intro ((framed_single 0 _).mpr reply)

/-- The id stands in the answer, but its bound does not depend on it. -/
theorem educate_bound (id : UInt32) :
    Message.bound (Sc29002.response ⟨0, newEducateTb id, 1⟩).fields ≤ 65530 := by
  have same : ∀ attrs resource benefitId,
      Message.bound (Sc29002.response ⟨0, ⟨id, attrs, resource, benefitId⟩, 1⟩).fields =
        Message.bound (Sc29002.response ⟨0, ⟨0, attrs, resource, benefitId⟩, 1⟩).fields :=
    fun _ _ _ => rfl
  unfold newEducateTb
  split
  · rw [same]
    decide +kernel
  · rw [same]
    decide +kernel

/-- A packet that does not decode is not answered, and nothing is asked of it. -/
theorem undecoded_framed {α : Type} {fits : α → Prop} :
    Framed [] ↔ ∀ req, none = some req → fits req :=
  iff_of_true framed_nil fun _ impossible => nomatch impossible

/-- One case per arm. An arm with an answer of a fixed shape has a constant bound; the ticket of a
login, the texts of the notice, the dock and the skins are the parts that grow. -/
theorem request_framed (game : Game) (uid : UInt32) (now : Clock) (player : PlayerInfo)
    (dirty : Bool) (packet : Packet) (request : Request) (ordinary : Ordinary player) :
    Framed (handleRequest game uid now player dirty packet request).out ↔
      Fits game player packet request := by
  cases request
  case cs10022 =>
    simp only [handleRequest, Fits]
    cases game.decoder.cs10022 packet.data with
    | none => exact undecoded_framed
    | some req =>
      simp only [framed_single, ticket_size, Option.some.injEq, forall_eq']
  case cs34001 =>
    simp only [handleRequest, Fits]
    cases game.decoder.cs34001 packet.data with
    | none => exact undecoded_framed
    | some req =>
      simp only [framed_single, groups_size, Option.some.injEq, forall_eq']
  case cs50102 =>
    simp only [handleRequest, Fits]
    cases game.decoder.cs50102 packet.data with
    | none => exact undecoded_framed
    | some req =>
      simp only [chat_framed game.data player dirty req.content ordinary, Option.some.injEq,
        forall_eq']
  case cs11001 => exact login_framed game player now packet.id ordinary
  case cs15008 => exact iff_true_intro (framed_bound _ _ (Nat.le_of_ble_eq_true rfl))
  case cs10991 | cs12299 | cs15300 => exact iff_true_intro framed_nil
  case cs10024 | cs11017 | cs11011 | cs12202 | cs11701 =>
    apply iff_true_intro
    simp only [handleRequest]
    split
    · exact framed_bound _ _ (Nat.le_of_ble_eq_true rfl)
    · exact framed_nil
  case cs11401 =>
    apply iff_true_intro
    simp only [handleRequest]
    split
    · next req _ =>
      by_cases moved : player.chatRoomId ≠ if req.roomId = 0 then 1 else req.roomId
      · rw [if_pos moved]
        exact framed_bound _ _ (Nat.le_of_ble_eq_true rfl)
      · rw [if_neg moved]
        exact framed_bound _ _ (Nat.le_of_ble_eq_true rfl)
    · exact framed_nil
  case cs29001 =>
    apply iff_true_intro
    simp only [handleRequest]
    split
    · next req _ => exact framed_bound _ _ (educate_bound req.id)
    · exact framed_nil
  all_goals exact iff_true_intro (answer_framed _ _ _ _ (by decide +kernel))

/-- The record and the packet are small enough for the packet's arm, if it has one. -/
def PacketFits (game : Game) (player : PlayerInfo) (packet : Packet) : Prop :=
  ∀ request, Request.ofCmdId packet.cmdId = some request → Fits game player packet request

/-- In every run from a fresh record, the answers to a packet are well framed exactly when the
record in front of it and the packet are small enough.

Every record on the way is ordinary, so that the size of each answer can be computed from it; then
one equivalence for each request is all that is needed. -/
theorem visits_framed_iff (game : Game) (uid : UInt32) (packets : List Incoming) (dirty : Bool) :
    ∀ visit ∈ visits game uid {} packets,
      Framed (handlePlayerPacket game uid visit.2.now visit.1 dirty visit.2.packet).out ↔
        PacketFits game visit.1 visit.2.packet := by
  rintro ⟨player, incoming⟩ member
  have ordinary : Ordinary player := Ordinary.visited game uid packets _ member
  simp only [PacketFits, handlePlayerPacket]
  cases Request.ofCmdId incoming.packet.cmdId with
  | none => exact undecoded_framed
  | some request =>
    simp only [request_framed game uid incoming.now player dirty incoming.packet request ordinary,
      Option.some.injEq, forall_eq']

/-- A login ticket on a fresh record. The condition is that its text leaves room for the other
fields. -/
theorem visits_framed_iff_ticket :
    let payload : List UInt8 := [8, 1, 18, 2, 111, 107, 26, 0, 32, 0, 42, 0, 50, 0]
    let decoder : Decoder := { Decoder.deaf with
      cs10022 := fun data => if data = payload then some ⟨1, "ok", ""⟩ else none }
    let game : Game := ⟨⟨⟨[], by decide⟩, none, none, none⟩, decoder, ""⟩
    let packet : Packet := ⟨19, 0, 10022, 1, payload, []⟩
    Framed (handlePlayerPacket game 1 (fun _ => 0) {} false packet).out := by
  intro payload decoder game packet
  refine (visits_framed_iff game 1 [⟨fun _ => 0, packet⟩] false ({}, ⟨fun _ => 0, packet⟩)
    List.mem_cons_self).mpr ?_
  intro request arm
  obtain rfl : Request.cs10022 = request := by
    have selected : Request.ofCmdId packet.cmdId = some .cs10022 := by decide
    exact Option.some.inj (selected.symm.trans arm)
  intro req decoded
  obtain rfl : (⟨1, "ok", ""⟩ : Cs10022) = req := by
    have accepted : game.decoder.cs10022 packet.data = some ⟨1, "ok", ""⟩ := by
      simp [game, decoder, packet]
    exact Option.some.inj (accepted.symm.trans decoded)
  decide

/-- A request for 10922 groups is 21844 bytes long and is answered in 65532 bytes:
the length field wraps to one. -/
theorem many_groups_wrap :
    let payload : List UInt8 := (List.replicate 10922 [8, 1]).flatten
    let decoder : Decoder := { Decoder.deaf with
      cs34001 := fun data => if data = payload then some ⟨List.replicate 10922 1⟩ else none }
    let game : Game := ⟨⟨⟨[], by decide⟩, none, none, none⟩, decoder, ""⟩
    let packet : Packet := ⟨21849, 0, 34001, 1, payload, []⟩
    payload.length = 21844 ∧
      ¬ Framed (handlePlayerPacket game 1 (fun _ => 0) {} false packet).out := by
  intro payload decoder game packet
  constructor
  · simp only [payload, List.length_flatten, List.map_replicate, List.sum_replicate_nat]
    decide
  · intro framed
    have arm : Request.ofCmdId packet.cmdId = some .cs34001 := by decide
    simp only [handlePlayerPacket, arm] at framed
    have fits := (request_framed game 1 (fun _ => 0) {} false packet .cs34001 Ordinary.fresh).mp framed
    have room := fits ⟨List.replicate 10922 1⟩ (by simp only [game, decoder, packet, ↓reduceIte])
    have six : groupRoom 1 = 6 := by decide
    rw [List.map_replicate, List.sum_replicate_nat, six] at room
    omega

end CheshireLane
