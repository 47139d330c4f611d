import CheshireLane.PlayerInfo

/-!
# Handling the packets of a player

One packet is handled against one player record. The handler answers, may change
the record, and raises the dirty flag when the record has to be saved.

Requests are decoded by prost, which is a parameter: the decoder gives the
request a payload stands for, if any. Of requests whose content is not read it
only tells whether the payload decodes.
-/

namespace CheshireLane

/-- The commands the game handles. -/
inductive Request where
  | cs10022 | cs10024 | cs10100 | cs10991 | cs11001 | cs11011 | cs11017 | cs11401 | cs11603
  | cs11701 | cs11705 | cs11710 | cs11722 | cs11751 | cs12202 | cs12299 | cs12406 | cs13505
  | cs15008 | cs15300 | cs16104 | cs18001 | cs19009 | cs20007 | cs24020 | cs25026 | cs26101
  | cs27000 | cs27010 | cs29001 | cs34001 | cs34501 | cs50102 | cs60037 | cs60102 | cs62100
  | cs63317
  deriving DecidableEq

namespace Request

/-- `CMD_ID` of the request's message. -/
def cmdId : Request → UInt16
  | cs10022 => 10022 | cs10024 => 10024 | cs10100 => 10100 | cs10991 => 10991
  | cs11001 => 11001 | cs11011 => 11011 | cs11017 => 11017 | cs11401 => 11401
  | cs11603 => 11603 | cs11701 => 11701 | cs11705 => 11705 | cs11710 => 11710
  | cs11722 => 11722 | cs11751 => 11751 | cs12202 => 12202 | cs12299 => 12299
  | cs12406 => 12406 | cs13505 => 13505 | cs15008 => 15008 | cs15300 => 15300
  | cs16104 => 16104 | cs18001 => 18001 | cs19009 => 19009 | cs20007 => 20007
  | cs24020 => 24020 | cs25026 => 25026 | cs26101 => 26101 | cs27000 => 27000
  | cs27010 => 27010 | cs29001 => 29001 | cs34001 => 34001 | cs34501 => 34501
  | cs50102 => 50102 | cs60037 => 60037 | cs60102 => 60102 | cs62100 => 62100
  | cs63317 => 63317

/-- The arms of the handler, in their order. -/
def all : List Request :=
  [cs10022, cs10024, cs11001, cs10100, cs10991, cs11017, cs11401, cs11603, cs11011, cs12202,
    cs12299, cs12406, cs11701, cs63317, cs11710, cs11705, cs11722, cs11751, cs26101, cs24020,
    cs34501, cs18001, cs19009, cs60037, cs62100, cs60102, cs27000, cs29001, cs27010, cs25026,
    cs16104, cs15008, cs15300, cs13505, cs20007, cs34001, cs50102]

/-- The arm a command id selects. -/
def ofCmdId (cmdId : UInt16) : Option Request := all.find? fun request => request.cmdId = cmdId

/-- A command id leads back to its request, so no two arms have the same id. -/
@[simp] theorem of_cmd_id (request : Request) : ofCmdId request.cmdId = some request := by
  cases request <;> decide

end Request

/-- The login: the account, and a ticket with the key that was computed from it. -/
structure Cs10022 where
  accountId : UInt32
  serverTicket : String
  checkKey : String

/-- The creation of a role with a name and a first ship. -/
structure Cs10024 where
  nickName : String
  shipId : UInt32

/-- A new choice of secretary ships. -/
structure Cs11011 where
  character : List Kvdata

/-- A story that the player has seen. -/
structure Cs11017 where
  storyId : UInt32

/-- A move to another chat room; room zero stands for the first one. -/
structure Cs11401 where
  roomId : UInt32

/-- A reaction to a post, by a number that says which. -/
structure Cs11701 where
  id : UInt32
  cmd : UInt32

/-- A change of the skin of one ship. -/
structure Cs12202 where
  shipId : UInt32
  skinId : UInt32

/-- A request for a round of the later education game. -/
structure Cs29001 where
  id : UInt32

/-- A request for groups of meta ships. -/
structure Cs34001 where
  groupId : List UInt32

/-- A line of chat, which may be a command. -/
structure Cs50102 where
  content : String

/-- `Packet::decode` at each request type. The generated code is not part of the model, so a theorem
holds whatever the payloads mean. -/
structure Decoder where
  cs10022 : List UInt8 → Option Cs10022
  cs10024 : List UInt8 → Option Cs10024
  cs11011 : List UInt8 → Option Cs11011
  cs11017 : List UInt8 → Option Cs11017
  cs11401 : List UInt8 → Option Cs11401
  cs11701 : List UInt8 → Option Cs11701
  cs12202 : List UInt8 → Option Cs12202
  cs29001 : List UInt8 → Option Cs29001
  cs34001 : List UInt8 → Option Cs34001
  cs50102 : List UInt8 → Option Cs50102
  accepts : Request → List UInt8 → Bool

/-- Does the payload decode as the message of the request? -/
def Decoder.decodes (decoder : Decoder) (request : Request) (payload : List UInt8) : Bool :=
  match request with
  | .cs10022 => (decoder.cs10022 payload).isSome
  | .cs10024 => (decoder.cs10024 payload).isSome
  | .cs11011 => (decoder.cs11011 payload).isSome
  | .cs11017 => (decoder.cs11017 payload).isSome
  | .cs11401 => (decoder.cs11401 payload).isSome
  | .cs11701 => (decoder.cs11701 payload).isSome
  | .cs12202 => (decoder.cs12202 payload).isSome
  | .cs29001 => (decoder.cs29001 payload).isSome
  | .cs34001 => (decoder.cs34001 payload).isSome
  | .cs50102 => (decoder.cs50102 payload).isSome
  | request => decoder.accepts request payload

/-- A decoder that rejects every payload. -/
def Decoder.deaf : Decoder where
  cs10022 _ := none
  cs10024 _ := none
  cs11011 _ := none
  cs11017 _ := none
  cs11401 _ := none
  cs11701 _ := none
  cs12202 _ := none
  cs29001 _ := none
  cs34001 _ := none
  cs50102 _ := none
  accepts _ _ := false

/-- What does not change while the server runs: the game data, the decoder and
the URL of the notice image. -/
structure Game where
  data : GameData
  decoder : Decoder
  noticeImageUrl : String

/-- `MONDAY_0_TIMESTAMP`: the Monday from which the weeks are counted. -/
def monday0Timestamp : UInt32 := 1606114800

/-- `NOTICE`, as it stands in the source with its blanks and line breaks. -/
def notice : String := "
<size=35>Disclaimer</size>
        ※This project is intended for educational and research purposes only. Do not use it for any illegal or inappropriate activities.
        ※When using this project, ensure compliance with local laws and regulations and take full responsibility for your actions.
        ※The author is not responsible for any misuse, illegal use, or consequences arising from it.
        ※This project is open-source and free. If you have paid to use this software, please request a refund immediately.

<size=35>免责声明</size>
        ※本项目仅用于教育和研究目的，请勿将其用于任何非法或不当用途。
        ※使用本项目时，请确保遵守所在地区的法律法规，并承担相应责任。
        ※作者不对任何滥用、违法使用或由此产生的后果负责。
        ※本项目为开源免费项目，如您因使用本软件而支付费用，请立即申请退款。
"

/-- The one notice shown. -/
def welcomeNotice (noticeImageUrl : String) : Noticeinfo where
  tagType := 1
  id := 6
  version := "1"
  icon := 2
  content := notice
  title := "Welcome to Cheshire Lane | 欢迎使用 Cheshire Lane"
  track := ""
  priority := 80
  needLevel := 0
  btnTitle := "Welcome"
  titleImage := noticeImageUrl
  timeDesc := "2/1/2025"

/-- `server_notice`: the only value in it that is not a constant is the address of the image. -/
def serverNotice (noticeImageUrl : String) : Sc11300 where
  noticeList := [welcomeNotice noticeImageUrl]

/-- `reflux_data`: nobody counts as having come back, and the optional numbers are written all the
same. -/
def refluxData : Sc11752 where
  active := 0
  returnLv := some 0
  returnTime := some 0
  shipNumber := some 0
  lastOfflineTime := some 0
  pt := some 0
  signCnt := some 0
  signLastTime := some 0
  ptStage := some 0

/-- Several numbers under their keys. -/
def kvdataList (pairs : List (UInt32 × UInt32)) : List Kvdata :=
  pairs.map fun pair => { key := pair.1, value := pair.2 }

/-- `new_educate_tb`: the second scenario has start values of its own, all others share theirs. -/
def newEducateTb (id : UInt32) : Tbinfo :=
  if id = 2 then
    { id
      attrs := kvdataList [(305, 145), (304, 0), (303, 0), (302, 0), (301, 0)]
      resource := kvdataList [(306, 5), (305, 1), (304, 50), (303, 0), (302, 50), (301, 50)]
      benefitId := 10001 }
  else
    { id
      attrs := kvdataList [(201, 155), (104, 0), (103, 0), (102, 0), (101, 0)]
      resource := kvdataList [(4, 50), (3, 0), (2, 50), (1, 50)]
      benefitId := 10000 }

/-- The child that is sent to every player. -/
def newChild : ChildInfo where
  attrs :=
    kvdataList ([101, 102, 103, 104, 201, 202, 203, 301, 302, 303, 304, 305, 306].map fun id => (id, 0))
  mood := 50
  newGamePlusCount := 1
  money := 20
  tasks := kvdataList [(101, 0), (102, 0), (103, 0)]
  canTriggerHomeEvent := 1
  curTime := [.uint32 1 1, .uint32 2 1, .uint32 3 0]
  favor := [.uint32 1 1, .uint32 2 30]
  tid := 1

/-- `push`: the encoded responses, in order, all with one id. -/
def pushAll (id : UInt16) (responses : List Response) : List Packet :=
  responses.map fun response => Packet.encode response id

/-- `notify_player_ships_data` as `push_ship_data` sends it: one first message, and more of another
kind if there are more ships. -/
def shipData (player : PlayerInfo) : List Response :=
  let (first, rest) := player.notifyPlayerShipsData
  first.response :: (rest.getD []).map Sc12010.response

/-- `push_ship_data`. -/
def pushShipData (player : PlayerInfo) (id : UInt16) : List Packet := pushAll id (shipData player)

/-- The login burst. The clock is read five times. The messages are pushed in the order of the
source. -/
def playerData (game : Game) (player : PlayerInfo) (now : Clock) : List Response :=
  [(⟨now 0, monday0Timestamp⟩ : Sc11000).response, player.notifyPlayerData.response,
    player.notifyPlayerBuff.response, refluxData.response, sc21536,
    player.notifyNavalAcademy.response, sc26120, player.notifyCommanderData.response,
    (player.notifyStatistics game.data).response, sc22300, sc12024] ++
  shipData player ++
  [player.notifyFleetData.response, player.notifyPlayerShipSkinsData.response, sc63000, sc63100,
    sc64000, player.notifyChapterInfo.response, player.notifyCurrentChapter.response,
    (⟨[30107, 30102, 30101, 30103, 20113], 2⟩ : Sc13002).response, sc13201,
    (⟨now 1⟩ : Sc16200).response, player.notifyWorldData.response,
    player.notifyEquipData.response, sc14101, player.notifyBagData.response, sc20001, sc20101,
    sc20201, (player.notifyDormData (now 2)).response, (⟨now 3⟩ : Sc12031).response, sc28000,
    sc30001, sc30101, sc50000, sc11200, sc11210, (serverNotice game.noticeImageUrl).response,
    (⟨now 4, monday0Timestamp, player.shipCount⟩ : Sc11002).response]

/-- `load_player_data`: the whole burst goes out under the id of the login. -/
def loadPlayerData (game : Game) (player : PlayerInfo) (now : Clock) (id : UInt16) : List Packet :=
  pushAll id (playerData game player now)

/-- One entry of the template table: a full-star ship of a template not owned is
added under the number its key stands for. The templates owned come along. -/
def giveShip (data : GameData) (state : List UInt32 × PlayerInfo)
    (entry : String × ShipDataTemplateEntity) : List UInt32 × PlayerInfo :=
  let (owned, player) := state
  let (key, ship) := entry
  if ship.star = ship.starMax ∧ 5 ≤ ship.star ∧ ship.id ∉ owned then
    match parseU32 key with
    | some id => (ship.id :: owned, player.addShip data id)
    | none => (ship.id :: owned, player)
  else state

/-- `give_all_ships`: goes over the table and remembers the templates owned, so that none is given
twice. Without the table nothing happens. -/
def giveAllShips (data : GameData) (player : PlayerInfo) : PlayerInfo :=
  match data.shipDataTemplate with
  | none => player
  | some shipData =>
    (shipData.entries.foldl (giveShip data) (player.ships.map Shipinfo.templateId, player)).2

/-- `give_all_skins`: the skins of each ship owned, one ship after the other. -/
def giveAllSkins (data : GameData) (player : PlayerInfo) : PlayerInfo :=
  (player.ships.map Shipinfo.templateId).foldl (PlayerInfo.addShipSkin data) player

/-- What handling a packet leaves: the record, the dirty flag and the answers. -/
structure Handled where
  player : PlayerInfo
  dirty : Bool
  out : List Packet

/-- The first word of a chat message. -/
inductive ChatCommand where
  | ship
  | skin
  | other
  | missing
  deriving DecidableEq

/-- The command is the first word of the line. A line of blanks has none. -/
def ChatCommand.ofContent (content : String) : ChatCommand :=
  match (splitWhitespace content).head? with
  | some word => if word = "ship" then .ship else if word = "skin" then .skin else .other
  | none => .missing

/-- The texts that the commander answers with. -/
def ChatCommand.reply : ChatCommand → String
  | .ship => "Already give all ships to you~ Have Fun!"
  | .skin => "Already give all skins to you~ Have Fun!"
  | .other => "1. ship: Give all ships. 2. skin: Give all skins"
  | .missing => "Command Error, using `help` to show all available commands."

/-- The server's answer in the chat window. -/
def chatReply (command : ChatCommand) : Sc50101 where
  content := command.reply
  type := 0
  player :=
    { id := 0
      lv := 150
      name := "Server"
      display := some {
        skin := 701042
        iconFrame := 501
        chatFrame := 103
        icon := 701044
        iconTheme := 0
        marryFlag := 1580000000
        transformFlag := 0 } }

/-- `handle_chat`. Only the two commands that give something mark the session for saving; the
answers of a command carry the packet id zero. -/
def handleChat (data : GameData) (player : PlayerInfo) (dirty : Bool) (content : String) : Handled :=
  let command := ChatCommand.ofContent content
  let reply := pushAll 0 [(chatReply command).response]
  match command with
  | .ship =>
    let player := giveAllShips data player
    ⟨player, true, pushShipData player 0 ++ reply⟩
  | .skin =>
    let player := giveAllSkins data player
    ⟨player, true, pushAll 0 [player.notifyPlayerShipSkinsData.response] ++ reply⟩
  | .other => ⟨player, dirty, reply⟩
  | .missing => ⟨player, dirty, reply⟩

/-- Set the skin of the first ship with this id. -/
def setSkin (shipId skinId : UInt32) : List Shipinfo → List Shipinfo
  | [] => []
  | ship :: ships =>
    if ship.id = shipId then { ship with skinId } :: ships
    else ship :: setSkin shipId skinId ships

/-- A response constant is sent to every request that decodes. -/
def answer (decoder : Decoder) (request : Request) (packet : Packet) (response : Response) :
    List Packet :=
  if decoder.decodes request packet.data then pushAll packet.id [response] else []

/-- One arm of the handler. An arm that writes to the record raises the flag; the others only
answer. -/
def handleRequest (game : Game) (uid : UInt32) (now : Clock) (player : PlayerInfo) (dirty : Bool)
    (packet : Packet) (request : Request) : Handled :=
  let kept (out : List Packet) : Handled := ⟨player, dirty, out⟩
  let changed (player : PlayerInfo) (response : Response) : Handled :=
    ⟨player, true, pushAll packet.id [response]⟩
  let answered (response : Response) : Handled :=
    kept (answer game.decoder request packet response)
  match request with
  | .cs10022 =>
    match game.decoder.cs10022 packet.data with
    | some req => kept (pushAll packet.id
        [Sc10023.response ⟨0, player.uid, req.serverTicket, none, none⟩])
    | none => kept []
  | .cs10024 =>
    match game.decoder.cs10024 packet.data with
    | some req =>
      let player := player.init game.data now uid req.nickName req.shipId
      changed player (Sc10025.response ⟨0, player.uid⟩)
    | none => kept []
  | .cs11001 => kept (loadPlayerData game player now packet.id)
  | .cs10100 => answered (Sc10101.response ⟨0⟩)
  | .cs10991 => kept []
  | .cs11017 =>
    match game.decoder.cs11017 packet.data with
    | some req => changed { player with storyList := player.storyList ++ [req.storyId] } sc11018
    | none => kept []
  | .cs11401 =>
    match game.decoder.cs11401 packet.data with
    | some req =>
      let roomId := if req.roomId = 0 then 1 else req.roomId
      let response := Sc11402.response ⟨0, roomId⟩
      if player.chatRoomId ≠ roomId then changed { player with chatRoomId := roomId } response
      else kept (pushAll packet.id [response])
    | none => kept []
  | .cs11603 => answered sc11604
  | .cs11011 =>
    match game.decoder.cs11011 packet.data with
    | some req => changed { player with character := req.character } sc11012
    | none => kept []
  | .cs12202 =>
    match game.decoder.cs12202 packet.data with
    | some req =>
      changed { player with ships := setSkin req.shipId req.skinId player.ships } sc12203
    | none => kept []
  | .cs12299 => kept []
  | .cs12406 => answered sc12407
  | .cs11701 =>
    match game.decoder.cs11701 packet.data with
    | some req => kept (pushAll packet.id [Sc11702.response ⟨0, some {
        id := req.id
        isGood := if req.cmd = 3 then 1 else 0
        isRead := if req.cmd = 5 then 1 else 0 }⟩])
    | none => kept []
  | .cs63317 => answered sc63318
  | .cs11710 => answered sc11711
  | .cs11705 => answered sc11706
  | .cs11722 => answered sc11723
  | .cs11751 => answered refluxData.response
  | .cs26101 => answered sc26102
  | .cs24020 => answered (Sc24021.response ⟨kvdataList [(10022, 0), (10023, 0), (10024, 0)]⟩)
  | .cs34501 => answered sc34502
  | .cs18001 => answered (Sc18002.response ⟨1⟩)
  | .cs19009 => answered sc19010
  | .cs60037 => answered (Sc60000.response ⟨⟨1, 1, 1⟩⟩)
  | .cs62100 => answered sc62101
  | .cs60102 => answered (Sc60103.response ⟨[1, 13, 2]⟩)
  | .cs27000 => answered (Sc27001.response ⟨0, newChild⟩)
  | .cs29001 =>
    match game.decoder.cs29001 packet.data with
    | some req => kept (pushAll packet.id [Sc29002.response ⟨0, newEducateTb req.id, 1⟩])
    | none => kept []
  | .cs27010 => answered sc27011
  | .cs25026 => answered (Sc25027.response ⟨1, [⟨1, 7, 1⟩]⟩)
  | .cs16104 => answered sc16105
  | .cs15008 => kept (pushAll packet.id [sc15009])
  | .cs15300 => kept []
  | .cs13505 => answered sc13506
  | .cs20007 => answered sc20008
  | .cs34001 =>
    match game.decoder.cs34001 packet.data with
    | some req => kept (pushAll packet.id
        [Sc34002.response ⟨req.groupId.map fun id => { groupId := id }⟩])
    | none => kept []
  | .cs50102 =>
    match game.decoder.cs50102 packet.data with
    | some req => handleChat game.data player dirty req.content
    | none => kept []

/-- A packet without an arm is only reported. -/
def handlePlayerPacket (game : Game) (uid : UInt32) (now : Clock) (player : PlayerInfo)
    (dirty : Bool) (packet : Packet) : Handled :=
  match Request.ofCmdId packet.cmdId with
  | some request => handleRequest game uid now player dirty packet request
  | none => ⟨player, dirty, []⟩

end CheshireLane
