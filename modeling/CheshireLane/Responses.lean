import CheshireLane.Packet
import CheshireLane.StoredMessages

/-!
# Responses

A response is its command id and its fields. Responses whose content depends on
the player or the request are structures with the fields the game sets; the
required integers it leaves at zero appear in their encoding only. The others
are constants.
-/

namespace CheshireLane

open WireFormat

/-- What `CheshireMessage` offers of a response: its command id and its fields. -/
structure Response where
  cmdId : UInt16
  fields : Message

/-- `Packet::encode`. -/
def Packet.encode (response : Response) (id : UInt16) : Packet :=
  Packet.encodeRaw response.cmdId id (Message.encode response.fields)

/-- A default message: required integers are zero, nothing else is written. -/
def defaults (cmdId : UInt16) (required : List Nat) : Response := ⟨cmdId, zeros required⟩

/-- Answers a change of the secretary ships: the result is zero, as of every request that is
granted. -/
def sc11012 : Response := defaults 11012 [1]

/-- Answers a story that was seen: the result is zero, and nothing is dropped. -/
def sc11018 : Response := defaults 11018 [1]

/-- No activities. -/
def sc11200 : Response := defaults 11200 []

/-- No permanent activities, and none that runs now. -/
def sc11210 : Response := defaults 11210 [2]

/-- The state of a locked system is zero, and nothing else is said about it. -/
def sc11604 : Response := defaults 11604 [1]

/-- An empty page of posts. -/
def sc11706 : Response := defaults 11706 []

/-- No chat groups. -/
def sc11711 : Response := defaults 11711 []

/-- No results, and an operation time of zero. -/
def sc11723 : Response := defaults 11723 [2]

/-- An empty shipyard: no ships being built and no draws made. -/
def sc12024 : Response := defaults 12024 [1, 3, 4, 5]

/-- Answers a change of skin with the result zero, whether the ship was found or not. -/
def sc12203 : Response := defaults 12203 [1]

/-- No love letters, no medals and nothing converted. -/
def sc12407 : Response := defaults 12407 []

/-- No expeditions were run today. -/
def sc13201 : Response := defaults 13201 [2, 3]

/-- No maps were remapped. -/
def sc13506 : Response := defaults 13506 []

/-- `notify_equip_skin_data`: no equipment skins. -/
def sc14101 : Response := defaults 14101 []

/-- The result zero. The arm of the request does not decode its payload. -/
def sc15009 : Response := defaults 15009 [1]

/-- Nothing was bought in any shop. -/
def sc16105 : Response := defaults 16105 []

/-- Nothing floats over the ships in the dorm. -/
def sc19010 : Response := defaults 19010 []

/-- No tasks. -/
def sc20001 : Response := defaults 20001 []

/-- The result zero, and no new task. -/
def sc20008 : Response := defaults 20008 [1]

/-- No activity tasks. -/
def sc20201 : Response := defaults 20201 []

/-- A mini game that was never played. -/
def sc21536 : Response := defaults 21536 [1, 3, 4]

/-- No tutorials were read and none of their tasks finished. -/
def sc22300 : Response := defaults 22300 []

/-- No mini game hubs. -/
def sc26102 : Response := defaults 26102 []

/-- A game room without tickets and coins. -/
def sc26120 : Response := defaults 26120 [1, 2, 4, 5]

/-- No endings were reached. -/
def sc27011 : Response := defaults 27011 []

/-- An apartment without ships, gifts and rooms. -/
def sc28000 : Response := defaults 28000 [7]

/-- No mails. -/
def sc30001 : Response := defaults 30001 [1, 2]

/-- No mails in the store room. -/
def sc30101 : Response := defaults 30101 [1, 2]

/-- No world boss: all its counters are zero. -/
def sc34502 : Response := defaults 34502 [1, 2, 5, 6, 7, 8, 9, 10, 11, 12, 13, 14, 15, 16]

/-- No friends and no requests. -/
def sc50000 : Response := defaults 50000 []

/-- No guild technologies. -/
def sc62101 : Response := defaults 62101 []

/-- No blueprints. -/
def sc63100 : Response := defaults 63100 [2, 3, 4]

/-- No meta skills. -/
def sc63318 : Response := defaults 63318 []

/-- No fleet technologies. -/
def sc64000 : Response := defaults 64000 []

/-- A default weekly info inside. -/
def sc20101 : Response := ⟨20101, [.message 1 (zeros [2, 3])]⟩

/-- A default catch-up inside. -/
def sc63000 : Response := ⟨63000, [.uint32 2 0, .message 3 (zeros [1, 2])]⟩

/-- Answers a login: who the account is, or a result that tells why it was refused. -/
structure Sc10023 where
  result : UInt32
  userId : UInt32
  serverTicket : String
  serverLoad : Option UInt32
  dbLoad : Option UInt32

/-- The loads are the only fields that may be missing, and no path of the server sets them. -/
def Sc10023.response (message : Sc10023) : Response where
  cmdId := 10023
  fields :=
    [.uint32 1 message.result, .uint32 2 message.userId, .string 3 message.serverTicket] ++
      optionalUint32 4 message.serverLoad ++ optionalUint32 5 message.dbLoad

/-- Answers the creation of a role with the account it was created for. -/
structure Sc10025 where
  result : UInt32
  userId : UInt32

/-- Both fields are required, so both are written even where they are zero. -/
def Sc10025.response (message : Sc10025) : Response where
  cmdId := 10025
  fields := [.uint32 1 message.result, .uint32 2 message.userId]

/-- Answers a heartbeat. -/
structure Sc10101 where
  state : UInt32

/-- The state is required and is written although the server only sends zero. -/
def Sc10101.response (message : Sc10101) : Response := ⟨10101, [.uint32 1 message.state]⟩

/-- Answers a change of the chat room with the room that was entered. -/
structure Sc11402 where
  result : UInt32
  roomId : UInt32

/-- The room is the one asked for, or the first one where none was named. -/
def Sc11402.response (message : Sc11402) : Response where
  cmdId := 11402
  fields := [.uint32 1 message.result, .uint32 2 message.roomId]

/-- A post. The server fills in its id and whether it was liked or read, the rest stays at zero. -/
structure InsMessage where
  id : UInt32 := 0
  time : UInt32 := 0
  text : String := ""
  good : UInt32 := 0
  isGood : UInt32 := 0
  isRead : UInt32 := 0

/-- All scalar fields of a post are required, also the ones the server never sets. -/
def InsMessage.fields (message : InsMessage) : Message :=
  [.uint32 1 message.id, .uint32 2 message.time, .string 3 message.text, .uint32 8 message.good,
    .uint32 9 message.isGood, .uint32 10 message.isRead]

/-- Answers a reaction to a post with the post. -/
structure Sc11702 where
  result : UInt32
  data : Option InsMessage

/-- The post is optional in the schema; the server always sends it. -/
def Sc11702.response (message : Sc11702) : Response where
  cmdId := 11702
  fields := .uint32 1 message.result :: optionalMessage 2 (message.data.map InsMessage.fields)

/-- What is told to a player who comes back after a long time. -/
structure Sc11752 where
  active : UInt32
  returnLv : Option UInt32
  returnTime : Option UInt32
  shipNumber : Option UInt32
  lastOfflineTime : Option UInt32
  pt : Option UInt32
  signCnt : Option UInt32
  signLastTime : Option UInt32
  ptStage : Option UInt32

/-- All fields but the first are optional and are written only where the server sets them. -/
def Sc11752.response (message : Sc11752) : Response where
  cmdId := 11752
  fields :=
    .uint32 1 message.active :: (optionalUint32 2 message.returnLv ++
      optionalUint32 3 message.returnTime ++ optionalUint32 4 message.shipNumber ++
      optionalUint32 5 message.lastOfflineTime ++ optionalUint32 6 message.pt ++
      optionalUint32 7 message.signCnt ++ optionalUint32 8 message.signLastTime ++
      optionalUint32 9 message.ptStage)

/-- The progress with one group of meta ships. -/
structure MetaShipInfo where
  groupId : UInt32 := 0
  pt : UInt32 := 0
  fetchList : List UInt32 := []

/-- The list of what was fetched is repeated, so an empty one leaves no bytes. -/
def MetaShipInfo.fields (info : MetaShipInfo) : Message :=
  [.uint32 1 info.groupId, .uint32 2 info.pt] ++ repeatedUint32 3 info.fetchList

/-- The groups of meta ships that were asked about. -/
structure Sc34002 where
  metaShipList : List MetaShipInfo

/-- One entry for each group, in the order of the request. -/
def Sc34002.response (message : Sc34002) : Response where
  cmdId := 34002
  fields := repeatedMessage 1 (message.metaShipList.map MetaShipInfo.fields)

/-- The sender of a chat message. -/
structure ChatPlayerInfo where
  id : UInt32
  name : String
  lv : UInt32
  display : Option Displayinfo

/-- The display of the sender is optional; the server never leaves it out. -/
def ChatPlayerInfo.fields (player : ChatPlayerInfo) : Message :=
  [.uint32 1 player.id, .string 2 player.name, .uint32 3 player.lv] ++
    optionalMessage 4 (player.display.map Displayinfo.fields)

/-- A line of chat with its sender. -/
structure Sc50101 where
  player : ChatPlayerInfo
  type : UInt32
  content : String

/-- The sender is a required message inside. -/
def Sc50101.response (message : Sc50101) : Response where
  cmdId := 50101
  fields := [.message 1 message.player.fields, .uint32 2 message.type, .string 3 message.content]

/-- The time of the server and the Monday from which its weeks are counted. -/
structure Sc11000 where
  timestamp : UInt32
  monday0oclockTimestamp : UInt32

/-- Both times are required. -/
def Sc11000.response (message : Sc11000) : Response where
  cmdId := 11000
  fields := [.uint32 1 message.timestamp, .uint32 2 message.monday0oclockTimestamp]

/-- Ends the login burst: the times again, and how many ships were announced. -/
structure Sc11002 where
  timestamp : UInt32
  monday0oclockTimestamp : UInt32
  shipCount : UInt32

/-- The count is what a client checks the ships of the burst against. -/
def Sc11002.response (message : Sc11002) : Response where
  cmdId := 11002
  fields :=
    [.uint32 1 message.timestamp, .uint32 2 message.monday0oclockTimestamp,
      .uint32 3 message.shipCount]

/-- The profile of the player. The fields are those that the game reads off the record. -/
structure Sc11003 where
  id : UInt32
  name : String
  level : UInt32
  resourceList : List Resource
  winCount : UInt32
  adv : String
  character : List Kvdata
  shipBagMax : UInt32
  equipBagMax : UInt32
  rank : UInt32
  pvpAttackCount : UInt32
  pvpWinCount : UInt32
  guideIndex : UInt32
  chatRoomId : UInt32
  maxRank : UInt32
  registerTime : UInt32
  shipCount : UInt32
  storyList : List UInt32
  commanderBagMax : UInt32
  display : Option Displayinfo
  rmb : UInt32
  appreciation : Appreciationinfo
  marryShip : UInt32
  mailStoreroomLv : UInt32
  newGuideIndex : UInt32

/-- The required fields in between that the game never sets are written as zeros, and the lists that
it leaves empty leave no bytes. -/
def Sc11003.response (message : Sc11003) : Response where
  cmdId := 11003
  fields :=
    [.uint32 1 message.id, .string 2 message.name, .uint32 3 message.level, .uint32 4 0] ++
      repeatedMessage 5 (message.resourceList.map Resource.fields) ++
      [.uint32 6 0, .uint32 7 message.winCount, .string 8 message.adv] ++
      repeatedMessage 9 (message.character.map Kvdata.fields) ++
      [.uint32 10 message.shipBagMax, .uint32 11 message.equipBagMax, .uint32 12 0,
        .uint32 13 message.rank, .uint32 14 message.pvpAttackCount,
        .uint32 15 message.pvpWinCount, .uint32 16 0, .uint32 17 message.guideIndex,
        .uint32 18 0, .uint32 19 message.chatRoomId, .uint32 21 message.maxRank,
        .uint32 22 message.registerTime, .uint32 23 message.shipCount, .uint32 24 0] ++
      repeatedUint32 25 message.storyList ++
      [.uint32 26 0, .uint32 27 0, .uint32 30 message.commanderBagMax] ++
      optionalMessage 34 (message.display.map Displayinfo.fields) ++
      [.uint32 35 message.rmb, .message 36 message.appreciation.fields, .uint32 37 0,
        .uint32 41 0, .uint32 43 message.marryShip, .uint32 46 0, .message 47 (zeros [1]),
        .uint32 48 message.mailStoreroomLv, .uint32 50 0, .uint32 52 message.newGuideIndex,
        .uint32 53 0]

/-- The buffs of the player. -/
structure Sc11015 where
  buffList : List Benefitbuff

/-- One entry for each buff, in the order of the record. -/
def Sc11015.response (message : Sc11015) : Response where
  cmdId := 11015
  fields := repeatedMessage 1 (message.buffList.map Benefitbuff.fields)

/-- A notice with its texts and its image. -/
structure Noticeinfo where
  id : UInt32
  version : String
  btnTitle : String
  title : String
  titleImage : String
  timeDesc : String
  content : String
  tagType : UInt32
  icon : UInt32
  track : String
  priority : UInt32
  needLevel : UInt32

/-- Every field of a notice is required. -/
def Noticeinfo.fields (notice : Noticeinfo) : Message :=
  [.uint32 1 notice.id, .string 2 notice.version, .string 3 notice.btnTitle,
    .string 4 notice.title, .string 5 notice.titleImage, .string 6 notice.timeDesc,
    .string 7 notice.content, .uint32 8 notice.tagType, .uint32 9 notice.icon,
    .string 10 notice.track, .uint32 11 notice.priority, .uint32 12 notice.needLevel]

/-- The notices shown behind the login. -/
structure Sc11300 where
  noticeList : List Noticeinfo

/-- The server sends one notice, but the schema has a list of them. -/
def Sc11300.response (message : Sc11300) : Response where
  cmdId := 11300
  fields := repeatedMessage 1 (message.noticeList.map Noticeinfo.fields)

/-- The first ships of the dock. -/
structure Sc12001 where
  shiplist : List Shipinfo

/-- The ships stand in the field that the schema calls `shiplist`. -/
def Sc12001.response (message : Sc12001) : Response where
  cmdId := 12001
  fields := repeatedMessage 1 (message.shiplist.map Shipinfo.fields)

/-- More ships of the dock, which follow the first ones. -/
structure Sc12010 where
  shipList : List Shipinfo

/-- The same ships under another command id, so that a client appends them. -/
def Sc12010.response (message : Sc12010) : Response where
  cmdId := 12010
  fields := repeatedMessage 1 (message.shipList.map Shipinfo.fields)

/-- When the morale of the ships rises next. -/
structure Sc12031 where
  energyAutoIncreaseTime : UInt32

/-- The time is the only field and is required. -/
def Sc12031.response (message : Sc12031) : Response where
  cmdId := 12031
  fields := [.uint32 1 message.energyAutoIncreaseTime]

/-- Fleets are stored and passed on unread. -/
structure Sc12101 where
  groupList : List Message

/-- The fleets are written as they were stored. -/
def Sc12101.response (message : Sc12101) : Response where
  cmdId := 12101
  fields := repeatedMessage 1 message.groupList

/-- The skins of the player, each with its time. -/
structure Sc12201 where
  skinList : List Idtimeinfo

/-- One entry for each skin, in the order of the record. -/
def Sc12201.response (message : Sc12201) : Response where
  cmdId := 12201
  fields := repeatedMessage 1 (message.skinList.map Idtimeinfo.fields)

/-- The chapter that is being played, if any, and the repairs of the day. -/
structure Sc13000 where
  dailyRepairCount : UInt32
  currentChapter : Option Message

/-- The chapter is optional and is written as it was stored. -/
def Sc13000.response (message : Sc13000) : Response where
  cmdId := 13000
  fields := .uint32 1 message.dailyRepairCount :: optionalMessage 2 message.currentChapter

/-- The chapters that were played. -/
structure Sc13001 where
  chapterList : List Chapterinfo

/-- One entry for each chapter, in the order of the record. -/
def Sc13001.response (message : Sc13001) : Response where
  cmdId := 13001
  fields := repeatedMessage 1 (message.chapterList.map Chapterinfo.fields)

/-- The expeditions that can be sent out. They are the same for every player. -/
structure Sc13002 where
  collectionList : List UInt32
  maxTeam : UInt32

/-- Of a collection only the id is set. -/
def Sc13002.response (message : Sc13002) : Response where
  cmdId := 13002
  fields :=
    repeatedMessage 1 (message.collectionList.map fun id => .uint32 1 id :: zeros [2, 3]) ++
      [.uint32 2 message.maxTeam]

/-- The equipment of the player, of which the game sets the size of the bag for special weapons. -/
structure Sc14001 where
  spweaponBagSize : UInt32

/-- The lists of equipment in front are empty and leave no bytes. -/
def Sc14001.response (message : Sc14001) : Response := ⟨14001, [.uint32 4 message.spweaponBagSize]⟩

/-- The items of the player. -/
structure Sc15001 where
  itemList : List Iteminfo

/-- One entry for each item, in the order of the record. -/
def Sc15001.response (message : Sc15001) : Response where
  cmdId := 15001
  fields := repeatedMessage 1 (message.itemList.map Iteminfo.fields)

/-- The month whose shops are shown, with nothing in them. -/
structure Sc16200 where
  month : UInt32

/-- The month is the last field; the lists of the shops in front of it are empty and leave no bytes. -/
def Sc16200.response (message : Sc16200) : Response := ⟨16200, [.uint32 4 message.month]⟩

/-- What the collection shows about one group of ships. -/
structure ShipStatisticsInfo where
  id : UInt32 := 0
  star : UInt32 := 0
  heartFlag : UInt32 := 0
  heartCount : UInt32 := 0
  marryFlag : UInt32 := 0
  intimacyMax : UInt32 := 0
  lvMax : UInt32 := 0
  deriving DecidableEq

/-- All fields are required, so a group that was never met is all zeros but its id. -/
def ShipStatisticsInfo.fields (info : ShipStatisticsInfo) : Message :=
  [.uint32 1 info.id, .uint32 2 info.star, .uint32 3 info.heartFlag, .uint32 4 info.heartCount,
    .uint32 5 info.marryFlag, .uint32 6 info.intimacyMax, .uint32 7 info.lvMax]

/-- The collection: the groups of ships that the player has met. -/
structure Sc17001 where
  shipInfoList : List ShipStatisticsInfo := []

/-- The groups stand between lists that stay empty, and the discussions of the day are zero. -/
def Sc17001.response (message : Sc17001) : Response where
  cmdId := 17001
  fields := repeatedMessage 3 (message.shipInfoList.map ShipStatisticsInfo.fields) ++ [.uint32 5 0]

/-- The exercises: the rank of the player, who has no rivals. -/
structure Sc18002 where
  rank : UInt32

/-- All numbers but the rank are zero. -/
def Sc18002.response (message : Sc18002) : Response where
  cmdId := 18002
  fields := .uint32 1 0 :: .uint32 2 message.rank :: zeros [3, 4, 5]

/-- The dorm: its level and its floors, without ships and furniture. -/
structure Sc19001 where
  lv : UInt32
  floorNum : UInt32
  expPos : UInt32
  loadTime : UInt32

/-- The required fields that the game never sets are zero, and the name is empty. -/
def Sc19001.response (message : Sc19001) : Response where
  cmdId := 19001
  fields :=
    .uint32 1 message.lv :: zeros [2, 3, 4] ++
      [.uint32 7 message.floorNum, .uint32 8 message.expPos] ++ zeros [10, 11, 12] ++
      [.uint32 13 message.loadTime, .string 14 ""]

/-- The port: the wells and the classes. -/
structure Sc22001 where
  oilWellLevel : UInt32
  goldWellLevel : UInt32
  classLv : UInt32
  skillClassNum : UInt32

/-- What is stored in the wells and taught in the classes is zero. -/
def Sc22001.response (message : Sc22001) : Response where
  cmdId := 22001
  fields :=
    [.uint32 1 message.oilWellLevel, .uint32 2 0, .uint32 3 message.goldWellLevel, .uint32 4 0,
      .uint32 5 message.classLv, .uint32 6 0, .message 7 (zeros [1]),
      .uint32 9 message.skillClassNum, .uint32 10 0]

/-- The awards of the challenges. -/
structure Sc24021 where
  awards : List Kvdata

/-- A result of zero stands in front of the awards. -/
def Sc24021.response (message : Sc24021) : Response where
  cmdId := 24021
  fields := .uint32 1 0 :: repeatedMessage 3 (message.awards.map Kvdata.fields)

/-- Commanders and presets are stored and passed on unread. -/
structure Sc25001 where
  commanders : List Message
  box : List Commanderboxinfo
  usageCount : UInt32
  presets : List Message

/-- The commanders and presets are written as they were stored, the boxes field by field. -/
def Sc25001.response (message : Sc25001) : Response where
  cmdId := 25001
  fields :=
    repeatedMessage 1 message.commanders ++
      repeatedMessage 2 (message.box.map Commanderboxinfo.fields) ++
      [.uint32 3 message.usageCount] ++ repeatedMessage 4 message.presets

/-- A place in the home of the commanders. -/
structure Commanderhomeslot where
  id : UInt32
  opFlag : UInt32
  style : UInt32

/-- The place is empty: the commander in it and what it gained are zero. -/
def Commanderhomeslot.fields (slot : Commanderhomeslot) : Message :=
  [.uint32 1 slot.id, .uint32 2 slot.opFlag, .uint32 3 0, .uint32 4 0, .uint32 5 slot.style,
    .uint32 8 0]

/-- The home of the commanders with its places. -/
structure Sc25027 where
  level : UInt32
  slots : List Commanderhomeslot

/-- Its experience and its cleaning are required and zero. -/
def Sc25027.response (message : Sc25027) : Response where
  cmdId := 25027
  fields :=
    [.uint32 1 message.level, .uint32 2 0] ++
      repeatedMessage 3 (message.slots.map Commanderhomeslot.fields) ++ [.uint32 4 0]

/-- The child of the education game. Its time and its favor are passed on as messages. -/
structure ChildInfo where
  tid : UInt32
  curTime : Message
  mood : UInt32
  money : UInt32
  attrs : List Kvdata
  favor : Message
  tasks : List Kvdata
  canTriggerHomeEvent : UInt32
  newGamePlusCount : UInt32

/-- An attribute and a task are an id and a number, as a key and a value are. -/
def ChildInfo.fields (child : ChildInfo) : Message :=
  [.uint32 1 child.tid, .message 2 child.curTime, .uint32 3 child.mood, .uint32 4 child.money,
    .uint32 5 0] ++
    repeatedMessage 6 (child.attrs.map Kvdata.fields) ++
    [.message 7 child.favor, .uint32 13 0] ++
    repeatedMessage 14 (child.tasks.map Kvdata.fields) ++
    [.string 17 "", .uint32 19 child.canTriggerHomeEvent, .uint32 25 0,
      .uint32 26 child.newGamePlusCount] ++ zeros [27, 28, 29, 30, 31, 32]

/-- Answers a request for the child of the education game. -/
structure Sc27001 where
  result : UInt32
  child : ChildInfo

/-- Both fields are required. -/
def Sc27001.response (message : Sc27001) : Response where
  cmdId := 27001
  fields := [.uint32 1 message.result, .message 2 message.child.fields]

/-- A round of the later education game: its attributes, resources and the first benefit. -/
structure Tbinfo where
  id : UInt32
  attrs : List Kvdata
  resource : List Kvdata
  benefitId : UInt32

/-- The state machine holds one default cache, the round is the first, and
talents, plans, sites and displays are empty. -/
def Tbinfo.fields (tb : Tbinfo) : Message :=
  [.uint32 1 tb.id,
    .message 2 [.uint32 1 0, .uint32 2 0, .message 3 []],
    .message 3 [.uint32 1 1, .uint32 2 0, .uint32 3 0],
    .message 4 (repeatedMessage 1 (tb.attrs.map Kvdata.fields) ++
      repeatedMessage 2 (tb.resource.map Kvdata.fields)),
    .message 5 [], .message 6 [], .message 7 [],
    .string 9 "", .uint32 10 0,
    .message 11 [.message 1 [.uint32 1 tb.benefitId, .uint32 2 1, .uint32 3 0]],
    .uint32 12 0, .uint32 13 0, .message 14 []]

/-- Answers a request for a round of the later education game. -/
structure Sc29002 where
  result : UInt32
  tb : Tbinfo
  ngPlusCount : UInt32

/-- The permanent part, in which only the number of rounds is set, is a message of its own. -/
def Sc29002.response (message : Sc29002) : Response where
  cmdId := 29002
  fields :=
    [.uint32 1 message.result, .message 2 message.tb.fields,
      .message 3 [.uint32 1 message.ngPlusCount, .uint32 6 0]]

/-- Whether the world map is open. -/
structure Sc33114 where
  isWorldOpen : UInt32

/-- The progress is required and zero, and the lists in front of it leave no bytes. -/
def Sc33114.response (message : Sc33114) : Response where
  cmdId := 33114
  fields := [.uint32 1 message.isWorldOpen, .uint32 4 0]

/-- The guild as it is shown to a player who has none: only three numbers are not zero. -/
structure GuildBaseInfo where
  policy : UInt32
  faction : UInt32
  level : UInt32

/-- All fields are required, so the names are written as empty texts. -/
def GuildBaseInfo.fields (base : GuildBaseInfo) : Message :=
  [.uint32 1 0, .uint32 2 base.policy, .uint32 3 base.faction, .string 4 "",
    .uint32 5 base.level, .string 6 "", .string 7 ""] ++ zeros [8, 9, 10, 11]

/-- Answers a request for the guild of the player. -/
structure Sc60000 where
  base : GuildBaseInfo

/-- A guild without members and log, with a default expansion. -/
def Sc60000.response (message : Sc60000) : Response where
  cmdId := 60000
  fields :=
    [.message 1 [.message 1 message.base.fields,
      .message 4 ([.uint32 1 0, .message 2 (zeros [1, 2, 3])] ++ zeros [3, 5, 6, 7, 8])]]

/-- What the player may donate to the guild. -/
structure Sc60103 where
  donateTasks : List UInt32

/-- The numbers around the tasks are required and zero. -/
def Sc60103.response (message : Sc60103) : Response where
  cmdId := 60103
  fields :=
    [.message 1 (.uint32 1 0 :: repeatedUint32 2 message.donateTasks ++ zeros [3, 5, 6, 7])]

end CheshireLane
