import CheshireLane.GameData
import CheshireLane.Responses
import Mathlib.Data.List.Sort

/-!
# Player records

The record of a player, the operations the game performs on it, and the
notifications built from it. Hash sets are used for membership only, so they are
lists here. The clock is read several times within one packet; `now k` is its
k-th reading.

Ship ids and counts are 32-bit and wrap.
-/

namespace CheshireLane

/-- The readings of the clock while one packet is handled. -/
abbrev Clock := Nat → UInt32

/-- What a well of the port yields. -/
inductive ResourceType where
  | gold
  | oil
  deriving DecidableEq

/-- A well of the port with its level and the times of its last harvest and upgrade. -/
structure ResourceField where
  type : ResourceType := .gold
  level : UInt32 := 0
  lastHarvestTime : UInt32 := 0
  upgradeTime : UInt32 := 0
  deriving DecidableEq

/-- The default record is the one with every field at its default. -/
structure PlayerInfo where
  uid : UInt32 := 0
  nickName : String := ""
  level : UInt32 := 0
  display : Displayinfo := {}
  registerTime : UInt32 := 0
  appreciation : Appreciationinfo := {}
  chatRoomId : UInt32 := 0
  commanderBagMax : UInt32 := 0
  equipBagMax : UInt32 := 0
  guideIndex : UInt32 := 0
  mailStoreroomLv : UInt32 := 0
  maxRank : UInt32 := 0
  pvpAttackCount : UInt32 := 0
  pvpWinCount : UInt32 := 0
  rank : UInt32 := 0
  rmb : UInt32 := 0
  shipBagMax : UInt32 := 0
  winCount : UInt32 := 0
  character : List Kvdata := []
  storyList : List UInt32 := []
  adv : String := ""
  ships : List Shipinfo := []
  shipSkins : List Idtimeinfo := []
  resourceList : List Resource := []
  resourceFields : List ResourceField := []
  bag : List Iteminfo := []
  spWeaponBagSize : UInt32 := 0
  dormLevel : UInt32 := 0
  dormFloor : UInt32 := 0
  dormExpPos : UInt32 := 0
  classLevel : UInt32 := 0
  skillClassNum : UInt32 := 0
  fleet : List WireFormat.Message := []
  chapterInfos : List Chapterinfo := []
  currentChapter : Option WireFormat.Message := none
  isWorldOpen : Bool := false
  buffList : List Benefitbuff := []
  commanders : List WireFormat.Message := []
  presets : List WireFormat.Message := []
  commanderBox : List Commanderboxinfo := []

/-- Drop elements with the key of the element kept last. -/
def dedupAfter {α : Type} (key : α → UInt32) : UInt32 → List α → List α
  | _, [] => []
  | last, item :: items =>
    if key item = last then dedupAfter key last items
    else item :: dedupAfter key (key item) items

/-- Keep the first element of each run of equal keys: `Vec::dedup_by_key`. -/
def dedupByKey {α : Type} (key : α → UInt32) : List α → List α
  | [] => []
  | item :: items => item :: dedupAfter key (key item) items

/-- `slice::sort_by_key`, which is stable. -/
def sortByKey {α : Type} (key : α → UInt32) (items : List α) : List α :=
  items.insertionSort fun left right => key left ≤ key right

/-- Keep the elements whose key is not owned yet, and own the keys kept:
`retain` with `HashSet::insert`. -/
def retainNew {α : Type} (key : α → UInt32) : List UInt32 → List α → List α
  | _, [] => []
  | owned, item :: items =>
    if key item ∈ owned then retainNew key owned items
    else item :: retainNew key (key item :: owned) items

/-- Cut pieces off the front. Fuel bounds their number. -/
def chunkLoop {α : Type} (size : Nat) : Nat → List α → List (List α)
  | 0, _ => []
  | fuel + 1, items =>
    if items.isEmpty then []
    else items.take size :: chunkLoop size fuel (items.drop size)

/-- `slice::chunks`: no piece is empty, so there are at most as many as elements. -/
def chunks {α : Type} (size : Nat) (items : List α) : List (List α) :=
  chunkLoop size items.length items

namespace PlayerInfo

/-- `ship_count`: the length, cut to 32 bits as the cast does. -/
def shipCount (player : PlayerInfo) : UInt32 := UInt32.ofNat player.ships.length

/-- The number of ships that were proposed to. -/
def marriedShips (player : PlayerInfo) : UInt32 :=
  UInt32.ofNat (player.ships.filter fun ship => ship.propose = 1).length

/-- `add_resource`: appends an entry, also for a type that is there already. -/
def addResource (player : PlayerInfo) (type num : UInt32) : PlayerInfo :=
  { player with resourceList := player.resourceList ++ [{ type, num }] }

/-- The largest id in use, zero without ships. -/
def lastShipId (player : PlayerInfo) : UInt32 :=
  ((player.ships.map Shipinfo.id).max?).getD 0

/-- A ship as it is handed out. -/
def newShip (id : UInt32) (template : ShipDataTemplateEntity) : Shipinfo :=
  { id
    templateId := template.id
    level := 1
    energy := template.energy
    skillIdList := template.buffList.map fun id => { skillId := id, skillLv := 1 }
    intimacy := 10000
    equipInfoList :=
      [{ id := template.equipId1 }, { id := template.equipId2 }, { id := template.equipId3 }, {}, {}]
    propose := 1 }

/-- The template a ship id names, if its statistics and its skin exist as well. -/
def shipTemplate (data : GameData) (shipId : UInt32) : Option ShipDataTemplateEntity := do
  let shipData ← data.shipDataTemplate
  let shipStatisticsData ← data.shipDataStatistics
  let shipSkinData ← data.shipSkinTemplate
  let template ← shipData.get (decimal shipId)
  let statistics ← shipStatisticsData.get (decimal template.id)
  if shipSkinData.containsKey (decimal statistics.skinId) then some template else none

/-- `add_ship`: a template that is not in the table adds nothing. The new ship gets the id behind
the last one. -/
def addShip (data : GameData) (player : PlayerInfo) (shipId : UInt32) : PlayerInfo :=
  match shipTemplate data shipId with
  | none => player
  | some template =>
    { player with ships := player.ships ++ [newShip (player.lastShipId + 1) template] }

/-- Duplicates among the owned skins go first, whether or not the ship is known. -/
def addShipSkin (data : GameData) (player : PlayerInfo) (shipId : UInt32) : PlayerInfo :=
  let owned := retainNew Idtimeinfo.id [] player.shipSkins
  match data.shipDataTemplate, data.shipSkinTemplate with
  | some shipData, some shipSkinData =>
    match shipData.get (decimal shipId) with
    | none => { player with shipSkins := owned }
    | some template =>
      let group := shipSkinData.values.filter fun skin => skin.shipGroup = template.groupType
      let fresh := retainNew ShipSkinTemplateEntity.id (owned.map Idtimeinfo.id) group
      { player with shipSkins := owned ++ fresh.map fun skin => { id := skin.id } }
  | _, _ => { player with shipSkins := owned }

/-- The stories a new player has seen already. -/
def noviceStories : List UInt32 :=
  [2400002, 2400001, 90004, 2, 1, 90012, 30001, 11561, 30002, 90006, 90023, 90040, 30003, 30004,
    6351, 90005, 90007, 90008, 90009, 90030, 2200001]

/-- A finished chapter. -/
def finishedChapter (id : UInt32) : Chapterinfo :=
  { takeBoxCount := 99
    progress := 100
    todayDefeatCount := 0
    passCount := 99
    killEnemyCount := 99
    id
    killBossCount := 99
    defeatCount := 99 }

/-- The fields `init` assigns before it adds ships. -/
def initRecord (player : PlayerInfo) (now : Clock) (uid : UInt32) (nickName : String)
    (shipId : UInt32) : PlayerInfo :=
  { player with
    uid
    nickName
    level := 100
    registerTime := now 0
    display := { icon := shipId }
    chatRoomId := 1
    commanderBagMax := 100
    equipBagMax := 600
    guideIndex := 29
    mailStoreroomLv := 1
    rank := 1
    shipBagMax := 1000
    storyList := noviceStories
    adv := "<color=#FFB6C1>CheshireLane</color>" }

/-- The first ship becomes the secretary. -/
def setSecretary (player : PlayerInfo) : PlayerInfo :=
  { player with
    character := [{ key := (player.ships.getLast?.map Shipinfo.id).getD 1, value := 0 }] }

/-- The fields `init` assigns after it added resources. -/
def initFacilities (data : GameData) (player : PlayerInfo) (now : Clock) : PlayerInfo :=
  { player with
    resourceFields :=
      [{ type := .gold, level := 1, lastHarvestTime := now 1, upgradeTime := now 2 },
        { type := .oil, level := 1, lastHarvestTime := now 3, upgradeTime := now 4 }]
    spWeaponBagSize := 150
    dormLevel := 1
    dormFloor := 1
    dormExpPos := 2
    classLevel := 1
    skillClassNum := 2
    isWorldOpen := true
    chapterInfos := (data.chapterTemplate.keys.filterMap parseU32).map finishedChapter }

/-- `init` in the order of the source: scalar fields, ships, resources, facilities. The lists of
ships and resources are not cleared. -/
def init (data : GameData) (player : PlayerInfo) (now : Clock) (uid : UInt32)
    (nickName : String) (shipId : UInt32) : PlayerInfo :=
  let player := player.initRecord now uid nickName shipId
  let player := (addShip data player shipId).setSecretary
  let player := addShip data player 106011
  let player := player.addResource 1 3000
  let player := player.addResource 2 500
  let player := player.addResource 5 5
  let player := player.addResource 7 5
  let player := player.addResource 8 4000
  player.initFacilities data now

/-- `notify_player_data`. -/
def notifyPlayerData (player : PlayerInfo) : Sc11003 where
  id := player.uid
  name := player.nickName
  level := player.level
  display := some player.display
  registerTime := player.registerTime
  shipCount := player.shipCount
  resourceList := player.resourceList
  appreciation := player.appreciation
  chatRoomId := player.chatRoomId
  commanderBagMax := player.commanderBagMax
  equipBagMax := player.equipBagMax
  guideIndex := player.guideIndex
  newGuideIndex := player.guideIndex
  mailStoreroomLv := player.mailStoreroomLv
  marryShip := player.marriedShips
  maxRank := player.maxRank
  pvpAttackCount := player.pvpAttackCount
  pvpWinCount := player.pvpWinCount
  rank := player.rank
  rmb := player.rmb
  shipBagMax := player.shipBagMax
  winCount := player.winCount
  character := player.character
  storyList := player.storyList
  adv := player.adv

/-- The first hundred ships, and the others in lists of a hundred. -/
def notifyPlayerShipsData (player : PlayerInfo) : Sc12001 × Option (List Sc12010) :=
  let all := chunks 100 player.ships
  let rest := all.tail.map Sc12010.mk
  ({ shiplist := all.head?.getD [] }, if rest.isEmpty then none else some rest)

/-- `notify_player_ship_skins_data`. -/
def notifyPlayerShipSkinsData (player : PlayerInfo) : Sc12201 := { skinList := player.shipSkins }

/-- The ships the statistics are taken from: one of each template, by level. -/
def statisticsShips (player : PlayerInfo) : List Shipinfo :=
  sortByKey Shipinfo.level
    (dedupByKey Shipinfo.templateId (sortByKey Shipinfo.templateId player.ships))

/-- What the statistics say of a ship. The entry is named by the group of its template. -/
def shipStatistics (template : ShipDataTemplateEntity) (ship : Shipinfo) : ShipStatisticsInfo :=
  { id := template.groupType
    star := template.star
    lvMax := ship.level
    intimacyMax := ship.intimacy }

/-- `notify_statistics`: one entry for each template that is owned, if the tables know it. -/
def notifyStatistics (data : GameData) (player : PlayerInfo) : Sc17001 :=
  match data.shipDataTemplate with
  | none => {}
  | some shipData =>
    { shipInfoList := player.statisticsShips.filterMap fun ship =>
        (shipData.get (decimal ship.templateId)).map fun template => shipStatistics template ship }

/-- `notify_bag_data`. -/
def notifyBagData (player : PlayerInfo) : Sc15001 := { itemList := player.bag }

/-- `notify_equip_data`. -/
def notifyEquipData (player : PlayerInfo) : Sc14001 := { spweaponBagSize := player.spWeaponBagSize }

/-- `notify_dorm_data`. -/
def notifyDormData (player : PlayerInfo) (now : UInt32) : Sc19001 where
  expPos := player.dormExpPos
  lv := player.dormLevel
  floorNum := player.dormFloor
  loadTime := now

/-- The level of the first field of a type, zero without one. -/
def fieldLevel (player : PlayerInfo) (type : ResourceType) : UInt32 :=
  ((player.resourceFields.find? fun field => field.type = type).map ResourceField.level).getD 0

/-- `notify_naval_academy`: the levels of the two wells by their types, and of the classes. -/
def notifyNavalAcademy (player : PlayerInfo) : Sc22001 where
  classLv := player.classLevel
  skillClassNum := player.skillClassNum
  oilWellLevel := player.fieldLevel .oil
  goldWellLevel := player.fieldLevel .gold

/-- `notify_fleet_data`. -/
def notifyFleetData (player : PlayerInfo) : Sc12101 := { groupList := player.fleet }

/-- `notify_chapter_info`. -/
def notifyChapterInfo (player : PlayerInfo) : Sc13001 := { chapterList := player.chapterInfos }

/-- `notify_current_chapter`: the chapter that is being played, if there is one. -/
def notifyCurrentChapter (player : PlayerInfo) : Sc13000 where
  currentChapter := player.currentChapter
  dailyRepairCount := 0

/-- `notify_world_data`. -/
def notifyWorldData (player : PlayerInfo) : Sc33114 where
  isWorldOpen := if player.isWorldOpen then 1 else 0

/-- `notify_player_buff`. -/
def notifyPlayerBuff (player : PlayerInfo) : Sc11015 := { buffList := player.buffList }

/-- `notify_commander_data`. -/
def notifyCommanderData (player : PlayerInfo) : Sc25001 where
  box := player.commanderBox
  usageCount := UInt32.ofNat player.presets.length
  commanders := player.commanders
  presets := player.presets

end PlayerInfo

end CheshireLane
