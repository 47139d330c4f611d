import CheshireLane.Library.WireFormat

/-!
# Messages a player record is made of

A stored message is a structure with the fields of its proto definition. Its
`fields` are what prost writes: required fields always, optional ones when
present, repeated ones once per element. Messages the game stores and passes on
without looking inside are kept as their fields.
-/

namespace CheshireLane

open WireFormat

/-- A repeated `uint32` field, one key per element. -/
def repeatedUint32 (tag : Nat) (values : List UInt32) : Message := values.map (.uint32 tag)

/-- A repeated message field. -/
def repeatedMessage (tag : Nat) (messages : List Message) : Message := messages.map (.message tag)

/-- An optional number is a field or nothing: prost writes no bytes for `None`. -/
def optionalUint32 (tag : Nat) (value : Option UInt32) : Message := value.toList.map (.uint32 tag)

/-- An optional text, in the same way. -/
def optionalString (tag : Nat) (value : Option String) : Message := value.toList.map (.string tag)

/-- An optional message inside, in the same way. -/
def optionalMessage (tag : Nat) (value : Option Message) : Message := value.toList.map (.message tag)

/-- Required integers that are zero. -/
def zeros (tags : List Nat) : Message := tags.map fun tag => .uint32 tag 0

/-- A number under a key. The protocol counts with these in many places. -/
structure Kvdata where
  key : UInt32 := 0
  value : UInt32 := 0
  deriving DecidableEq

/-- Both fields are required, so zeros are written too. -/
def Kvdata.fields (data : Kvdata) : Message := [.uint32 1 data.key, .uint32 2 data.value]

/-- Something that is owned, such as a skin, and a time. -/
structure Idtimeinfo where
  id : UInt32 := 0
  time : UInt32 := 0
  deriving DecidableEq

/-- Both fields are required, so a time of zero is written too. -/
def Idtimeinfo.fields (info : Idtimeinfo) : Message := [.uint32 1 info.id, .uint32 2 info.time]

/-- How a player appears to others: an icon with its frames and themes. -/
structure Displayinfo where
  icon : UInt32 := 0
  skin : UInt32 := 0
  iconFrame : UInt32 := 0
  chatFrame : UInt32 := 0
  iconTheme : UInt32 := 0
  marryFlag : UInt32 := 0
  transformFlag : UInt32 := 0
  deriving DecidableEq

/-- All fields are required and are written in the order of their numbers. -/
def Displayinfo.fields (display : Displayinfo) : Message :=
  [.uint32 1 display.icon, .uint32 2 display.skin, .uint32 3 display.iconFrame,
    .uint32 4 display.chatFrame, .uint32 5 display.iconTheme, .uint32 6 display.marryFlag,
    .uint32 7 display.transformFlag]

/-- What was unlocked in the gallery and the music room, and what is marked there. -/
structure Appreciationinfo where
  gallerys : List UInt32 := []
  musics : List UInt32 := []
  favorGallerys : List UInt32 := []
  favorMusics : List UInt32 := []
  musicNo : UInt32 := 0
  musicMode : UInt32 := 0
  deriving DecidableEq

/-- The lists are repeated and not packed, so each entry is a field of its own. -/
def Appreciationinfo.fields (info : Appreciationinfo) : Message :=
  repeatedUint32 1 info.gallerys ++ repeatedUint32 2 info.musics ++
    repeatedUint32 3 info.favorGallerys ++ repeatedUint32 4 info.favorMusics ++
    [.uint32 5 info.musicNo, .uint32 6 info.musicMode]

/-- An amount of one kind of resource. -/
structure Resource where
  type : UInt32 := 0
  num : UInt32 := 0
  deriving DecidableEq

/-- Both fields are required. -/
def Resource.fields (resource : Resource) : Message :=
  [.uint32 1 resource.type, .uint32 2 resource.num]

/-- A skill of a ship with its level. -/
structure Shipskill where
  skillId : UInt32 := 0
  skillLv : UInt32 := 0
  skillExp : UInt32 := 0
  deriving DecidableEq

/-- All fields are required. -/
def Shipskill.fields (skill : Shipskill) : Message :=
  [.uint32 1 skill.skillId, .uint32 2 skill.skillLv, .uint32 3 skill.skillExp]

/-- A slot for equipment and the skin it wears. -/
structure EquipskinInfo where
  id : UInt32 := 0
  skinId : UInt32 := 0
  deriving DecidableEq

/-- Both fields are required. -/
def EquipskinInfo.fields (info : EquipskinInfo) : Message :=
  [.uint32 1 info.id, .uint32 2 info.skinId]

/-- Remodelling steps, strengthening and special weapon are passed on unread. -/
structure Shipinfo where
  id : UInt32 := 0
  templateId : UInt32 := 0
  level : UInt32 := 0
  exp : UInt32 := 0
  equipInfoList : List EquipskinInfo := []
  energy : UInt32 := 0
  state : UInt32 := 0
  isLocked : UInt32 := 0
  transformList : List Message := []
  skillIdList : List Shipskill := []
  intimacy : UInt32 := 0
  proficiency : UInt32 := 0
  strengthList : List Message := []
  createTime : UInt32 := 0
  skinId : UInt32 := 0
  propose : UInt32 := 0
  name : Option String := none
  changeNameTimestamp : Option UInt32 := none
  maxLevel : UInt32 := 0
  commonFlag : Option UInt32 := none
  activityNpc : UInt32 := 0
  metaRepairList : List UInt32 := []
  spweapon : Option Message := none
  skinShadowList : List Kvdata := []
  charRandomFlag : List UInt32 := []

/-- The fields of a ship in the order of their numbers. The parts that no code reads are written as
they were stored. -/
def Shipinfo.fields (ship : Shipinfo) : Message :=
  [.uint32 1 ship.id, .uint32 2 ship.templateId, .uint32 3 ship.level, .uint32 4 ship.exp] ++
    repeatedMessage 5 (ship.equipInfoList.map EquipskinInfo.fields) ++
    [.uint32 6 ship.energy, .uint32 7 ship.state, .uint32 8 ship.isLocked] ++
    repeatedMessage 9 ship.transformList ++
    repeatedMessage 10 (ship.skillIdList.map Shipskill.fields) ++
    [.uint32 11 ship.intimacy, .uint32 12 ship.proficiency] ++
    repeatedMessage 13 ship.strengthList ++
    [.uint32 14 ship.createTime, .uint32 15 ship.skinId, .uint32 16 ship.propose] ++
    optionalString 17 ship.name ++ optionalUint32 18 ship.changeNameTimestamp ++
    [.uint32 19 ship.maxLevel] ++ optionalUint32 20 ship.commonFlag ++
    [.uint32 21 ship.activityNpc] ++ repeatedUint32 22 ship.metaRepairList ++
    optionalMessage 23 ship.spweapon ++
    repeatedMessage 24 (ship.skinShadowList.map Kvdata.fields) ++
    repeatedUint32 25 ship.charRandomFlag

/-- The progress in a chapter of the campaign. -/
structure Chapterinfo where
  id : UInt32 := 0
  progress : UInt32 := 0
  killBossCount : UInt32 := 0
  killEnemyCount : UInt32 := 0
  takeBoxCount : UInt32 := 0
  defeatCount : UInt32 := 0
  todayDefeatCount : UInt32 := 0
  passCount : UInt32 := 0
  deriving DecidableEq

/-- The counters of a chapter, all of them required. -/
def Chapterinfo.fields (chapter : Chapterinfo) : Message :=
  [.uint32 1 chapter.id, .uint32 2 chapter.progress, .uint32 3 chapter.killBossCount,
    .uint32 4 chapter.killEnemyCount, .uint32 5 chapter.takeBoxCount,
    .uint32 6 chapter.defeatCount, .uint32 7 chapter.todayDefeatCount,
    .uint32 8 chapter.passCount]

/-- A number of items of one kind. -/
structure Iteminfo where
  id : UInt32 := 0
  count : UInt32 := 0
  deriving DecidableEq

/-- Both fields are required. -/
def Iteminfo.fields (item : Iteminfo) : Message := [.uint32 1 item.id, .uint32 2 item.count]

/-- A buff and the time at which it ends. -/
structure Benefitbuff where
  id : UInt32 := 0
  timestamp : UInt32 := 0
  deriving DecidableEq

/-- Both fields are required. -/
def Benefitbuff.fields (buff : Benefitbuff) : Message :=
  [.uint32 1 buff.id, .uint32 2 buff.timestamp]

/-- A box in which a commander is trained, with the times between which that happens. -/
structure Commanderboxinfo where
  id : UInt32 := 0
  poolId : UInt32 := 0
  finishTime : UInt32 := 0
  beginTime : UInt32 := 0
  deriving DecidableEq

/-- The fields of a box, all of them required. -/
def Commanderboxinfo.fields (box : Commanderboxinfo) : Message :=
  [.uint32 1 box.id, .uint32 2 box.poolId, .uint32 3 box.finishTime, .uint32 4 box.beginTime]

end CheshireLane
