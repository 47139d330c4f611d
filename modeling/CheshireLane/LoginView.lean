import CheshireLane.AnswersReadBack
import CheshireLane.DockTransfer

/-!
# What the login burst shows

The burst is what a client knows of a player. A client that splits the frames, reads
the payloads by their schemas and takes the fields by their tags has the profile, all
ships in order, the skins, the chapters, the items, the fleets and the commanders, as
they stand in the record, and the statistics that are drawn from the ships.
-/

namespace CheshireLane

open WireFormat

section selection

variable (tag other : Nat)

/-- A repeated number is read at its own tag as the whole list, and nowhere else. -/
@[simp] theorem numbers_repeated (values : List UInt32) :
    Message.numbers tag (repeatedUint32 other values) = if other = tag then values else [] := by
  unfold repeatedUint32
  induction values with
  | nil => simp
  | cons value values inductionHypothesis =>
    rw [List.map_cons, Message.numbers, inductionHypothesis]
    split <;> rfl

/-- A repeated message is read at its own tag as the whole list, and nowhere else. -/
@[simp] theorem nested_repeated (messages : List Message) :
    Message.nested tag (repeatedMessage other messages) = if other = tag then messages else [] := by
  unfold repeatedMessage
  induction messages with
  | nil => simp
  | cons message messages inductionHypothesis =>
    rw [List.map_cons, Message.nested, inductionHypothesis]
    split <;> rfl

/-- Numbers are no texts. -/
@[simp] theorem words_repeated_uint32 (values : List UInt32) :
    Message.words tag (repeatedUint32 other values) = [] := by
  unfold repeatedUint32
  induction values with
  | nil => rfl
  | cons value values inductionHypothesis => simpa using inductionHypothesis

/-- Numbers are no messages inside. -/
@[simp] theorem nested_repeated_uint32 (values : List UInt32) :
    Message.nested tag (repeatedUint32 other values) = [] := by
  unfold repeatedUint32
  induction values with
  | nil => rfl
  | cons value values inductionHypothesis => simpa using inductionHypothesis

/-- Messages inside are no numbers. -/
@[simp] theorem numbers_repeated_message (messages : List Message) :
    Message.numbers tag (repeatedMessage other messages) = [] := by
  unfold repeatedMessage
  induction messages with
  | nil => rfl
  | cons message messages inductionHypothesis => simpa using inductionHypothesis

/-- Messages inside are no texts. -/
@[simp] theorem words_repeated_message (messages : List Message) :
    Message.words tag (repeatedMessage other messages) = [] := by
  unfold repeatedMessage
  induction messages with
  | nil => rfl
  | cons message messages inductionHypothesis => simpa using inductionHypothesis

/-- An optional number is a repeated one of length one at most, so one set of lemmas reads both. -/
@[simp] theorem optional_uint32_repeated (value : Option UInt32) :
    optionalUint32 other value = repeatedUint32 other value.toList := rfl

/-- An optional message is a repeated one of length one at most. -/
@[simp] theorem optional_message_repeated (value : Option Message) :
    optionalMessage other value = repeatedMessage other value.toList := rfl

/-- An optional text is read at its own tag, and nowhere else. -/
@[simp] theorem words_optional (value : Option String) :
    Message.words tag (optionalString other value) = if other = tag then value.toList else [] := by
  cases value <;> simp [optionalString]

/-- Texts are no numbers. -/
@[simp] theorem numbers_optional_string (value : Option String) :
    Message.numbers tag (optionalString other value) = [] := by
  cases value <;> simp [optionalString]

/-- Texts are no messages inside. -/
@[simp] theorem nested_optional_string (value : Option String) :
    Message.nested tag (optionalString other value) = [] := by
  cases value <;> simp [optionalString]

/-- Reading the last entry of an optional field gives the field back. -/
@[simp] theorem last_of_option {α : Type} (value : Option α) : value.toList.getLast? = value := by
  cases value <;> rfl

end selection

/-- The client's reading of a key with its number. -/
def Kvdata.read (fields : Message) : Kvdata where
  key := Message.number 1 fields
  value := Message.number 2 fields

/-- What was written is read back: each getter finds the field of its own number. -/
@[simp] theorem Kvdata.read_fields (data : Kvdata) : Kvdata.read data.fields = data := by
  simp [Kvdata.read, Kvdata.fields]

/-- The client's reading of something that ends at a time. -/
def Idtimeinfo.read (fields : Message) : Idtimeinfo where
  id := Message.number 1 fields
  time := Message.number 2 fields

/-- What was written is read back. -/
@[simp] theorem Idtimeinfo.read_fields (info : Idtimeinfo) : Idtimeinfo.read info.fields = info := by
  simp [Idtimeinfo.read, Idtimeinfo.fields]

/-- The client's reading of an amount. -/
def Resource.read (fields : Message) : Resource where
  type := Message.number 1 fields
  num := Message.number 2 fields

/-- What was written is read back. -/
@[simp] theorem Resource.read_fields (resource : Resource) :
    Resource.read resource.fields = resource := by
  simp [Resource.read, Resource.fields]

/-- The client's reading of a slot. -/
def EquipskinInfo.read (fields : Message) : EquipskinInfo where
  id := Message.number 1 fields
  skinId := Message.number 2 fields

/-- What was written is read back. -/
@[simp] theorem EquipskinInfo.read_fields (info : EquipskinInfo) :
    EquipskinInfo.read info.fields = info := by
  simp [EquipskinInfo.read, EquipskinInfo.fields]

/-- The client's reading of a skill. -/
def Shipskill.read (fields : Message) : Shipskill where
  skillId := Message.number 1 fields
  skillLv := Message.number 2 fields
  skillExp := Message.number 3 fields

/-- What was written is read back. -/
@[simp] theorem Shipskill.read_fields (skill : Shipskill) : Shipskill.read skill.fields = skill := by
  simp [Shipskill.read, Shipskill.fields]

/-- The client's reading of how a player appears. -/
def Displayinfo.read (fields : Message) : Displayinfo where
  icon := Message.number 1 fields
  skin := Message.number 2 fields
  iconFrame := Message.number 3 fields
  chatFrame := Message.number 4 fields
  iconTheme := Message.number 5 fields
  marryFlag := Message.number 6 fields
  transformFlag := Message.number 7 fields

/-- What was written is read back. -/
@[simp] theorem Displayinfo.read_fields (display : Displayinfo) :
    Displayinfo.read display.fields = display := by
  simp [Displayinfo.read, Displayinfo.fields]

/-- The client's reading of the gallery. -/
def Appreciationinfo.read (fields : Message) : Appreciationinfo where
  gallerys := Message.numbers 1 fields
  musics := Message.numbers 2 fields
  favorGallerys := Message.numbers 3 fields
  favorMusics := Message.numbers 4 fields
  musicNo := Message.number 5 fields
  musicMode := Message.number 6 fields

/-- What was written is read back, the four lists in their order. -/
@[simp] theorem Appreciationinfo.read_fields (info : Appreciationinfo) :
    Appreciationinfo.read info.fields = info := by
  simp [Appreciationinfo.read, Appreciationinfo.fields]

/-- The client's reading of a chapter. -/
def Chapterinfo.read (fields : Message) : Chapterinfo where
  id := Message.number 1 fields
  progress := Message.number 2 fields
  killBossCount := Message.number 3 fields
  killEnemyCount := Message.number 4 fields
  takeBoxCount := Message.number 5 fields
  defeatCount := Message.number 6 fields
  todayDefeatCount := Message.number 7 fields
  passCount := Message.number 8 fields

/-- What was written is read back. -/
@[simp] theorem Chapterinfo.read_fields (chapter : Chapterinfo) :
    Chapterinfo.read chapter.fields = chapter := by
  simp [Chapterinfo.read, Chapterinfo.fields]

/-- The client's reading of a ship. Messages inside are read in turn, the parts that no code reads
are kept as they are. -/
def Shipinfo.read (fields : Message) : Shipinfo where
  id := Message.number 1 fields
  templateId := Message.number 2 fields
  level := Message.number 3 fields
  exp := Message.number 4 fields
  equipInfoList := (Message.nested 5 fields).map EquipskinInfo.read
  energy := Message.number 6 fields
  state := Message.number 7 fields
  isLocked := Message.number 8 fields
  transformList := Message.nested 9 fields
  skillIdList := (Message.nested 10 fields).map Shipskill.read
  intimacy := Message.number 11 fields
  proficiency := Message.number 12 fields
  strengthList := Message.nested 13 fields
  createTime := Message.number 14 fields
  skinId := Message.number 15 fields
  propose := Message.number 16 fields
  name := (Message.words 17 fields).getLast?
  changeNameTimestamp := (Message.numbers 18 fields).getLast?
  maxLevel := Message.number 19 fields
  commonFlag := (Message.numbers 20 fields).getLast?
  activityNpc := Message.number 21 fields
  metaRepairList := Message.numbers 22 fields
  spweapon := (Message.nested 23 fields).getLast?
  skinShadowList := (Message.nested 24 fields).map Kvdata.read
  charRandomFlag := Message.numbers 25 fields

/-- What was written is read back: a ship passes to the client with all its parts. -/
@[simp] theorem Shipinfo.read_fields (ship : Shipinfo) : Shipinfo.read ship.fields = ship := by
  simp [Shipinfo.read, Shipinfo.fields, Function.comp_def]

/-- The client's reading of the profile. Only the fields that the game sets are kept. -/
def Sc11003.read (fields : Message) : Sc11003 where
  id := Message.number 1 fields
  name := Message.word 2 fields
  level := Message.number 3 fields
  resourceList := (Message.nested 5 fields).map Resource.read
  winCount := Message.number 7 fields
  adv := Message.word 8 fields
  character := (Message.nested 9 fields).map Kvdata.read
  shipBagMax := Message.number 10 fields
  equipBagMax := Message.number 11 fields
  rank := Message.number 13 fields
  pvpAttackCount := Message.number 14 fields
  pvpWinCount := Message.number 15 fields
  guideIndex := Message.number 17 fields
  chatRoomId := Message.number 19 fields
  maxRank := Message.number 21 fields
  registerTime := Message.number 22 fields
  shipCount := Message.number 23 fields
  storyList := Message.numbers 25 fields
  commanderBagMax := Message.number 30 fields
  display := (Message.nested 34 fields).getLast?.map Displayinfo.read
  rmb := Message.number 35 fields
  appreciation := Appreciationinfo.read ((Message.nested 36 fields).getLastD [])
  marryShip := Message.number 43 fields
  mailStoreroomLv := Message.number 48 fields
  newGuideIndex := Message.number 52 fields

/-- The profile is read back from the message. The zeros that are written in between stand under
other numbers. -/
@[simp] theorem Sc11003.read_response (message : Sc11003) :
    Sc11003.read message.response.fields = message := by
  simp [Sc11003.read, Sc11003.response, Function.comp_def]

/-- The client's reading of an item. -/
def Iteminfo.read (fields : Message) : Iteminfo where
  id := Message.number 1 fields
  count := Message.number 2 fields

/-- What was written is read back. -/
@[simp] theorem Iteminfo.read_fields (item : Iteminfo) : Iteminfo.read item.fields = item := by
  simp [Iteminfo.read, Iteminfo.fields]

/-- The client's reading of a buff. -/
def Benefitbuff.read (fields : Message) : Benefitbuff where
  id := Message.number 1 fields
  timestamp := Message.number 2 fields

/-- What was written is read back. -/
@[simp] theorem Benefitbuff.read_fields (buff : Benefitbuff) :
    Benefitbuff.read buff.fields = buff := by
  simp [Benefitbuff.read, Benefitbuff.fields]

/-- The client's reading of a box. -/
def Commanderboxinfo.read (fields : Message) : Commanderboxinfo where
  id := Message.number 1 fields
  poolId := Message.number 2 fields
  finishTime := Message.number 3 fields
  beginTime := Message.number 4 fields

/-- What was written is read back. -/
@[simp] theorem Commanderboxinfo.read_fields (box : Commanderboxinfo) :
    Commanderboxinfo.read box.fields = box := by
  simp [Commanderboxinfo.read, Commanderboxinfo.fields]

/-- The client's reading of a group of the collection. -/
def ShipStatisticsInfo.read (fields : Message) : ShipStatisticsInfo where
  id := Message.number 1 fields
  star := Message.number 2 fields
  heartFlag := Message.number 3 fields
  heartCount := Message.number 4 fields
  marryFlag := Message.number 5 fields
  intimacyMax := Message.number 6 fields
  lvMax := Message.number 7 fields

/-- What was written is read back. -/
@[simp] theorem ShipStatisticsInfo.read_fields (info : ShipStatisticsInfo) :
    ShipStatisticsInfo.read info.fields = info := by
  simp [ShipStatisticsInfo.read, ShipStatisticsInfo.fields]

/-- What a client knows of a player. What is sent once only is kept as a list too, so that a second
message of its kind, or none, would show. -/
structure ClientView where
  profiles : List Sc11003
  ships : List Shipinfo
  skins : List Idtimeinfo
  chapters : List Chapterinfo
  currentChapters : List (Option Message)
  items : List Iteminfo
  equipment : List UInt32
  statistics : List ShipStatisticsInfo
  buffs : List Benefitbuff
  fleets : List Message
  commanders : List Message
  boxes : List Commanderboxinfo
  presets : List Message
  shipCounts : List UInt32

/-- The messages of some kinds among those read, in order. -/
def contents (kinds : List UInt16) (messages : List ReadBack) : List Message :=
  messages.filterMap fun message => if message.cmdId ∈ kinds then message.fields else none

/-- The elements of all lists among some messages, each list under the same tag. -/
def elements {α : Type} (tag : Nat) (read : Message → α) (messages : List Message) : List α :=
  messages.flatMap fun fields => (Message.nested tag fields).map read

/-- A client keeps what the messages say: lists are joined in the order they arrive. -/
def ClientView.of (messages : List ReadBack) : ClientView where
  profiles := (contents [11003] messages).map Sc11003.read
  ships := elements 1 Shipinfo.read (contents [12001, 12010] messages)
  skins := elements 1 Idtimeinfo.read (contents [12201] messages)
  chapters := elements 1 Chapterinfo.read (contents [13001] messages)
  currentChapters := (contents [13000] messages).map fun fields => (Message.nested 2 fields).getLast?
  items := elements 1 Iteminfo.read (contents [15001] messages)
  equipment := (contents [14001] messages).map (Message.number 4)
  statistics := elements 3 ShipStatisticsInfo.read (contents [17001] messages)
  buffs := elements 1 Benefitbuff.read (contents [11015] messages)
  fleets := elements 1 id (contents [12101] messages)
  commanders := elements 1 id (contents [25001] messages)
  boxes := elements 2 Commanderboxinfo.read (contents [25001] messages)
  presets := elements 4 id (contents [25001] messages)
  shipCounts := (contents [11002] messages).map (Message.number 3)

/-- What a client should know of a player: what stands in the record, and the statistics of the ships
it owns. -/
def PlayerInfo.view (data : GameData) (player : PlayerInfo) : ClientView where
  profiles := [player.notifyPlayerData]
  ships := player.ships
  skins := player.shipSkins
  chapters := player.chapterInfos
  currentChapters := [player.currentChapter]
  items := player.bag
  equipment := [player.spWeaponBagSize]
  statistics := (player.notifyStatistics data).shipInfoList
  buffs := player.buffList
  fleets := player.fleet
  commanders := player.commanders
  boxes := player.commanderBox
  presets := player.presets
  shipCounts := [player.shipCount]

/-- The contents of the responses of some kinds. -/
def pushed (kinds : List UInt16) (responses : List Response) : List Message :=
  (responses.filter fun response => response.cmdId ∈ kinds).map Response.fields

/-- A client that has all responses has the contents of each kind. -/
theorem contents_sent (kinds : List UInt16) (id : UInt16) (responses : List Response) :
    contents kinds (responses.map fun response =>
      ⟨response.cmdId, id, some response.fields⟩) = pushed kinds responses := by
  induction responses with
  | nil => rfl
  | cons response responses inductionHypothesis =>
    unfold contents pushed at *
    by_cases kind : response.cmdId ∈ kinds
    · simp [kind, inductionHypothesis]
    · simp [kind, inductionHypothesis]

/-- What a client takes of a burst it takes of each part of it, so the parts can be looked at one by
one. -/
theorem pushed_append (kinds : List UInt16) (left right : List Response) :
    pushed kinds (left ++ right) = pushed kinds left ++ pushed kinds right := by
  simp [pushed]

/-- One list under its tag is read element by element. -/
theorem elements_list {α : Type} {tag : Nat} {read : Message → α} {fields : α → Message}
    (back : ∀ item, read (fields item) = item) (items : List α) :
    (Message.nested tag (repeatedMessage tag (items.map fields))).map read = items := by
  simp [back, Function.comp_def]

/-- The dock holds the ships in order, and messages of two kinds only. The first message carries the
first piece and the follow-ups the others, so reading them one after the other joins the pieces
again. -/
theorem pushed_dock (player : PlayerInfo) :
    elements 1 Shipinfo.read (pushed [12001, 12010] (shipData player)) = player.ships := by
  have joined := chunks_flatten (by decide : 0 < 100) player.ships
  rw [ship_data_eq]
  generalize chunks 100 player.ships = pieces at joined
  have every : pushed [12001, 12010] (pieces.tail.map fun chunk => Sc12010.response ⟨chunk⟩) =
      pieces.tail.map fun chunk => repeatedMessage 1 (chunk.map Shipinfo.fields) := by
    generalize pieces.tail = rest
    induction rest with
    | nil => rfl
    | cons chunk rest inductionHypothesis =>
      exact congrArg (repeatedMessage 1 (chunk.map Shipinfo.fields) :: ·) inductionHypothesis
  show elements 1 Shipinfo.read (_ :: pushed [12001, 12010]
    (pieces.tail.map fun chunk => Sc12010.response ⟨chunk⟩)) = player.ships
  rw [every, elements, List.flatMap_cons, List.flatMap_map, ← joined]
  simp only [elements_list Shipinfo.read_fields, Sc12001.response, List.flatMap_id']
  cases pieces <;> rfl

/-- No other kind of message is sent with the dock. -/
theorem pushed_apart (opening closing : List Response) (player : PlayerInfo) (kind : UInt16)
    (other : kind ∉ [12001, 12010]) :
    pushed [kind] (opening ++ shipData player ++ closing) = pushed [kind] (opening ++ closing) := by
  have none : ∀ response ∈ shipData player, response.cmdId ∉ [kind] := by
    rw [List.mem_cons, List.mem_singleton, not_or] at other
    rw [ship_data_eq]
    refine List.forall_mem_cons.mpr ⟨by simpa [Sc12001.response] using Ne.symm other.1, ?_⟩
    intro response member
    obtain ⟨chunk, _, rfl⟩ := List.mem_map.mp member
    simpa [Sc12010.response] using Ne.symm other.2
  have absent : pushed [kind] (shipData player) = [] := by
    rw [pushed, List.filter_eq_nil_iff.mpr fun response member => by
      simpa using none response member]
    rfl
  rw [pushed_append, pushed_append, absent, List.append_nil, pushed_append]

/-- What the burst has besides the ships, it has as it has it without any. -/
theorem pushed_single {game : Game} {player : PlayerInfo} {now : Clock} (kind : UInt16)
    (fields : Message) (opening closing : List Response)
    (split : playerData game player now = opening ++ shipData player ++ closing)
    (other : kind ∉ [12001, 12010]) (alone : pushed [kind] (opening ++ closing) = [fields]) :
    pushed [kind] (playerData game player now) = [fields] := by
  rw [split, pushed_apart opening closing player kind other, alone]

/-- A client that reads the burst knows the record. Each kind of message but the ships is sent once.
So the view looks each kind up in the burst, and finds the one message that was written from the
record. -/
theorem burst_view (game : Game) (player : PlayerInfo) (now : Clock) (id : UInt16) :
    ClientView.of ((playerData game player now).map fun response =>
        ⟨response.cmdId, id, some response.fields⟩) = player.view game.data := by
  have single := @pushed_single game player now
  have profile := single 11003 player.notifyPlayerData.response.fields _ _ rfl (by decide) rfl
  have skins := single 12201 player.notifyPlayerShipSkinsData.response.fields _ _ rfl (by decide) rfl
  have chapters := single 13001 player.notifyChapterInfo.response.fields _ _ rfl (by decide) rfl
  have current := single 13000 player.notifyCurrentChapter.response.fields _ _ rfl (by decide) rfl
  have items := single 15001 player.notifyBagData.response.fields _ _ rfl (by decide) rfl
  have equipment := single 14001 player.notifyEquipData.response.fields _ _ rfl (by decide) rfl
  have statistics :=
    single 17001 (player.notifyStatistics game.data).response.fields _ _ rfl (by decide) rfl
  have buffs := single 11015 player.notifyPlayerBuff.response.fields _ _ rfl (by decide) rfl
  have fleets := single 12101 player.notifyFleetData.response.fields _ _ rfl (by decide) rfl
  have commanders := single 25001 player.notifyCommanderData.response.fields _ _ rfl (by decide) rfl
  have counts := single 11002 (Sc11002.response ⟨now 4, monday0Timestamp, player.shipCount⟩).fields
    _ _ rfl (by decide) rfl
  have ships : elements 1 Shipinfo.read (pushed [12001, 12010] (playerData game player now)) =
      player.ships := by
    rw [playerData, pushed_append, pushed_append]
    show elements 1 Shipinfo.read ([] ++ pushed [12001, 12010] (shipData player) ++ []) = _
    rw [List.nil_append, List.append_nil, pushed_dock]
  simp only [ClientView.of, contents_sent, profile, skins, chapters, current, items, equipment,
    statistics, buffs, fleets, commanders, counts, ships, PlayerInfo.view]
  simp [elements, Function.comp_def, Sc12201.response, PlayerInfo.notifyPlayerShipSkinsData,
    Sc13001.response, PlayerInfo.notifyChapterInfo, Sc13000.response, PlayerInfo.notifyCurrentChapter,
    Sc15001.response, PlayerInfo.notifyBagData, Sc14001.response, PlayerInfo.notifyEquipData,
    Sc17001.response, Sc11015.response, PlayerInfo.notifyPlayerBuff, Sc12101.response,
    PlayerInfo.notifyFleetData, Sc25001.response, PlayerInfo.notifyCommanderData, Sc11002.response]

/-- A login is answered with the burst, under its own id. -/
theorem burst_sent (game : Game) (uid : UInt32) (player : PlayerInfo) (now : Clock) (packet : Packet)
    (dirty : Bool) (login : packet.cmdId = 11001) :
    (handlePlayerPacket game uid now player dirty packet).out =
      ((playerData game player now).map fun response => ⟨response, packet.id⟩).map Sent.packet := by
  unfold handlePlayerPacket
  rw [login, List.map_map]
  rfl

/-- The packets of a burst are as long as its messages. -/
theorem burst_fits (game : Game) (uid : UInt32) (player : PlayerInfo) (now : Clock) (packet : Packet)
    (dirty : Bool) (login : packet.cmdId = 11001) :
    (∀ sent ∈ (handlePlayerPacket game uid now player dirty packet).out, sent.data.length ≤ 65530) ↔
      ∀ response ∈ playerData game player now, response.size ≤ 65530 := by
  rw [burst_sent game uid player now packet dirty login, List.map_map, List.forall_mem_map]
  refine forall₂_congr fun response _ => ?_
  exact iff_of_eq (congrArg (· ≤ 65530) (Message.encode_length response.fields))

/-- A client that reads the bytes of a login burst sees the record, if each message of the burst is
short enough. -/
theorem login_view {game : Game} {player : PlayerInfo} {packet : Packet} {now : Clock}
    (typed : player.Typed) (login : packet.cmdId = 11001) (uid : UInt32) (dirty : Bool)
    (fits : ∀ sent ∈ (handlePlayerPacket game uid now player dirty packet).out,
      sent.data.length ≤ 65530) :
    ClientView.of (readBack
        ((handlePlayerPacket game uid now player dirty packet).out.flatMap Packet.toBytes)).1 =
      player.view game.data := by
  have short := (burst_fits game uid player now packet dirty login).mp fits
  have read := readable_read_back
    ((playerData game player now).map fun response => ⟨response, packet.id⟩) (by
      intro message inside
      obtain ⟨response, present, rfl⟩ := List.mem_map.mp inside
      exact ⟨burst_conforms game player now typed response present, short response present⟩)
  rw [burst_sent game uid player now packet dirty login, read, List.map_map]
  exact burst_view game player now packet.id

/-- A character takes four bytes at most. -/
theorem chars_size (text : String) (chars : List Char) (same : text = String.ofList chars) :
    text.utf8ByteSize ≤ 4 * chars.length := by
  subst same
  induction chars with
  | nil => exact Nat.le_refl _
  | cons char chars inductionHypothesis =>
    have four := char.utf8Size_le_four
    have single : (String.ofList [char]).utf8ByteSize = char.utf8Size := by
      rw [← String.singleton_eq_ofList, String.utf8ByteSize_singleton]
    rw [← List.singleton_append, String.ofList_append, String.utf8ByteSize_append, single,
      List.length_append, List.length_singleton]
    omega

set_option maxRecDepth 20000 in
/-- The text of the notice is a constant of less than seven hundred characters. Only its length is
computed, which is far cheaper than its bytes. -/
theorem notice_size_bound : notice.utf8ByteSize ≤ 2800 :=
  Nat.le_trans (chars_size notice _ rfl) (by decide +kernel)

/-- A short text takes at most two more bytes for its own length. -/
theorem text_room_bound (text : String) (short : text.utf8ByteSize ≤ 2800) : textRoom text ≤ 2802 := by
  have varint := varint_len_mono short
  have two : varintLen 2800 = 2 := by decide
  unfold textRoom
  omega

/-- The notice fits with an image of a usual size. -/
theorem notice_fits (noticeImageUrl : String) (short : noticeImageUrl.utf8ByteSize ≤ 2800) :
    noticeSize noticeImageUrl ≤ 65530 := by
  have text := text_room_bound notice notice_size_bound
  have image := text_room_bound noticeImageUrl short
  unfold noticeSize
  -- The size is not to be computed from the text again.
  generalize textRoom notice = room at text ⊢
  have outer : varintLen (91 + room + textRoom noticeImageUrl) ≤ varintLen 5695 :=
    varint_len_mono (by omega)
  have two : varintLen 5695 = 2 := by decide
  simp only
  omega

/-- With an image of a usual size, only the messages besides the notice are to be checked. The texts
of the notice besides the image are short, and it is the only message of its kind. -/
theorem burst_short (game : Game) (player : PlayerInfo) (now : Clock)
    (image : game.noticeImageUrl.utf8ByteSize ≤ 2800)
    (others : ∀ response ∈ playerData game player now,
      response.cmdId = 11300 ∨ response.size ≤ 65530) :
    ∀ response ∈ playerData game player now, response.size ≤ 65530 := by
  have notices := @pushed_single game player now 11300
    (serverNotice game.noticeImageUrl).response.fields _ _ rfl (by decide) rfl
  intro response member
  rcases others response member with notice | short
  · have inside : response.fields ∈ pushed [11300] (playerData game player now) :=
      List.mem_map_of_mem (List.mem_filter.mpr ⟨member, by simp [notice]⟩)
    rw [notices, List.mem_singleton] at inside
    have size := notice_size game.noticeImageUrl
    rw [Response.size, ← inside] at size
    exact Nat.le_trans (Nat.le_of_eq size) (notice_fits game.noticeImageUrl image)
  · exact short

end CheshireLane
