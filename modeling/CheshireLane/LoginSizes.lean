import CheshireLane.DockTransfer
import CheshireLane.ReachablePlayers
import CheshireLane.ResponseSizes

/-!
# How long the login burst is

The burst sends the record in pieces. Of an ordinary record only the player data,
the ships, the skins, the chapters and the statistics grow, and the notice grows
with its image URL. Each of these is measured by the values stored.
-/

namespace CheshireLane

open WireFormat

/-- The bytes of a skill in its list: three numbers and five bytes for keys and length. -/
def skillRoom (skill : Shipskill) : Nat :=
  5 + width skill.skillId + width skill.skillLv + width skill.skillExp

/-- A skill takes less than 128 bytes, so one byte is enough for its length. -/
theorem skill_room (skill : Shipskill) :
    (Field.message 10 skill.fields).size = skillRoom skill := by
  have bound : Message.size skill.fields ≤ 18 :=
    Nat.le_trans (Message.size_le_bound _) (Nat.le_of_ble_eq_true rfl)
  rw [short_message (by decide) _ (by omega)]
  simp (disch := decide) only [Shipskill.fields, Message.size_cons, Message.size_nil,
    short_uint32, skillRoom]
  omega

/-- The bytes of a slot in its list. -/
def equipRoom (info : EquipskinInfo) : Nat := pairRoom info.id info.skinId

/-- The bytes of an issued ship. Its level, intimacy and proposal are constants. -/
def shipSize (ship : Shipinfo) : Nat :=
  28 + width ship.id + width ship.templateId + width ship.energy + width ship.skinId +
    (ship.equipInfoList.map equipRoom).sum + (ship.skillIdList.map skillRoom).sum

/-- A ship in a ship list. -/
def shipRoom (ship : Shipinfo) : Nat := 1 + varintLen (shipSize ship) + shipSize ship

/-- The bytes of a ship that the server has issued: the parts that it never fills take none. The
sizes of the fields are added up; only the two ids, the energy, the skin, the skills and the
equipment vary. -/
theorem ship_size (ship : Shipinfo) (issued : Issued ship) :
    Message.size ship.fields = shipSize ship := by
  have equips := repeated_size 5 EquipskinInfo.fields equipRoom ship.equipInfoList
    fun info _ => pair_room (by decide) info.id info.skinId
  have skills := repeated_size 10 Shipskill.fields skillRoom ship.skillIdList
    fun skill _ => skill_room skill
  have intimacy : width 10000 = 2 := by decide
  obtain ⟨id, template, skinId, same⟩ := issued
  unfold shipSize Shipinfo.fields
  simp only [Message.size_append, equips, skills]
  subst same
  simp (disch := decide) only [PlayerInfo.newShip, repeatedMessage, repeatedUint32,
    optionalUint32, optionalString, optionalMessage, Option.toList_none, List.map_nil,
    Message.size_cons, Message.size_nil, short_uint32, long_uint32, width_zero,
    width_one, intimacy]
  omega

/-- A ship in its list. Its length may take a second byte. -/
theorem ship_room (ship : Shipinfo) (issued : Issued ship) :
    (Field.message 1 ship.fields).size = shipRoom ship := by
  rw [Field.size, delimitedSize, delimited_key_short (by decide), ship_size ship issued, shipRoom,
    Nat.add_assoc]

/-- A list of ships is as long as its ships together. -/
theorem ship_list_size (ships : List Shipinfo) (issued : ∀ ship ∈ ships, Issued ship) :
    Message.size (repeatedMessage 1 (ships.map Shipinfo.fields)) = (ships.map shipRoom).sum :=
  repeated_size 1 Shipinfo.fields shipRoom ships fun ship member =>
    ship_room ship (issued ship member)

/-- The ship lists fit when every run of a hundred ships does. Each message carries one such run,
and a list message is as long as its items together. -/
theorem ship_data_fits (player : PlayerInfo) (issued : ∀ ship ∈ player.ships, Issued ship) :
    (∀ response ∈ shipData player, response.size ≤ 65530) ↔
      ∀ chunk ∈ chunks 100 player.ships, (chunk.map shipRoom).sum ≤ 65530 := by
  have pieces : ∀ chunk ∈ chunks 100 player.ships, ∀ ship ∈ chunk, Issued ship :=
    fun chunk member ship inside =>
      issued ship (chunk_members (by decide) player.ships chunk member ship inside)
  rw [ship_data_eq]
  generalize chunks 100 player.ships = all at pieces
  cases all with
  | nil => simp [Response.size, Sc12001.response, repeatedMessage]
  | cons first rest =>
    obtain ⟨head, tail⟩ := List.forall_mem_cons.mp pieces
    have firstSize : (Sc12001.response ⟨first⟩).size = (first.map shipRoom).sum :=
      ship_list_size first head
    have restSize : ∀ chunk ∈ rest, (Sc12010.response ⟨chunk⟩).size = (chunk.map shipRoom).sum :=
      fun chunk member => ship_list_size chunk (tail chunk member)
    simp only [List.head?_cons, Option.getD_some, List.tail_cons, List.forall_mem_cons, firstSize,
      List.forall_mem_map]
    refine and_congr_right fun _ => forall_congr' fun chunk => forall_congr' fun member => ?_
    rw [restSize chunk member]

/-- The bytes of a resource in its list. -/
def resourceRoom (resource : Resource) : Nat := pairRoom resource.type resource.num

/-- The bytes of a secretary ship in its list. -/
def characterRoom (character : Kvdata) : Nat := pairRoom character.key character.value

/-- The bytes of a story: its tag takes two. -/
def storyRoom (storyId : UInt32) : Nat := 2 + width storyId

/-- The bytes of the display of a player: seven numbers and the key and length around them. -/
def displayRoom (display : Displayinfo) : Nat :=
  10 + width display.icon + width display.skin + width display.iconFrame +
    width display.chatFrame + width display.iconTheme + width display.marryFlag +
    width display.transformFlag

/-- The display takes less than 128 bytes, so one byte is enough for its length. -/
theorem display_room (display : Displayinfo) :
    (Field.message 34 display.fields).size = displayRoom display := by
  have bound : Message.size display.fields ≤ 42 :=
    Nat.le_trans (Message.size_le_bound _) (Nat.le_of_ble_eq_true rfl)
  rw [Field.size, delimitedSize, delimited_key_long (by decide) (by decide),
    varint_len_small (by omega)]
  simp (disch := decide) only [Displayinfo.fields, Message.size_cons, Message.size_nil,
    short_uint32, displayRoom]
  omega

/-- The numbers of the player data that are not constant. The guide index and, as
every ship is married, the ship count are sent twice. -/
def playerNumbers (player : PlayerInfo) : List UInt32 :=
  [player.uid, player.level, player.winCount, player.shipBagMax, player.equipBagMax, player.rank,
    player.pvpAttackCount, player.pvpWinCount, player.guideIndex, player.guideIndex,
    player.chatRoomId, player.maxRank, player.registerTime, player.shipCount, player.shipCount,
    player.commanderBagMax, player.rmb, player.mailStoreroomLv]

/-- The bytes of the player data of an ordinary record. -/
def playerDataSize (player : PlayerInfo) : Nat :=
  78 + (playerNumbers player |>.map width).sum + textRoom player.nickName + textRoom player.adv +
    displayRoom player.display + (player.resourceList.map resourceRoom).sum +
    (player.character.map characterRoom).sum + (player.storyList.map storyRoom).sum

/-- Every issued ship counts as married. -/
theorem married_ships (player : PlayerInfo) (issued : ∀ ship ∈ player.ships, Issued ship) :
    player.marriedShips = player.shipCount := by
  have all : player.ships.filter (fun ship => ship.propose = 1) = player.ships := by
    apply List.filter_eq_self.mpr
    intro ship member
    obtain ⟨_, _, _, rfl⟩ := issued ship member
    rfl
  rw [PlayerInfo.marriedShips, all, PlayerInfo.shipCount]

/-- The profile of an ordinary player. Everything that is not listed has a constant size, and the
repeated fields are as long as their entries together. -/
theorem player_data_size (player : PlayerInfo) (ordinary : Ordinary player) :
    player.notifyPlayerData.response.size = playerDataSize player := by
  have resources := repeated_size 5 Resource.fields resourceRoom player.resourceList
    fun resource _ => pair_room (by decide) resource.type resource.num
  have characters := repeated_size 9 Kvdata.fields characterRoom player.character
    fun character _ => pair_room (by decide) character.key character.value
  have stories := repeated_uint32_size 25 storyRoom player.storyList
    fun storyId => long_uint32 (by decide) (by decide) storyId
  have appreciation : (Field.message 36 player.appreciation.fields).size = 7 := by
    rw [ordinary.appreciation]
    decide
  have cover : (Field.message 47 (zeros [1])).size = 5 := by decide
  have display : Message.size (optionalMessage 34 (some player.display.fields)) =
      displayRoom player.display := by
    simp only [optionalMessage, Option.toList_some, List.map_cons, List.map_nil,
      Message.size_cons, Message.size_nil, display_room, Nat.add_zero]
  simp (disch := decide) only [Response.size, Sc11003.response, PlayerInfo.notifyPlayerData,
    Option.map_some, Message.size_append, Message.size_cons, Message.size_nil, short_uint32,
    long_uint32, short_string, resources, characters, stories, display, appreciation, cover,
    width_zero, married_ships player ordinary.issued, playerDataSize, playerNumbers,
    List.map_cons, List.map_nil, List.sum_cons, List.sum_nil]
  omega

/-- The bytes of the notice with this image. -/
def noticeSize (noticeImageUrl : String) : Nat :=
  let content := 91 + textRoom notice + textRoom noticeImageUrl
  1 + varintLen content + content

/-- The notice is as long as its texts, and a few bytes around them. Only the address of the image
varies. -/
theorem notice_size (noticeImageUrl : String) :
    (serverNotice noticeImageUrl).response.size = noticeSize noticeImageUrl := by
  have version : textRoom "1" = 2 := by decide
  have button : textRoom "Welcome" = 8 := by decide
  have title : textRoom "Welcome to Cheshire Lane | 欢迎使用 Cheshire Lane" = 54 := by decide
  have time : textRoom "2/1/2025" = 9 := by decide
  have track : textRoom "" = 1 := by decide
  have six : width 6 = 1 := by decide
  have two : width 2 = 1 := by decide
  have eighty : width 80 = 1 := by decide
  have fields : (welcomeNotice noticeImageUrl).fields =
      [.uint32 1 6, .string 2 "1", .string 3 "Welcome",
        .string 4 "Welcome to Cheshire Lane | 欢迎使用 Cheshire Lane", .string 5 noticeImageUrl,
        .string 6 "2/1/2025", .string 7 notice, .uint32 8 1, .uint32 9 2, .string 10 "",
        .uint32 11 80, .uint32 12 0] := rfl
  have content : Message.size (welcomeNotice noticeImageUrl).fields =
      91 + textRoom notice + textRoom noticeImageUrl := by
    rw [fields]
    -- The text of the notice need not be evaluated.
    generalize notice = text
    simp (disch := decide) only [Message.size_cons, Message.size_nil, short_uint32, short_string,
      version, button, title, time, track, six, two, eighty, width_zero, width_one]
    omega
  simp only [Response.size, Sc11300.response, serverNotice, repeatedMessage, List.map_cons,
    List.map_nil, Message.size_cons, Message.size_nil, Field.size, delimitedSize,
    delimited_key_short (show 1 < 16 by decide), content, noticeSize]
  omega

end CheshireLane
