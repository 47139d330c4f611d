import CheshireLane.PlayerPackets

/-!
# How long the answers are

Most answers have a fixed shape, so a bound on their integers bounds them. The
others grow with what is stored or requested: the echoed ticket, the requested
groups, the notice with its image URL, and the lists of the login burst. Their
sizes are computed here from the stored values, element by element.

The room of an element is the number of bytes it takes inside its list.
-/

namespace CheshireLane

open WireFormat

/-- The bytes of an integer. -/
def width (value : UInt32) : Nat := varintLen value.toNat

/-- A 32-bit number takes five bytes at most, seven bits in each. -/
theorem width_bound (value : UInt32) : width value ≤ 5 := varint_len_uint32 value

/-- The bytes of a text with its length. -/
def textRoom (text : String) : Nat := varintLen text.utf8ByteSize + text.utf8ByteSize

namespace Response

/-- The length of the payload, as the length field has to count it. -/
def size (response : Response) : Nat := Message.size response.fields

/-- Answers of a fixed shape are far below the limit. -/
theorem size_of_bound (response : Response) (bound : Message.bound response.fields ≤ 65530) :
    response.size ≤ 65530 :=
  Nat.le_trans (Message.size_le_bound _) bound

end Response

/-- A number under a small tag: one byte for the key. -/
theorem short_uint32 {tag : Nat} (short : tag < 16) (value : UInt32) :
    (Field.uint32 tag value).size = 1 + width value := by
  rw [Field.size, varint_key_short short, width]

/-- A number under a larger tag: two bytes for the key. -/
theorem long_uint32 {tag : Nat} (long : 16 ≤ tag) (bound : tag < 2048) (value : UInt32) :
    (Field.uint32 tag value).size = 2 + width value := by
  rw [Field.size, varint_key_long long bound, width]

/-- A text under a small tag: its bytes, their number and one byte for the key. -/
theorem short_string {tag : Nat} (short : tag < 16) (text : String) :
    (Field.string tag text).size = 1 + textRoom text := by
  rw [Field.size, delimitedSize, delimited_key_short short, textRoom]

/-- A message below 128 bytes under a short tag. -/
theorem short_message {tag : Nat} (short : tag < 16) (fields : Message)
    (small : Message.size fields < 128) : (Field.message tag fields).size = 2 + Message.size fields := by
  rw [Field.size, delimitedSize, delimited_key_short short, varint_len_small small]
  omega

/-- Zero takes one byte, so a required field is never free. -/
@[simp] theorem width_zero : width 0 = 1 := by decide

/-- One takes one byte. -/
@[simp] theorem width_one : width 1 = 1 := by decide

/-- Two integers under the tags 1 and 2. -/
theorem pair_size (first second : UInt32) :
    Message.size [.uint32 1 first, .uint32 2 second] = 2 + width first + width second := by
  simp (disch := decide) only [Message.size_cons, Message.size_nil, short_uint32]
  omega

/-- Elements whose room is known take the sum of their rooms. -/
theorem repeated_size {α : Type} (tag : Nat) (fields : α → Message) (room : α → Nat)
    (items : List α) (known : ∀ item ∈ items, (Field.message tag (fields item)).size = room item) :
    Message.size (repeatedMessage tag (items.map fields)) = (items.map room).sum := by
  rw [repeatedMessage, List.map_map, Message.size_map]
  exact congrArg List.sum (List.map_congr_left known)

/-- A repeated number takes the sum of what its entries take. -/
theorem repeated_uint32_size (tag : Nat) (room : UInt32 → Nat) (values : List UInt32)
    (known : ∀ value, (Field.uint32 tag value).size = room value) :
    Message.size (repeatedUint32 tag values) = (values.map room).sum := by
  rw [repeatedUint32, Message.size_map]
  exact congrArg List.sum (List.map_congr_left fun value _ => known value)

/-- A pair of integers as a list element. -/
def pairRoom (first second : UInt32) : Nat := 4 + width first + width second

/-- Two numbers in a message of their own. Five bytes at most each, so one byte is enough for the
length. -/
theorem pair_room {tag : Nat} (short : tag < 16) (first second : UInt32) :
    (Field.message tag [.uint32 1 first, .uint32 2 second]).size = pairRoom first second := by
  have first' := width_bound first
  have second' := width_bound second
  rw [short_message short _ (by rw [pair_size]; omega), pair_size, pairRoom]
  omega

/-- An echoed ticket with the result and the user id in front of it. -/
def ticketSize (userId : UInt32) (ticket : String) : Nat := 4 + width userId + textRoom ticket

/-- The answer to a login: its size is that of the ticket that is repeated, up to a few bytes. -/
theorem ticket_size (userId : UInt32) (ticket : String) :
    (Sc10023.response ⟨0, userId, ticket, none, none⟩).size = ticketSize userId ticket := by
  have fields : (Sc10023.response ⟨0, userId, ticket, none, none⟩).fields =
      [.uint32 1 0, .uint32 2 userId, .string 3 ticket] := rfl
  simp (disch := decide) only [Response.size, fields, Message.size_cons, Message.size_nil,
    short_uint32, short_string, width_zero, ticketSize]
  omega

/-- A requested group comes back as an id with a zero behind it. -/
def groupRoom (groupId : UInt32) : Nat := 5 + width groupId

/-- The answer about meta ships grows with the list that was asked for. -/
theorem groups_size (groupIds : List UInt32) :
    (Sc34002.response ⟨groupIds.map fun id => { groupId := id }⟩).size =
      (groupIds.map groupRoom).sum := by
  simp only [Response.size, Sc34002.response, List.map_map]
  apply repeated_size
  intro groupId _
  refine (pair_room (show 1 < 16 by decide) groupId 0).trans ?_
  rw [pairRoom, groupRoom, width_zero]
  omega

/-- The bytes of one skin in its list. -/
def skinRoom (skin : Idtimeinfo) : Nat := pairRoom skin.id skin.time

/-- The list of skins is as long as its entries together. -/
theorem skins_size (player : PlayerInfo) :
    player.notifyPlayerShipSkinsData.response.size = (player.shipSkins.map skinRoom).sum :=
  repeated_size 1 Idtimeinfo.fields skinRoom _ fun skin _ =>
    pair_room (by decide) skin.id skin.time

/-- A chapter has eight numbers. -/
def chapterRoom (chapter : Chapterinfo) : Nat :=
  10 + width chapter.id + width chapter.progress + width chapter.killBossCount +
    width chapter.killEnemyCount + width chapter.takeBoxCount + width chapter.defeatCount +
    width chapter.todayDefeatCount + width chapter.passCount

/-- One chapter in its list. Its eight numbers stay below 128 bytes, so one byte is enough for the
length. -/
theorem chapter_room (chapter : Chapterinfo) :
    (Field.message 1 chapter.fields).size = chapterRoom chapter := by
  have bound : Message.size chapter.fields ≤ 48 :=
    Nat.le_trans (Message.size_le_bound _) (Nat.le_of_ble_eq_true rfl)
  rw [short_message (by decide) _ (by omega)]
  simp (disch := decide) only [Chapterinfo.fields, Message.size_cons, Message.size_nil,
    short_uint32, chapterRoom]
  omega

/-- The list of chapters is as long as its entries together. -/
theorem chapters_size (player : PlayerInfo) :
    player.notifyChapterInfo.response.size = (player.chapterInfos.map chapterRoom).sum :=
  repeated_size 1 Chapterinfo.fields chapterRoom _ fun chapter _ => chapter_room chapter

/-- A statistics entry has seven numbers, of which the game sets four. -/
def statisticsRoom (info : ShipStatisticsInfo) : Nat :=
  12 + width info.id + width info.star + width info.intimacyMax + width info.lvMax

/-- One group of the statistics in its list. -/
theorem statistics_room (template : ShipDataTemplateEntity) (ship : Shipinfo) :
    (Field.message 3 (PlayerInfo.shipStatistics template ship).fields).size =
      statisticsRoom (PlayerInfo.shipStatistics template ship) := by
  have bound : Message.size (PlayerInfo.shipStatistics template ship).fields ≤ 42 :=
    Nat.le_trans (Message.size_le_bound _) (Nat.le_of_ble_eq_true rfl)
  rw [short_message (by decide) _ (by omega)]
  simp (disch := decide) only [PlayerInfo.shipStatistics, ShipStatisticsInfo.fields,
    Message.size_cons, Message.size_nil, short_uint32, width_zero, statisticsRoom]
  omega

/-- The statistics of the owned ships with a known template, one of each template. -/
def statisticsEntries (data : GameData) (player : PlayerInfo) : List ShipStatisticsInfo :=
  player.statisticsShips.filterMap fun ship => do
    let shipData ← data.shipDataTemplate
    let template ← shipData.get (decimal ship.templateId)
    some (PlayerInfo.shipStatistics template ship)

/-- The groups of the statistics, with the table taken out of the way. -/
theorem statistics_entries (data : GameData) (player : PlayerInfo) :
    (player.notifyStatistics data).shipInfoList = statisticsEntries data player := by
  unfold PlayerInfo.notifyStatistics statisticsEntries
  cases data.shipDataTemplate with
  | none => exact (List.filterMap_none _).symm
  | some shipData =>
    apply List.filterMap_congr
    intro ship _
    simp only [Option.bind_eq_bind, Option.bind_some]
    cases shipData.get (decimal ship.templateId) <;> rfl

/-- The statistics are as long as their entries together, and two bytes for the number behind them.
Each entry is short enough for a length of one byte. -/
theorem statistics_size (data : GameData) (player : PlayerInfo) :
    (player.notifyStatistics data).response.size =
      ((statisticsEntries data player).map statisticsRoom).sum + 2 := by
  have elements : Message.size (repeatedMessage 3
      ((statisticsEntries data player).map ShipStatisticsInfo.fields)) =
        ((statisticsEntries data player).map statisticsRoom).sum := by
    apply repeated_size
    intro info member
    obtain ⟨ship, _, entry⟩ := List.mem_filterMap.mp member
    cases table : data.shipDataTemplate with
    | none => simp [table] at entry
    | some shipData =>
      simp only [table, Option.bind_eq_bind, Option.bind_some, Option.bind_eq_some_iff,
        Option.some.injEq] at entry
      obtain ⟨template, _, rfl⟩ := entry
      exact statistics_room template ship
  simp (disch := decide) only [Response.size, Sc17001.response, statistics_entries,
    Message.size_append, elements, Message.size_cons, Message.size_nil, short_uint32, width_zero]

end CheshireLane
