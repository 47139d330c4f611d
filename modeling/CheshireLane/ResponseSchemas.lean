import CheshireLane.Library.WireReading
import CheshireLane.ReachablePlayers

/-!
# What a client reads back

The schemas are those of the proto files, restricted to the fields the server sets or
stores; the tags that are required are all that the proto files require. The schema of its
command accepts every answer to a packet, so a client that splits the stream and reads the
payloads has exactly the messages that were pushed.
-/

namespace CheshireLane

open WireFormat

/-- Tags with integers. -/
def integers (tags : List Nat) : List (Nat × Kind) := tags.map fun tag => (tag, .integer)

/-- Tags with texts. -/
def texts (tags : List Nat) : List (Nat × Kind) := tags.map fun tag => (tag, .text)

/-- Integers, each of which is required. -/
def numbers (tags : List Nat) : Schema := ⟨tags, integers tags⟩

/-- A message without a field the server sets. -/
def noFields : Schema := ⟨[], []⟩

/-- A key and a value, an id and a time, a type and a number. -/
def pairSchema : Schema := numbers [1, 2]

/-- The icon and the looks of a player. -/
def Displayinfo.schema : Schema := numbers [1, 2, 3, 4, 5, 6, 7]

/-- Galleries and music, of which only the chosen music is required. -/
def Appreciationinfo.schema : Schema := ⟨[5, 6], integers [1, 2, 3, 4, 5, 6]⟩

/-- A ship with its equipment, remodelling, skills, strengthening, special weapon and shadow skins. -/
def Shipinfo.schema : Schema where
  required := [1, 2, 3, 4, 6, 7, 8, 11, 12, 14, 15, 16, 19, 21]
  kinds :=
    integers [1, 2, 3, 4, 6, 7, 8, 11, 12, 14, 15, 16, 18, 19, 20, 21, 22, 25] ++ texts [17] ++
      [(5, pairSchema.nested), (9, pairSchema.nested), (10, (numbers [1, 2, 3]).nested),
        (13, pairSchema.nested), (23, (numbers [1, 2, 3, 4, 5, 6, 7, 8]).nested),
        (24, pairSchema.nested)]

/-- A notice as the game client shows it. -/
def Noticeinfo.schema : Schema where
  required := [1, 2, 3, 4, 5, 6, 7, 8, 9, 10, 11, 12]
  kinds := integers [1, 8, 9, 11, 12] ++ texts [2, 3, 4, 5, 6, 7, 10]

/-- A message of the in-game network. -/
def InsMessage.schema : Schema where
  required := [1, 2, 3, 8, 9, 10]
  kinds := integers [1, 2, 8, 9, 10] ++ texts [3]

/-- The sender of a chat message. -/
def ChatPlayerInfo.schema : Schema where
  required := [1, 2, 3]
  kinds := integers [1, 3] ++ texts [2] ++ [(4, Displayinfo.schema.nested)]

/-- The profile of a player. -/
def Sc11003.schema : Schema where
  required :=
    [1, 2, 3, 4, 6, 7, 8, 10, 11, 12, 13, 14, 15, 16, 17, 18, 19, 21, 22, 23, 24, 26, 27, 30, 35, 36,
      37, 41, 43, 46, 47, 48, 50, 52, 53]
  kinds :=
    integers [1, 3, 4, 6, 7, 10, 11, 12, 13, 14, 15, 16, 17, 18, 19, 21, 22, 23, 24, 25, 26, 27, 30,
        35, 37, 41, 43, 46, 48, 50, 52, 53] ++ texts [2, 8] ++
      [(5, pairSchema.nested), (9, pairSchema.nested), (34, Displayinfo.schema.nested),
        (36, Appreciationinfo.schema.nested), (47, (numbers [1]).nested)]

/-- A fleet with its ships and commanders. -/
def fleetSchema : Schema where
  required := [1, 2]
  kinds := integers [1, 3] ++ texts [2] ++ [(4, pairSchema.nested)]

/-- A cell of a chapter at its place. -/
def cellSchema : Schema := ⟨[1, 2], integers [2, 3, 4, 5, 6] ++ [(1, pairSchema.nested)]⟩

/-- A fleet inside a chapter, with its ships, its place, its strategies and its commanders. -/
def chapterFleetSchema : Schema where
  required := [1, 3, 4, 8, 9, 11, 12, 13, 14]
  kinds :=
    integers [1, 4, 7, 8, 11, 12, 13, 14] ++
      [(2, pairSchema.nested), (3, pairSchema.nested), (5, (numbers [1, 3]).nested),
        (6, (numbers [1, 3]).nested), (9, pairSchema.nested), (10, pairSchema.nested)]

/-- The chapter that is being played. -/
def currentChapterSchema : Schema where
  required := [1, 2, 7, 15, 17, 18, 19, 22]
  kinds :=
    integers [1, 2, 7, 8, 9, 10, 11, 12, 13, 15, 17, 18, 19, 22] ++
      [(3, cellSchema.nested), (4, chapterFleetSchema.nested), (5, cellSchema.nested),
        (6, cellSchema.nested), (14, .message [1] (integers [2] ++ [(1, pairSchema.nested)])),
        (16, (numbers [1, 3]).nested), (20, (numbers [1, 3]).nested), (21, pairSchema.nested),
        (23, chapterFleetSchema.nested), (24, chapterFleetSchema.nested)]

/-- A commander with its skills. -/
def commanderSchema : Schema where
  required := [1, 2, 3, 4, 5, 8, 10, 11, 12]
  kinds :=
    integers [1, 2, 3, 4, 5, 6, 7, 8, 10, 12, 13, 14, 15] ++ texts [11] ++ [(9, pairSchema.nested)]

/-- A named choice of commanders. -/
def presetSchema : Schema where
  required := [1, 3]
  kinds := integers [1] ++ texts [3] ++ [(2, pairSchema.nested)]

/-- The commanders of a player, with boxes and presets. -/
def Sc25001.schema : Schema where
  required := [3]
  kinds :=
    integers [3] ++
      [(1, commanderSchema.nested), (2, (numbers [1, 2, 3, 4]).nested), (4, presetSchema.nested)]

/-- A child with the date, its attributes, its favor and its tasks. -/
def ChildInfo.schema : Schema where
  required := [1, 2, 3, 4, 5, 7, 13, 17, 19, 25, 26, 27, 28, 29, 30, 31, 32]
  kinds :=
    integers [1, 3, 4, 5, 13, 19, 25, 26, 27, 28, 29, 30, 31, 32] ++ texts [17] ++
      [(2, (numbers [1, 2, 3]).nested), (6, pairSchema.nested), (7, pairSchema.nested),
        (14, pairSchema.nested)]

/-- The state machine, the round, the resources and the benefits of an education. -/
def Tbinfo.schema : Schema where
  required := [1, 2, 3, 4, 5, 6, 7, 9, 10, 11, 12, 13, 14]
  kinds :=
    integers [1, 10, 12, 13] ++ texts [9] ++
      [(2, .message [1, 2] (integers [1, 2] ++ [(3, noFields.nested)])),
        (3, (numbers [1, 2, 3]).nested),
        (4, .message [] [(1, pairSchema.nested), (2, pairSchema.nested)]), (5, noFields.nested),
        (6, noFields.nested), (7, noFields.nested),
        (11, .message [] [(1, (numbers [1, 2, 3]).nested)]), (14, noFields.nested)]

/-- A guild and its expansion. -/
def GuildInfo.schema : Schema where
  required := [1, 4]
  kinds :=
    [(1, .message [1, 2, 3, 4, 5, 6, 7, 8, 9, 10, 11]
        (integers [1, 2, 3, 5, 8, 9, 10, 11] ++ texts [4, 6, 7])),
      (4, .message [1, 2, 3, 5, 6, 7, 8]
        (integers [1, 3, 5, 6, 7, 8] ++ [(2, (numbers [1, 2, 3]).nested)]))]

/-- A gate server as the dispatch service lists it. -/
def Serverinfo.schema : Schema :=
  ⟨[2, 3, 4, 5], integers [1, 3, 4, 6, 7, 9] ++ texts [2, 5, 8]⟩

/-- A message that is a list of others. -/
def listSchema (tag : Nat) (element : Schema) : Schema := ⟨[], [(tag, element.nested)]⟩

/-- The answers of the dispatch service, the gate and the game, by command id. -/
def answerSchemas : List (Nat × Schema) :=
  [(10019, listSchema 1 Serverinfo.schema),
    (10021, ⟨[1, 3, 4], integers [1, 3, 6] ++ texts [4] ++ [(2, Serverinfo.schema.nested)]⟩),
    (10801, ⟨[1, 2, 3, 7, 8, 9], integers [2, 6, 7, 8, 9] ++ texts [1, 3, 4, 5, 10]⟩),
    (10023, ⟨[1, 2, 3], integers [1, 2, 4, 5] ++ texts [3]⟩), (10025, numbers [1, 2]),
    (10101, numbers [1]), (11000, numbers [1, 2]), (11002, numbers [1, 2, 3]),
    (11003, Sc11003.schema), (11012, numbers [1]), (11015, listSchema 1 pairSchema),
    (11018, numbers [1]), (11200, noFields), (11210, numbers [2]),
    (11300, listSchema 1 Noticeinfo.schema), (11402, numbers [1, 2]), (11604, numbers [1]),
    (11702, ⟨[1], integers [1] ++ [(2, InsMessage.schema.nested)]⟩), (11706, noFields),
    (11711, noFields), (11723, numbers [2]), (11752, ⟨[1], integers [1, 2, 3, 4, 5, 6, 7, 8, 9]⟩),
    (12001, listSchema 1 Shipinfo.schema), (12010, listSchema 1 Shipinfo.schema),
    (12024, numbers [1, 3, 4, 5]), (12031, numbers [1]), (12101, listSchema 1 fleetSchema),
    (12201, listSchema 1 pairSchema), (12203, numbers [1]), (12407, noFields),
    (13000, ⟨[1], integers [1] ++ [(2, currentChapterSchema.nested)]⟩),
    (13001, listSchema 1 (numbers [1, 2, 3, 4, 5, 6, 7, 8])),
    (13002, ⟨[2], integers [2] ++ [(1, (numbers [1, 2, 3]).nested)]⟩), (13201, numbers [2, 3]),
    (13506, noFields), (14001, numbers [4]), (14101, noFields), (15001, listSchema 1 pairSchema),
    (15009, numbers [1]), (16105, noFields), (16200, numbers [4]),
    (17001, ⟨[5], integers [5] ++ [(3, (numbers [1, 2, 3, 4, 5, 6, 7]).nested)]⟩),
    (18002, numbers [1, 2, 3, 4, 5]),
    (19001, ⟨[1, 2, 3, 4, 7, 8, 10, 11, 12, 13, 14],
      integers [1, 2, 3, 4, 7, 8, 10, 11, 12, 13] ++ texts [14]⟩),
    (19010, noFields), (20001, noFields), (20008, numbers [1]),
    (20101, ⟨[1], [(1, (numbers [2, 3]).nested)]⟩), (20201, noFields), (21536, numbers [1, 3, 4]),
    (22001, ⟨[1, 2, 3, 4, 5, 6, 7, 9, 10],
      integers [1, 2, 3, 4, 5, 6, 9, 10] ++ [(7, (numbers [1]).nested)]⟩),
    (22300, noFields), (24021, ⟨[1], integers [1] ++ [(3, pairSchema.nested)]⟩),
    (25001, Sc25001.schema),
    (25027, ⟨[1, 2, 4], integers [1, 2, 4] ++ [(3, (numbers [1, 2, 3, 4, 5, 8]).nested)]⟩),
    (26102, noFields), (26120, numbers [1, 2, 4, 5]),
    (27001, ⟨[1, 2], integers [1] ++ [(2, ChildInfo.schema.nested)]⟩), (27011, noFields),
    (28000, numbers [7]),
    (29002, ⟨[1, 2, 3],
      integers [1] ++ [(2, Tbinfo.schema.nested), (3, (numbers [1, 6]).nested)]⟩),
    (30001, numbers [1, 2]), (30101, numbers [1, 2]), (33114, numbers [1, 4]),
    (34002, listSchema 1 ⟨[1, 2], integers [1, 2, 3]⟩),
    (34502, numbers [1, 2, 5, 6, 7, 8, 9, 10, 11, 12, 13, 14, 15, 16]), (50000, noFields),
    (50101, ⟨[1, 2, 3], integers [2] ++ texts [3] ++ [(1, ChatPlayerInfo.schema.nested)]⟩),
    (60000, ⟨[1], [(1, GuildInfo.schema.nested)]⟩),
    (60103, ⟨[1], [(1, .message [1, 3, 5, 6, 7] (integers [1, 2, 3, 5, 6, 7]))]⟩),
    (62101, noFields), (63000, ⟨[2, 3], integers [2] ++ [(3, pairSchema.nested)]⟩),
    (63100, numbers [2, 3, 4]), (63318, noFields), (64000, noFields)]

/-- The schema of a command, if it is one the server answers with. -/
def schemaOf (cmdId : UInt16) : Option Schema := answerSchemas.lookup cmdId.toNat

/-- The message is one its command announces. -/
def Response.Conforms (response : Response) : Prop :=
  (schemaOf response.cmdId).any (fun schema => schema.accepts response.fields) = true

instance (response : Response) : Decidable response.Conforms :=
  inferInstanceAs (Decidable (Option.any _ _ = true))

/-- A response conforms if it has what its schema requires and its fields are of their kinds. -/
theorem conforms_by {response : Response} (schema : Schema)
    (known : schemaOf response.cmdId = some schema)
    (held : Message.has schema.required response.fields = true)
    (kinds : Message.conforms schema.kinds response.fields = true) : response.Conforms := by
  rw [Response.Conforms, known, Option.any_some, Schema.accepts_iff]
  exact ⟨held, kinds⟩

section Fields

variable {kinds : List (Nat × Kind)} {inner : Schema}

/-- An integer under a tag that has integers. -/
theorem conforms_uint32 (tag : Nat) (value : UInt32) (integer : kinds.lookup tag = some .integer) :
    (Field.uint32 tag value).conforms kinds = true := by
  rw [Field.conforms, integer]

/-- A message under a tag whose messages have a schema that accepts it. -/
theorem conforms_message (tag : Nat) (fields : Message)
    (nested : kinds.lookup tag = some inner.nested) (accepted : inner.accepts fields = true) :
    (Field.message tag fields).conforms kinds = true := by
  rw [Field.conforms, nested]
  exact accepted

/-- Integers under one tag. -/
theorem conforms_repeated_uint32 (tag : Nat) (values : List UInt32)
    (integer : kinds.lookup tag = some .integer) :
    Message.conforms kinds (repeatedUint32 tag values) = true :=
  Message.conforms_map kinds _ values fun value _ => conforms_uint32 tag value integer

/-- Messages under one tag. -/
theorem conforms_messages (tag : Nat) (messages : List Message)
    (nested : kinds.lookup tag = some inner.nested)
    (each : ∀ message ∈ messages, inner.accepts message = true) :
    Message.conforms kinds (repeatedMessage tag messages) = true :=
  Message.conforms_map kinds _ messages fun message member =>
    conforms_message tag message nested (each message member)

/-- Structures under one tag. -/
theorem conforms_repeated {α : Type} (tag : Nat) (items : List α) (fields : α → Message)
    (nested : kinds.lookup tag = some inner.nested)
    (each : ∀ item ∈ items, inner.accepts (fields item) = true) :
    Message.conforms kinds (repeatedMessage tag (items.map fields)) = true :=
  conforms_messages tag _ nested (List.forall_mem_map.mpr each)

/-- An integer that may be absent. -/
theorem conforms_optional_uint32 (tag : Nat) (value : Option UInt32)
    (integer : kinds.lookup tag = some .integer) :
    Message.conforms kinds (optionalUint32 tag value) = true :=
  Message.conforms_map kinds _ _ fun number _ => conforms_uint32 tag number integer

/-- Texts under one tag. -/
theorem conforms_repeated_string (tag : Nat) (values : List String)
    (text : kinds.lookup tag = some .text) :
    Message.conforms kinds (values.map (.string tag)) = true :=
  Message.conforms_map kinds _ values fun content _ => by rw [Field.conforms, text]

/-- A text that may be absent. -/
theorem conforms_optional_string (tag : Nat) (value : Option String)
    (text : kinds.lookup tag = some .text) :
    Message.conforms kinds (optionalString tag value) = true :=
  conforms_repeated_string tag value.toList text

/-- A message that may be absent. -/
theorem conforms_optional (tag : Nat) (value : Option Message)
    (nested : kinds.lookup tag = some inner.nested)
    (each : ∀ message ∈ value, inner.accepts message = true) :
    Message.conforms kinds (optionalMessage tag value) = true :=
  Message.conforms_map kinds _ _ fun message member =>
    conforms_message tag message nested (each message (Option.mem_toList.mp member))

/-- A list of messages is accepted where each of them is. -/
theorem accepts_list (tag : Nat) (messages : List Message)
    (each : ∀ message ∈ messages, inner.accepts message = true) :
    (listSchema tag inner).accepts (repeatedMessage tag messages) = true := by
  refine (Schema.accepts_iff _ _).mpr ⟨rfl, conforms_messages tag messages ?_ each⟩
  simp [listSchema]

/-- A list of structures is accepted where the fields of each are. -/
theorem accepts_items {α : Type} (tag : Nat) (items : List α) (fields : α → Message)
    (each : ∀ item ∈ items, inner.accepts (fields item) = true) :
    (listSchema tag inner).accepts (repeatedMessage tag (items.map fields)) = true :=
  accepts_list tag _ (List.forall_mem_map.mpr each)

end Fields

/-- What is kept unread in a ship are the messages its proto definition has there. -/
structure Shipinfo.Typed (ship : Shipinfo) : Prop where
  transformList : ∀ info ∈ ship.transformList, pairSchema.accepts info = true
  strengthList : ∀ info ∈ ship.strengthList, pairSchema.accepts info = true
  spweapon : ∀ weapon ∈ ship.spweapon, (numbers [1, 2, 3, 4, 5, 6, 7, 8]).accepts weapon = true

/-- What is kept unread in a record are the messages the proto definitions have there. In the source
the types say so. -/
structure PlayerInfo.Typed (player : PlayerInfo) : Prop where
  fleet : ∀ group ∈ player.fleet, fleetSchema.accepts group = true
  currentChapter : ∀ chapter ∈ player.currentChapter, currentChapterSchema.accepts chapter = true
  commanders : ∀ commander ∈ player.commanders, commanderSchema.accepts commander = true
  presets : ∀ preset ∈ player.presets, presetSchema.accepts preset = true
  ships : ∀ ship ∈ player.ships, ship.Typed

namespace PlayerInfo.Typed

/-- An issued ship keeps nothing unread. -/
theorem issued {ship : Shipinfo} (issued : Issued ship) : ship.Typed := by
  obtain ⟨id, template, skinId, rfl⟩ := issued
  exact ⟨List.forall_mem_nil _, List.forall_mem_nil _, fun weapon member => by cases member⟩

/-- A record the game itself has made keeps nothing unread. -/
theorem ordinary {player : PlayerInfo} (ordinary : Ordinary player) : player.Typed where
  fleet := ordinary.fleet ▸ List.forall_mem_nil _
  currentChapter := ordinary.currentChapter ▸ fun chapter member => by cases member
  commanders := ordinary.commanders ▸ List.forall_mem_nil _
  presets := ordinary.presets ▸ List.forall_mem_nil _
  ships ship member := issued (ordinary.issued ship member)

/-- A new ship has no parts that could be of another type. -/
theorem add_ship (data : GameData) (player : PlayerInfo) (shipId : UInt32) (typed : player.Typed) :
    (player.addShip data shipId).Typed := by
  rcases player.add_ship_cases data shipId with unchanged | ⟨template, _, added⟩
  · rw [unchanged]
    exact typed
  · rw [added]
    refine { typed with ships := ?_ }
    intro ship member
    rcases List.mem_append.mp member with owned | new
    · exact typed.ships ship owned
    · obtain rfl := List.mem_singleton.mp new
      exact issued (new_ship_issued _ template)

/-- No change writes a message the game does not read: a new role and the chat commands add ships as
they are issued, and the others leave these fields alone. -/
theorem change (game : Game) (uid : UInt32) (player next : PlayerInfo) (typed : player.Typed)
    (change : Change game uid player next) : next.Typed := by
  cases change with
  | role now nickName shipId =>
    exact init_invariant game.data PlayerInfo.Typed (add_ship game.data)
      (fun _ typed => { typed with }) (fun _ _ _ typed => { typed with })
      (fun _ _ typed => { typed with }) player now uid nickName shipId { typed with }
  | story storyId => exact { typed with }
  | room roomId => exact { typed with }
  | secretaries character => exact { typed with }
  | skin shipId skinId =>
    exact { typed with
      ships := set_skin_invariant Shipinfo.Typed (fun _ _ typed => { typed with }) shipId skinId
        player.ships typed.ships }
  | allShips =>
    exact give_all_ships_invariant game.data PlayerInfo.Typed (add_ship game.data) player typed
  | allSkins =>
    obtain ⟨skins, same⟩ := give_all_skins_keeps game.data player
    rw [same]
    exact { typed with }

end PlayerInfo.Typed

/-- A ship has its required integers between the lists, and each list is of its kind. Lists that are
read off the record as messages conform by the type of the ship. -/
theorem ship_accepted (ship : Shipinfo) (typed : ship.Typed) :
    Shipinfo.schema.accepts ship.fields = true := by
  refine (Schema.accepts_iff _ _).mpr ⟨?_, ?_⟩
  · simp [Message.has, Shipinfo.schema, Shipinfo.fields, Field.tag]
  · simp only [Shipinfo.fields, Message.conforms_append, Bool.and_eq_true]
    and_intros
    · rfl
    · exact @conforms_repeated _ pairSchema _ 5 _ _ rfl fun _ _ => rfl
    · rfl
    · exact conforms_messages 9 _ rfl typed.transformList
    · exact @conforms_repeated _ (numbers [1, 2, 3]) _ 10 _ _ rfl fun _ _ => rfl
    · rfl
    · exact conforms_messages 13 _ rfl typed.strengthList
    · rfl
    · exact conforms_optional_string 17 _ rfl
    · exact conforms_optional_uint32 18 _ rfl
    · rfl
    · exact conforms_optional_uint32 20 _ rfl
    · rfl
    · exact conforms_repeated_uint32 22 _ rfl
    · exact conforms_optional 23 _ rfl typed.spweapon
    · exact @conforms_repeated _ pairSchema _ 24 _ _ rfl fun _ _ => rfl
    · exact conforms_repeated_uint32 25 _ rfl

/-- Galleries and music are integers, however many there are. -/
theorem appreciation_accepted (info : Appreciationinfo) :
    Appreciationinfo.schema.accepts info.fields = true := by
  refine (Schema.accepts_iff _ _).mpr ⟨?_, ?_⟩
  · simp [Message.has, Appreciationinfo.schema, Appreciationinfo.fields, Field.tag]
  · simp only [Appreciationinfo.fields, Message.conforms_append, Bool.and_eq_true]
    exact ⟨⟨⟨⟨conforms_repeated_uint32 1 _ rfl, conforms_repeated_uint32 2 _ rfl⟩,
      conforms_repeated_uint32 3 _ rfl⟩, conforms_repeated_uint32 4 _ rfl⟩, rfl⟩

/-- The profile, whatever its lists hold. All its lists are built from fields with fixed numbers and
types, so nothing is asked of the record. -/
theorem player_data_conforms (message : Sc11003) : message.response.Conforms := by
  refine conforms_by Sc11003.schema rfl ?_ ?_
  · simp [Message.has, Sc11003.schema, Sc11003.response, Field.tag]
  · simp only [Sc11003.response, Message.conforms_append, Bool.and_eq_true]
    and_intros
    · rfl
    · exact @conforms_repeated _ pairSchema _ 5 _ _ rfl fun _ _ => rfl
    · rfl
    · exact @conforms_repeated _ pairSchema _ 9 _ _ rfl fun _ _ => rfl
    · rfl
    · exact conforms_repeated_uint32 25 _ rfl
    · rfl
    · refine @conforms_optional _ Displayinfo.schema 34 _ rfl fun fields member => ?_
      obtain ⟨display, _, rfl⟩ := Option.map_eq_some_iff.mp member
      rfl
    · rw [Message.conforms, Message.conforms, conforms_message 36 _ rfl (appreciation_accepted _)]
      rfl

/-- A requested group has its id and its points in front of what was fetched. -/
theorem group_accepted (info : MetaShipInfo) :
    (⟨[1, 2], integers [1, 2, 3]⟩ : Schema).accepts info.fields = true := by
  refine (Schema.accepts_iff _ _).mpr ⟨rfl, ?_⟩
  rw [MetaShipInfo.fields, Message.conforms_append, conforms_repeated_uint32 3 _ rfl]
  rfl

/-- An education, whatever attributes and resources it starts with. The nested messages are written
whole, down to the lists inside them. -/
theorem educate_conforms (result ngPlusCount : UInt32) (tb : Tbinfo) :
    (Sc29002.response ⟨result, tb, ngPlusCount⟩).Conforms := by
  have resources : Message.conforms [(1, pairSchema.nested), (2, pairSchema.nested)]
      (repeatedMessage 1 (tb.attrs.map Kvdata.fields) ++
        repeatedMessage 2 (tb.resource.map Kvdata.fields)) = true := by
    rw [Message.conforms_append, @conforms_repeated _ pairSchema _ 1 _ _ rfl fun _ _ => rfl,
      @conforms_repeated _ pairSchema _ 2 _ _ rfl fun _ _ => rfl]
    rfl
  have inner : Tbinfo.schema.accepts tb.fields = true := by
    refine (Schema.accepts_iff _ _).mpr ⟨rfl, ?_⟩
    simp only [Tbinfo.fields, Message.conforms, Bool.and_eq_true]
    have named := @conforms_message Tbinfo.schema.kinds
      ⟨[], [(1, pairSchema.nested), (2, pairSchema.nested)]⟩ 4 _ rfl
      ((Schema.accepts_iff _ _).mpr ⟨rfl, resources⟩)
    exact ⟨rfl, rfl, rfl, named, rfl, rfl, rfl, rfl, rfl, rfl, rfl, rfl, rfl, trivial⟩
  refine conforms_by _ rfl rfl ?_
  simp only [Sc29002.response, Message.conforms, Bool.and_eq_true]
  exact ⟨rfl, conforms_message 2 _ rfl inner, rfl, trivial⟩

end CheshireLane
