import CheshireLane.PlayerPackets

/-!
# What handling a packet changes

A packet either leaves the record and the dirty flag alone, or it makes one of
seven changes and raises the flag. Everything said about the handler's effect on
the record follows from this list.
-/

namespace CheshireLane

/-- The changes a packet of this player can make. Every other packet leaves the record as it is, so
an invariant of the records is shown for these alone. -/
inductive Change (game : Game) (uid : UInt32) (player : PlayerInfo) : PlayerInfo → Prop
  | role (now : Clock) (nickName : String) (shipId : UInt32) :
      Change game uid player (player.init game.data now uid nickName shipId)
  | story (storyId : UInt32) :
      Change game uid player { player with storyList := player.storyList ++ [storyId] }
  | room (roomId : UInt32) : Change game uid player { player with chatRoomId := roomId }
  | secretaries (character : List Kvdata) : Change game uid player { player with character }
  | skin (shipId skinId : UInt32) :
      Change game uid player { player with ships := setSkin shipId skinId player.ships }
  | allShips : Change game uid player (giveAllShips game.data player)
  | allSkins : Change game uid player (giveAllSkins game.data player)

/-- Nothing changed, or one change that is marked. -/
def Effect (game : Game) (uid : UInt32) (player : PlayerInfo) (dirty : Bool)
    (result : Handled) : Prop :=
  result.player = player ∧ result.dirty = dirty ∨
    Change game uid player result.player ∧ result.dirty = true

/-- A line of chat changes the record by ships or by skins, and then raises the flag, or changes
nothing. -/
theorem handle_chat_effect (game : Game) (uid : UInt32) (player : PlayerInfo) (dirty : Bool)
    (content : String) : Effect game uid player dirty (handleChat game.data player dirty content) := by
  unfold handleChat
  cases ChatCommand.ofContent content with
  | ship => exact .inr ⟨.allShips, rfl⟩
  | skin => exact .inr ⟨.allSkins, rfl⟩
  | other => exact .inl ⟨rfl, rfl⟩
  | missing => exact .inl ⟨rfl, rfl⟩

/-- One case per arm. The arms that answer a constant change nothing. The others fail to decode and
change nothing, or they do one of the changes and raise the flag. -/
theorem handle_request_effect (game : Game) (uid : UInt32) (now : Clock) (player : PlayerInfo)
    (dirty : Bool) (packet : Packet) (request : Request) :
    Effect game uid player dirty (handleRequest game uid now player dirty packet request) := by
  cases request
  case cs10022 | cs11701 | cs29001 | cs34001 =>
    simp only [handleRequest]
    split <;> exact .inl ⟨rfl, rfl⟩
  case cs10024 =>
    simp only [handleRequest]
    split
    · exact .inr ⟨.role _ _ _, rfl⟩
    · exact .inl ⟨rfl, rfl⟩
  case cs11017 =>
    simp only [handleRequest]
    split
    · exact .inr ⟨.story _, rfl⟩
    · exact .inl ⟨rfl, rfl⟩
  case cs11401 =>
    simp only [handleRequest]
    split
    · next req _ =>
      by_cases moved : player.chatRoomId ≠ if req.roomId = 0 then 1 else req.roomId
      · rw [if_pos moved]
        exact .inr ⟨.room _, rfl⟩
      · rw [if_neg moved]
        exact .inl ⟨rfl, rfl⟩
    · exact .inl ⟨rfl, rfl⟩
  case cs11011 =>
    simp only [handleRequest]
    split
    · exact .inr ⟨.secretaries _, rfl⟩
    · exact .inl ⟨rfl, rfl⟩
  case cs12202 =>
    simp only [handleRequest]
    split
    · exact .inr ⟨.skin _ _, rfl⟩
    · exact .inl ⟨rfl, rfl⟩
  case cs50102 =>
    simp only [handleRequest]
    split
    · exact handle_chat_effect game uid player dirty _
    · exact .inl ⟨rfl, rfl⟩
  all_goals exact .inl ⟨rfl, rfl⟩

/-- The effect of any packet: no change and the flag as before, or one of the changes and the flag
raised. One case for each arm. -/
theorem handle_effect (game : Game) (uid : UInt32) (now : Clock) (player : PlayerInfo)
    (dirty : Bool) (packet : Packet) :
    Effect game uid player dirty (handlePlayerPacket game uid now player dirty packet) := by
  unfold handlePlayerPacket
  cases Request.ofCmdId packet.cmdId with
  | none => exact .inl ⟨rfl, rfl⟩
  | some request => exact handle_request_effect game uid now player dirty packet request

/-- A flag that stays clean says that the record is the same. -/
theorem handle_clean {game : Game} {uid : UInt32} {now : Clock} {player : PlayerInfo} {packet : Packet}
    (clean : (handlePlayerPacket game uid now player false packet).dirty = false) :
    (handlePlayerPacket game uid now player false packet).player = player := by
  rcases handle_effect game uid now player false packet with ⟨unchanged, _⟩ | ⟨_, raised⟩
  · exact unchanged
  · rw [raised] at clean
    cases clean

/-- No packet lowers a raised flag. -/
theorem handle_raised (game : Game) (uid : UInt32) (now : Clock) (player : PlayerInfo)
    (packet : Packet) : (handlePlayerPacket game uid now player true packet).dirty = true := by
  rcases handle_effect game uid now player true packet with ⟨_, kept⟩ | ⟨_, raised⟩
  · exact kept
  · exact raised

/-- The answers and the record do not depend on the flag. Each arm passes the flag on or raises it,
and looks at it nowhere. One case for each arm. -/
theorem handle_ignores_flag (game : Game) (uid : UInt32) (now : Clock) (player : PlayerInfo)
    (left right : Bool) (packet : Packet) :
    (handlePlayerPacket game uid now player left packet).player =
        (handlePlayerPacket game uid now player right packet).player ∧
      (handlePlayerPacket game uid now player left packet).out =
        (handlePlayerPacket game uid now player right packet).out := by
  unfold handlePlayerPacket
  cases Request.ofCmdId packet.cmdId with
  | none => exact ⟨rfl, rfl⟩
  | some request =>
    cases request
    case cs10022 | cs10024 | cs11701 | cs29001 | cs34001 | cs11017 | cs11011 | cs12202 =>
      simp only [handleRequest]
      split <;> exact ⟨rfl, rfl⟩
    case cs11401 =>
      simp only [handleRequest]
      split
      · next req _ =>
        by_cases moved : player.chatRoomId ≠ if req.roomId = 0 then 1 else req.roomId
        · rw [if_pos moved, if_pos moved]
          exact ⟨rfl, rfl⟩
        · rw [if_neg moved, if_neg moved]
          exact ⟨rfl, rfl⟩
      · exact ⟨rfl, rfl⟩
    case cs50102 =>
      simp only [handleRequest]
      split
      · next req _ =>
        unfold handleChat
        cases ChatCommand.ofContent req.content <;> exact ⟨rfl, rfl⟩
      · exact ⟨rfl, rfl⟩
    all_goals exact ⟨rfl, rfl⟩

/-- Packets with nothing to do: without an arm, with a payload that does not
decode, or a chat message that is no command. -/
inductive Idle (decoder : Decoder) (packet : Packet) : Prop
  | unhandled (none : Request.ofCmdId packet.cmdId = none)
  | undecodable (request : Request) (arm : request.cmdId = packet.cmdId)
      (rejected : decoder.decodes request packet.data = false)
  | chat (req : Cs50102) (arm : packet.cmdId = 50102)
      (decoded : decoder.cs50102 packet.data = some req)
      (noShip : (splitWhitespace req.content).head? ≠ some "ship")
      (noSkin : (splitWhitespace req.content).head? ≠ some "skin")

/-- A rejected payload has no effect, whatever its arm is. -/
theorem handle_undecodable (game : Game) (uid : UInt32) (now : Clock) (player : PlayerInfo)
    (dirty : Bool) (packet : Packet) (request : Request)
    (rejected : game.decoder.decodes request packet.data = false) :
    (handleRequest game uid now player dirty packet request).player = player ∧
      (handleRequest game uid now player dirty packet request).dirty = dirty := by
  cases request
  case cs10022 | cs10024 | cs11011 | cs11017 | cs11401 | cs11701 | cs12202 | cs29001 | cs34001 |
      cs50102 =>
    have missing := Option.not_isSome_iff_eq_none.mp (by
      simpa only [Decoder.decodes, Bool.not_eq_true] using rejected)
    simp only [handleRequest, missing, and_self]
  all_goals exact ⟨rfl, rfl⟩

/-- A chat message that is no command has no effect. -/
theorem handle_chat_other (data : GameData) (player : PlayerInfo) (dirty : Bool) (content : String)
    (noShip : (splitWhitespace content).head? ≠ some "ship")
    (noSkin : (splitWhitespace content).head? ≠ some "skin") :
    (handleChat data player dirty content).player = player ∧
      (handleChat data player dirty content).dirty = dirty := by
  unfold handleChat
  cases command : ChatCommand.ofContent content with
  | ship =>
    unfold ChatCommand.ofContent at command
    grind
  | skin =>
    unfold ChatCommand.ofContent at command
    grind
  | other => exact ⟨rfl, rfl⟩
  | missing => exact ⟨rfl, rfl⟩

/-- A packet with nothing to do leaves record and flag alone, whatever the flag was. It has no arm,
it does not decode, or it is a line of chat that gives nothing. -/
theorem handle_idle (game : Game) (uid : UInt32) (now : Clock) (player : PlayerInfo) (dirty : Bool)
    (packet : Packet) (idle : Idle game.decoder packet) :
    (handlePlayerPacket game uid now player dirty packet).player = player ∧
      (handlePlayerPacket game uid now player dirty packet).dirty = dirty := by
  unfold handlePlayerPacket
  cases idle with
  | unhandled none => simp only [none, and_self]
  | undecodable request arm rejected =>
    simp only [← arm, Request.of_cmd_id]
    exact handle_undecodable game uid now player dirty packet request rejected
  | chat req arm decoded noShip noSkin =>
    have chat : Request.ofCmdId packet.cmdId = some .cs50102 := by
      rw [arm]
      exact Request.of_cmd_id .cs50102
    simp only [chat, handleRequest, decoded]
    exact handle_chat_other game.data player dirty req.content noShip noSkin

/-- The dirty flag is sound over the whole command set: a clean flag means that the record is
unchanged, a raised flag stays raised, and packets with nothing to do touch neither.

Each arm of the handler either leaves record and flag as they are or raises the flag; a case split
over all arms shows which. -/
theorem dirty_flag_sound (game : Game) (uid : UInt32) (now : Clock) (player : PlayerInfo)
    (packet : Packet) :
    ((handlePlayerPacket game uid now player false packet).dirty = false →
        (handlePlayerPacket game uid now player false packet).player = player) ∧
      (handlePlayerPacket game uid now player true packet).dirty = true ∧
      (Idle game.decoder packet → ∀ dirty,
        (handlePlayerPacket game uid now player dirty packet).player = player ∧
          (handlePlayerPacket game uid now player dirty packet).dirty = dirty) := by
  refine ⟨handle_clean, handle_raised game uid now player packet, ?_⟩
  intro idle dirty
  exact handle_idle game uid now player dirty packet idle

/-- A chat message that asks for help, and its help text. -/
theorem dirty_flag_sound_help :
    let decoder : Decoder := { Decoder.deaf with
      cs50102 := fun payload =>
        if payload = [8, 1, 18, 4, 104, 101, 108, 112] then some ⟨"help"⟩ else none }
    let game : Game := ⟨⟨⟨[], by decide⟩, none, none, none⟩, decoder, ""⟩
    let packet : Packet := ⟨13, 0, 50102, 1, [8, 1, 18, 4, 104, 101, 108, 112], []⟩
    (handlePlayerPacket game 1 (fun _ => 0) {} false packet).player = {} ∧
      ∀ dirty, (handlePlayerPacket game 1 (fun _ => 0) {} dirty packet).dirty = dirty :=
  ⟨(dirty_flag_sound _ 1 (fun _ => 0) {} _).1 rfl, fun dirty =>
    ((dirty_flag_sound _ 1 (fun _ => 0) {} _).2.2
      (.chat ⟨"help"⟩ rfl rfl (by decide) (by decide)) dirty).2⟩

end CheshireLane
