import CheshireLane.PlayerChanges

/-!
# Records reached by handling packets

A fresh record changes only as its packets change it. So what every change keeps
holds of every record reached. The game never writes the fields for which it has
no feature yet, and every ship is as it was issued, up to its skin.
-/

namespace CheshireLane

/-- A packet with the clock readings while it is handled. -/
structure Incoming where
  now : Clock
  packet : Packet

/-- The record behind a packet. -/
def afterPacket (game : Game) (uid : UInt32) (player : PlayerInfo) (incoming : Incoming) :
    PlayerInfo :=
  (handlePlayerPacket game uid incoming.now player false incoming.packet).player

/-- The record in front of each packet. -/
def visits (game : Game) (uid : UInt32) : PlayerInfo → List Incoming → List (PlayerInfo × Incoming)
  | _, [] => []
  | player, incoming :: later =>
    (player, incoming) :: visits game uid (afterPacket game uid player incoming) later

/-- A packet leaves the record alone or makes one change. -/
theorem after_packet_cases (game : Game) (uid : UInt32) (player : PlayerInfo)
    (incoming : Incoming) :
    afterPacket game uid player incoming = player ∨
      Change game uid player (afterPacket game uid player incoming) := by
  rcases handle_effect game uid incoming.now player false incoming.packet with
    ⟨unchanged, _⟩ | ⟨change, _⟩
  · exact .inl unchanged
  · exact .inr change

/-- What a packet makes of the record, with the request that asked for it. -/
inductive Outcome (game : Game) (uid : UInt32) (player : PlayerInfo) (incoming : Incoming) :
    PlayerInfo → Prop
  | unchanged : Outcome game uid player incoming player
  | role (req : Cs10024) (arm : incoming.packet.cmdId = 10024)
      (decoded : game.decoder.cs10024 incoming.packet.data = some req) :
      Outcome game uid player incoming
        (player.init game.data incoming.now uid req.nickName req.shipId)
  | story (req : Cs11017) (arm : incoming.packet.cmdId = 11017)
      (decoded : game.decoder.cs11017 incoming.packet.data = some req) :
      Outcome game uid player incoming
        { player with storyList := player.storyList ++ [req.storyId] }
  | room (req : Cs11401) (arm : incoming.packet.cmdId = 11401)
      (decoded : game.decoder.cs11401 incoming.packet.data = some req) :
      Outcome game uid player incoming
        { player with chatRoomId := if req.roomId = 0 then 1 else req.roomId }
  | secretaries (req : Cs11011) (arm : incoming.packet.cmdId = 11011)
      (decoded : game.decoder.cs11011 incoming.packet.data = some req) :
      Outcome game uid player incoming { player with character := req.character }
  | skin (req : Cs12202) (arm : incoming.packet.cmdId = 12202)
      (decoded : game.decoder.cs12202 incoming.packet.data = some req) :
      Outcome game uid player incoming
        { player with ships := setSkin req.shipId req.skinId player.ships }
  | allShips (arm : incoming.packet.cmdId = 50102) :
      Outcome game uid player incoming (giveAllShips game.data player)
  | allSkins (arm : incoming.packet.cmdId = 50102) :
      Outcome game uid player incoming (giveAllSkins game.data player)

/-- One case per arm that writes to the record. Which arm it is follows from the command id, and
what it writes from the fields of its request; all other arms return the record they were given. -/
theorem after_packet_outcome (game : Game) (uid : UInt32) (player : PlayerInfo)
    (incoming : Incoming) :
    Outcome game uid player incoming (afterPacket game uid player incoming) := by
  unfold afterPacket handlePlayerPacket
  cases selected : Request.ofCmdId incoming.packet.cmdId with
  | none => exact .unchanged
  | some request =>
    have arm : incoming.packet.cmdId = request.cmdId := by
      have found := List.find?_some selected
      exact (of_decide_eq_true found).symm
    cases request
    case cs10022 | cs11701 | cs29001 | cs34001 =>
      simp only [handleRequest]
      split <;> exact .unchanged
    case cs10024 =>
      simp only [handleRequest]
      split
      · next req decoded => exact .role req arm decoded
      · exact .unchanged
    case cs11017 =>
      simp only [handleRequest]
      split
      · next req decoded => exact .story req arm decoded
      · exact .unchanged
    case cs11401 =>
      simp only [handleRequest]
      split
      · next req decoded =>
        by_cases moved : player.chatRoomId ≠ if req.roomId = 0 then 1 else req.roomId
        · rw [if_pos moved]
          exact .room req arm decoded
        · rw [if_neg moved]
          exact .unchanged
      · exact .unchanged
    case cs11011 =>
      simp only [handleRequest]
      split
      · next req decoded => exact .secretaries req arm decoded
      · exact .unchanged
    case cs12202 =>
      simp only [handleRequest]
      split
      · next req decoded => exact .skin req arm decoded
      · exact .unchanged
    case cs50102 =>
      simp only [handleRequest]
      split
      · next req _ =>
        unfold handleChat
        cases ChatCommand.ofContent req.content with
        | ship => exact .allShips arm
        | skin => exact .allSkins arm
        | other | missing => exact .unchanged
      · exact .unchanged
    all_goals exact .unchanged

/-- What every change keeps holds in front of every packet. By induction on the packets: a packet
does one of the changes, or it leaves the record as it is. -/
theorem visits_invariant (game : Game) (uid : UInt32) (holds : PlayerInfo → Prop)
    (kept : ∀ player next, holds player → Change game uid player next → holds next)
    (player : PlayerInfo) (initial : holds player) (packets : List Incoming) :
    ∀ visit ∈ visits game uid player packets, holds visit.1 := by
  induction packets generalizing player with
  | nil =>
    intro visit member
    simp [visits] at member
  | cons incoming later inductionHypothesis =>
    have next : holds (afterPacket game uid player incoming) := by
      rcases after_packet_cases game uid player incoming with unchanged | change
      · rw [unchanged]
        exact initial
      · exact kept player _ initial change
    intro visit member
    rcases List.mem_cons.mp member with rfl | behind
    · exact initial
    · exact inductionHypothesis _ next visit behind

/-- What every change keeps holds behind all packets. -/
theorem reached_invariant (game : Game) (uid : UInt32) (holds : PlayerInfo → Prop)
    (kept : ∀ player next, holds player → Change game uid player next → holds next)
    (player : PlayerInfo) (initial : holds player) (packets : List Incoming) :
    holds (packets.foldl (afterPacket game uid) player) := by
  refine List.foldlRecOn packets (afterPacket game uid) initial fun player before incoming _ => ?_
  rcases after_packet_cases game uid player incoming with unchanged | change
  · rw [unchanged]
    exact before
  · exact kept player _ before change

namespace PlayerInfo

/-- An unknown ship changes nothing, a known one goes behind the ships owned. -/
theorem add_ship_cases (data : GameData) (player : PlayerInfo) (shipId : UInt32) :
    player.addShip data shipId = player ∨
      ∃ template, shipTemplate data shipId = some template ∧ player.addShip data shipId =
        { player with ships := player.ships ++ [newShip (player.lastShipId + 1) template] } := by
  unfold addShip
  cases shipTemplate data shipId with
  | none => exact .inl rfl
  | some template => exact .inr ⟨template, rfl, rfl⟩

/-- Adding a ship changes no other field. -/
theorem add_ship_keeps (data : GameData) (player : PlayerInfo) (shipId : UInt32) :
    ∃ ships, player.addShip data shipId = { player with ships } := by
  rcases player.add_ship_cases data shipId with unchanged | ⟨template, _, added⟩
  · exact ⟨player.ships, unchanged⟩
  · exact ⟨_, added⟩

/-- Adding skins changes no other field. -/
theorem add_ship_skin_keeps (data : GameData) (player : PlayerInfo) (shipId : UInt32) :
    ∃ skins, player.addShipSkin data shipId = { player with shipSkins := skins } := by
  simp only [addShipSkin]
  split
  · split <;> exact ⟨_, rfl⟩
  · exact ⟨_, rfl⟩

end PlayerInfo

/-- What every assignment and every added ship keeps holds of a new role. -/
theorem init_invariant (data : GameData) (holds : PlayerInfo → Prop)
    (ship : ∀ player shipId, holds player → holds (player.addShip data shipId))
    (secretary : ∀ player, holds player → holds player.setSecretary)
    (resource : ∀ player type num, holds player → holds (player.addResource type num))
    (facilities : ∀ player now, holds player → holds (player.initFacilities data now))
    (player : PlayerInfo) (now : Clock) (uid : UInt32) (nickName : String) (shipId : UInt32)
    (initial : holds (player.initRecord now uid nickName shipId)) :
    holds (player.init data now uid nickName shipId) := by
  have first := secretary _ (ship _ shipId initial)
  have second := ship _ 106011 first
  unfold PlayerInfo.init
  apply facilities
  iterate 5 apply resource
  exact second

/-- What every added ship keeps holds after any part of the template table. -/
theorem give_ships_invariant (data : GameData) (holds : PlayerInfo → Prop)
    (kept : ∀ player shipId, holds player → holds (player.addShip data shipId))
    (entries : List (String × ShipDataTemplateEntity)) (owned : List UInt32) (player : PlayerInfo)
    (initial : holds player) : holds (entries.foldl (giveShip data) (owned, player)).2 := by
  refine List.foldlRecOn (motive := fun state => holds state.2) entries (giveShip data)
    (b := (owned, player)) initial ?_
  rintro ⟨owned, player⟩ before ⟨key, ship⟩ _
  simp only [giveShip]
  split
  · split
    · exact kept _ _ before
    · exact before
  · exact before

/-- What every added ship keeps holds after all of them. -/
theorem give_all_ships_invariant (data : GameData) (holds : PlayerInfo → Prop)
    (kept : ∀ player shipId, holds player → holds (player.addShip data shipId))
    (player : PlayerInfo) (initial : holds player) : holds (giveAllShips data player) := by
  unfold giveAllShips
  cases data.shipDataTemplate with
  | none => exact initial
  | some shipData => exact give_ships_invariant data holds kept shipData.entries _ player initial

/-- What every added skin keeps holds after all of them. -/
theorem give_all_skins_invariant (data : GameData) (holds : PlayerInfo → Prop)
    (kept : ∀ player shipId, holds player → holds (player.addShipSkin data shipId))
    (player : PlayerInfo) (initial : holds player) : holds (giveAllSkins data player) := by
  unfold giveAllSkins
  generalize player.ships.map Shipinfo.templateId = shipIds
  induction shipIds generalizing player with
  | nil => exact initial
  | cons shipId shipIds inductionHypothesis =>
    exact inductionHypothesis _ (kept player shipId initial)

/-- Giving all ships changes no other field. -/
theorem give_all_ships_keeps (data : GameData) (player : PlayerInfo) :
    ∃ ships, giveAllShips data player = { player with ships } := by
  refine give_all_ships_invariant data (fun next => ∃ ships, next = { player with ships }) ?_
    player ⟨player.ships, rfl⟩
  rintro next shipId ⟨ships, rfl⟩
  exact PlayerInfo.add_ship_keeps data { player with ships } shipId

/-- Giving all skins changes no other field. -/
theorem give_all_skins_keeps (data : GameData) (player : PlayerInfo) :
    ∃ skins, giveAllSkins data player = { player with shipSkins := skins } := by
  refine give_all_skins_invariant data (fun next => ∃ skins, next = { player with shipSkins := skins })
    ?_ player ⟨player.shipSkins, rfl⟩
  rintro next shipId ⟨skins, rfl⟩
  exact PlayerInfo.add_ship_skin_keeps data { player with shipSkins := skins } shipId

/-- A ship as it was handed out, up to its skin. -/
def Issued (ship : Shipinfo) : Prop :=
  ∃ id template skinId, ship = { PlayerInfo.newShip id template with skinId }

/-- A ship made by `add_ship` is one that the server issues. -/
theorem new_ship_issued (id : UInt32) (template : ShipDataTemplateEntity) :
    Issued (PlayerInfo.newShip id template) := ⟨id, template, 0, rfl⟩

/-- Setting a skin keeps what holds of every ship whatever its skin is. -/
theorem set_skin_invariant (holds : Shipinfo → Prop)
    (kept : ∀ ship skinId, holds ship → holds { ship with skinId }) (shipId skinId : UInt32)
    (ships : List Shipinfo) (each : ∀ ship ∈ ships, holds ship) :
    ∀ ship ∈ setSkin shipId skinId ships, holds ship := by
  induction ships with
  | nil => exact each
  | cons first ships inductionHypothesis =>
    obtain ⟨head, tail⟩ := List.forall_mem_cons.mp each
    unfold setSkin
    split
    · exact List.forall_mem_cons.mpr ⟨kept first skinId head, tail⟩
    · exact List.forall_mem_cons.mpr ⟨head, inductionHypothesis tail⟩

/-- A ship stays as issued, whatever skin it is given. -/
theorem Issued.skin (ship : Shipinfo) (skinId : UInt32) (issued : Issued ship) :
    Issued { ship with skinId } := by
  obtain ⟨id, template, _, rfl⟩ := issued
  exact ⟨id, template, skinId, rfl⟩

/-- What the game never writes, and what it writes to ships. These facts hold of every record that
starts as the default one, and they bound the answers. -/
structure Ordinary (player : PlayerInfo) : Prop where
  appreciation : player.appreciation = {}
  bag : player.bag = []
  fleet : player.fleet = []
  currentChapter : player.currentChapter = none
  buffList : player.buffList = []
  commanders : player.commanders = []
  presets : player.presets = []
  commanderBox : player.commanderBox = []
  issued : ∀ ship ∈ player.ships, Issued ship

namespace Ordinary

/-- The default record is ordinary. -/
theorem fresh : Ordinary {} := by
  constructor <;> simp

/-- A new ship is made of constants and of a template. -/
theorem add_ship (data : GameData) (player : PlayerInfo) (shipId : UInt32)
    (ordinary : Ordinary player) : Ordinary (player.addShip data shipId) := by
  rcases player.add_ship_cases data shipId with unchanged | ⟨template, _, added⟩
  · rw [unchanged]
    exact ordinary
  · rw [added]
    refine { ordinary with issued := ?_ }
    intro ship member
    rcases List.mem_append.mp member with owned | new
    · exact ordinary.issued ship owned
    · obtain rfl := List.mem_singleton.mp new
      exact new_ship_issued _ template

/-- The creation of a role sets constants, and adds ships one by one. -/
theorem init (data : GameData) (player : PlayerInfo) (now : Clock) (uid : UInt32)
    (nickName : String) (shipId : UInt32) (ordinary : Ordinary player) :
    Ordinary (player.init data now uid nickName shipId) :=
  init_invariant data Ordinary (add_ship data) (fun _ ordinary => { ordinary with })
    (fun _ _ _ ordinary => { ordinary with }) (fun _ _ ordinary => { ordinary with })
    player now uid nickName shipId { ordinary with }

/-- Every change of a record keeps it ordinary. One case for each kind of change. -/
theorem change (game : Game) (uid : UInt32) (player next : PlayerInfo)
    (ordinary : Ordinary player) (change : Change game uid player next) : Ordinary next := by
  cases change with
  | role now nickName shipId => exact init game.data player now uid nickName shipId ordinary
  | story storyId => exact { ordinary with }
  | room roomId => exact { ordinary with }
  | secretaries character => exact { ordinary with }
  | skin shipId skinId =>
    exact { ordinary with
      issued := set_skin_invariant Issued Issued.skin shipId skinId player.ships ordinary.issued }
  | allShips => exact give_all_ships_invariant game.data Ordinary (add_ship game.data) player ordinary
  | allSkins =>
    obtain ⟨skins, same⟩ := give_all_skins_keeps game.data player
    rw [same]
    exact { ordinary with }

/-- Every record reached from a fresh one is ordinary. -/
theorem visited (game : Game) (uid : UInt32) (packets : List Incoming) :
    ∀ visit ∈ visits game uid {} packets, Ordinary visit.1 :=
  visits_invariant game uid Ordinary (change game uid) {} fresh packets

end Ordinary

end CheshireLane
