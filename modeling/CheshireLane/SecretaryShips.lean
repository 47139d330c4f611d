import CheshireLane.KeyedLists
import CheshireLane.ShipIds

/-!
# The secretary of a new role

The secretary is chosen between the two ships a new role gets. If the chosen ship
is refused, the last old ship becomes the secretary, and on an empty dock the
number one, which the second ship then takes.
-/

namespace CheshireLane

open PlayerInfo (shipTemplate)

/-- Which ships are added depends on the ships alone. -/
theorem add_ship_congr (data : GameData) (left right : PlayerInfo) (shipId : UInt32)
    (same : left.ships = right.ships) :
    (left.addShip data shipId).ships = (right.addShip data shipId).ships := by
  unfold PlayerInfo.addShip PlayerInfo.lastShipId
  cases shipTemplate data shipId with
  | none => exact same
  | some template => rw [same]

/-- A new ship does not change the secretary ships. -/
theorem add_ship_character (data : GameData) (player : PlayerInfo) (shipId : UInt32) :
    (player.addShip data shipId).character = player.character := by
  obtain ⟨_, added⟩ := player.add_ship_keeps data shipId
  rw [added]

/-- A new role gets the ship chosen and the ship everybody gets. -/
theorem init_ships (data : GameData) (player : PlayerInfo) (now : Clock) (uid : UInt32)
    (nickName : String) (shipId : UInt32) :
    (player.init data now uid nickName shipId).ships =
      ((player.addShip data shipId).addShip data 106011).ships := by
  have first : ((player.initRecord now uid nickName shipId).addShip data shipId).ships =
      (player.addShip data shipId).ships := add_ship_congr data _ player shipId rfl
  have second := add_ship_congr data
    ((player.initRecord now uid nickName shipId).addShip data shipId).setSecretary _ 106011 first
  simpa only [PlayerInfo.init, PlayerInfo.initFacilities, PlayerInfo.addResource] using second

/-- The secretary is the last ship owned when the chosen ship was added. -/
theorem init_character (data : GameData) (player : PlayerInfo) (now : Clock) (uid : UInt32)
    (nickName : String) (shipId : UInt32) :
    (player.init data now uid nickName shipId).character =
      [{ key := ((player.addShip data shipId).ships.getLast?.map Shipinfo.id).getD 1, value := 0 }] := by
  have ships : ((player.initRecord now uid nickName shipId).addShip data shipId).ships =
      (player.addShip data shipId).ships := add_ship_congr data _ player shipId rfl
  simp only [PlayerInfo.init, PlayerInfo.initFacilities, PlayerInfo.addResource, add_ship_character,
    PlayerInfo.setSecretary, ships]

/-- Without ships the next ship gets the number one. -/
theorem first_ship (data : GameData) (player : PlayerInfo) (shipId : UInt32)
    {template : ShipDataTemplateEntity} (known : shipTemplate data shipId = some template)
    (none : player.ships = []) :
    (player.addShip data shipId).ships = [PlayerInfo.newShip 1 template] := by
  unfold PlayerInfo.addShip PlayerInfo.lastShipId
  rw [known, none]
  rfl

/-- A secretary chosen between two ships is one of the ships owned afterwards. -/
theorem secretary_owned (data : GameData) (player : PlayerInfo) (shipId : UInt32)
    {template : ShipDataTemplateEntity} (known : shipTemplate data 106011 = some template) :
    ∃ ship ∈ ((player.addShip data shipId).addShip data 106011).ships,
      ship.id = ((player.addShip data shipId).ships.getLast?.map Shipinfo.id).getD 1 := by
  cases last : (player.addShip data shipId).ships.getLast? with
  | none =>
    rw [first_ship data _ 106011 known (List.getLast?_eq_none_iff.mp last)]
    exact ⟨_, List.mem_singleton_self _, rfl⟩
  | some ship =>
    have owned := add_ship_owned data (player.addShip data shipId) 106011
    exact ⟨ship, owned.subset (List.mem_of_getLast? last), rfl⟩

/-- A chosen ship that is known is the last one when the secretary is chosen. -/
theorem chosen_last (data : GameData) (player : PlayerInfo) (shipId : UInt32)
    {template : ShipDataTemplateEntity} (chosen : shipTemplate data shipId = some template) :
    (player.addShip data shipId).ships =
      player.ships ++ [PlayerInfo.newShip (player.lastShipId + 1) template] := by
  unfold PlayerInfo.addShip
  rw [chosen]

/-- Role creation leaves one secretary, and it is a ship of the player. If the chosen ship is known,
it is the ship just added, and the only one with that id.

The list of secretary ships is written between the two ships that are added, and names the last ship
at that moment. Ids are dense, so no other ship has that id, also when the second one is added. -/
theorem secretary_usable (game : Game) (uid : UInt32) (packets : List Incoming)
    {second : ShipDataTemplateEntity} (known : shipTemplate game.data 106011 = some second)
    (few : (packets.foldl (afterPacket game uid) {}).ships.length < 4294967294)
    (incoming : Incoming) (creation : incoming.packet.cmdId = 10024) (req : Cs10024)
    (decoded : game.decoder.cs10024 incoming.packet.data = some req) :
    let player := packets.foldl (afterPacket game uid) {}
    let after := afterPacket game uid player incoming
    ∃ entry, after.character = [entry] ∧ (∃ ship ∈ after.ships, ship.id = entry.key) ∧
      ∀ template, shipTemplate game.data req.shipId = some template →
        ∃ ship, after.ships[player.ships.length]? = some ship ∧
          ship.templateId = template.id ∧ ship.id = entry.key ∧
          ∀ other ∈ after.ships, other.id = entry.key → other = ship := by
  intro player after
  have created : after = player.init game.data incoming.now uid req.nickName req.shipId := by
    show afterPacket game uid player incoming = _
    rw [after_role_creation game uid player incoming creation, decoded]
  have character := init_character game.data player incoming.now uid req.nickName req.shipId
  have ships := init_ships game.data player incoming.now uid req.nickName req.shipId
  rw [← created] at character ships
  refine ⟨_, character, ?_, ?_⟩
  · rw [ships]
    exact secretary_owned game.data player req.shipId known
  · intro template chosen
    have numbered : Numbered player.ships := Dense.packets game uid packets (by omega)
    have added := chosen_last game.data player req.shipId chosen
    have length : (player.addShip game.data req.shipId).ships.length = player.ships.length + 1 := by
      rw [added, List.length_append, List.length_singleton]
    have dense : Numbered after.ships := by
      rw [ships]
      refine Numbered.add_ship (numbered.add_ship (Nat.lt_trans few (by decide)) _ _) ?_ _ _
      rw [length]
      exact Nat.succ_lt_succ few
    have owned : (player.addShip game.data req.shipId).ships <+: after.ships :=
      ships ▸ add_ship_owned game.data _ 106011
    have present : after.ships[player.ships.length]? =
        some (PlayerInfo.newShip (player.lastShipId + 1) template) := by
      obtain ⟨later, rest⟩ := owned
      rw [← rest, List.getElem?_append_left (length ▸ Nat.lt_succ_self _), added]
      exact List.getElem?_concat_length
    have key : ((player.addShip game.data req.shipId).ships.getLast?.map Shipinfo.id).getD 1 =
        player.lastShipId + 1 := by
      rw [added, List.getLast?_concat]
      rfl
    refine ⟨_, present, rfl, key.symm, ?_⟩
    intro other member same
    exact List.inj_on_of_nodup_map dense.distinct member (List.mem_of_getElem? present)
      (same.trans key)

/-- The second role is created with an unknown ship: the last old ship stays. The role before it has
added a ship of its own, so there is one to fall back on. -/
theorem secretary_usable_unknown_ship :
    let decoder : Decoder := { Decoder.deaf with
      cs10024 := fun payload =>
        if payload = [10, 1, 65, 16, 7, 26, 0] then some ⟨"A", 7⟩ else none }
    let data : GameData :=
      ⟨⟨[], by decide⟩, some ⟨[("106011", ⟨[], 0, 0, 0, 0, 7, 106011, 5, 5⟩)], by decide⟩,
        some ⟨[("106011", ⟨1010⟩)], by decide⟩, some ⟨[("1010", ⟨1010, 7⟩)], by decide⟩⟩
    let role : Incoming := ⟨fun _ => 0, ⟨12, 0, 10024, 1, [10, 1, 65, 16, 7, 26, 0], []⟩⟩
    let player := [role].foldl (afterPacket ⟨data, decoder, ""⟩ 1) {}
    shipTemplate data 7 = none ∧
      ∃ entry, (afterPacket ⟨data, decoder, ""⟩ 1 player role).character = [entry] ∧
        ∃ ship ∈ (afterPacket ⟨data, decoder, ""⟩ 1 player role).ships, ship.id = entry.key := by
  intro decoder data role player
  refine ⟨by decide, ?_⟩
  have decoded : decoder.cs10024 role.packet.data = some ⟨"A", 7⟩ := by
    simp only [decoder, role, ↓reduceIte]
  have known : shipTemplate data 106011 = some ⟨[], 0, 0, 0, 0, 7, 106011, 5, 5⟩ := by decide
  obtain ⟨entry, one, owned, _⟩ :=
    secretary_usable ⟨data, decoder, ""⟩ 1 [role] known (by decide) role rfl _ decoded
  exact ⟨entry, one, owned⟩

end CheshireLane
