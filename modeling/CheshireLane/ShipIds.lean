import CheshireLane.ReachablePlayers
import Mathlib.Data.List.Induction

/-!
# Ship ids

A new ship gets the largest id in use plus one. No operation removes or reorders
ships, so the ids count the ships from one, as long as 32 bits suffice. Only then
does setting a skin by id reach the ship that was meant.
-/

namespace CheshireLane

/-- The ids are 1, 2, 3 and so on. -/
def Numbered (ships : List Shipinfo) : Prop :=
  ships.map (fun ship => ship.id.toNat) = List.range' 1 ships.length

/-- Numbered, unless the ids may have run out. -/
def Dense (player : PlayerInfo) : Prop :=
  player.ships.length < 4294967295 → Numbered player.ships

/-- The maximum of a list that grows at its end. -/
theorem max_append (ids : List UInt32) (id : UInt32) :
    ((ids ++ [id]).max?).getD 0 = max ((ids.max?).getD 0) id := by
  cases ids with
  | nil => simp [max, UInt32.le_iff_toNat_le]
  | cons first ids => simp [List.max?]

namespace Numbered

/-- One more ship goes on with the numbers, if its id is the next one. -/
theorem append {ships : List Shipinfo} {ship : Shipinfo} :
    Numbered (ships ++ [ship]) ↔ Numbered ships ∧ ship.id.toNat = ships.length + 1 := by
  simp only [Numbered, List.map_append, List.map_cons, List.map_nil, List.length_append,
    List.length_singleton, List.range'_1_concat, List.append_singleton_inj]
  rw [Nat.add_comm 1]

/-- The i-th ship has id i + 1. -/
theorem id_at {ships : List Shipinfo} (numbered : Numbered ships) {index : Nat} {ship : Shipinfo}
    (present : ships[index]? = some ship) : ship.id.toNat = index + 1 := by
  have inside : index < ships.length := (List.getElem?_eq_some_iff.mp present).1
  have mapped : (ships.map fun ship => ship.id.toNat)[index]? = some ship.id.toNat := by
    rw [List.getElem?_map, present, Option.map_some]
  rw [numbered, List.getElem?_range' inside] at mapped
  have same : 1 + 1 * index = ship.id.toNat := Option.some.inj mapped
  omega

/-- Numbers that count up do not repeat. -/
theorem distinct {ships : List Shipinfo} (numbered : Numbered ships) :
    (ships.map Shipinfo.id).Nodup := by
  have values : ((ships.map Shipinfo.id).map UInt32.toNat).Nodup := by
    rw [List.map_map]
    exact numbered ▸ List.nodup_range'
  exact List.Nodup.of_map _ values

/-- The ids lie between one and the number of ships. -/
theorem bounded {ships : List Shipinfo} (numbered : Numbered ships) {ship : Shipinfo}
    (owned : ship ∈ ships) : 1 ≤ ship.id.toNat ∧ ship.id.toNat ≤ ships.length := by
  have member : ship.id.toNat ∈ List.range' 1 ships.length := by
    rw [← numbered]
    exact List.mem_map_of_mem owned
  rw [List.mem_range'_1] at member
  omega

/-- The largest id is the number of ships. -/
theorem last_ship_id (player : PlayerInfo) (numbered : Numbered player.ships) :
    player.lastShipId.toNat = player.ships.length := by
  unfold PlayerInfo.lastShipId
  generalize player.ships = ships at numbered
  induction ships using List.reverseRecOn with
  | nil => rfl
  | append_singleton ships ship inductionHypothesis =>
    obtain ⟨before, last⟩ := append.mp numbered
    have largest := inductionHypothesis before
    have above : ((ships.map Shipinfo.id).max?).getD 0 ≤ ship.id := by
      rw [UInt32.le_iff_toNat_le]
      omega
    rw [List.map_append, List.map_singleton, max_append]
    have replaced : max (((ships.map Shipinfo.id).max?).getD 0) ship.id = ship.id := if_pos above
    rw [replaced, last, List.length_append, List.length_singleton]

/-- The next id is not in use and does not overflow. -/
theorem next_free (player : PlayerInfo) (numbered : Numbered player.ships)
    (few : player.ships.length < 4294967295) :
    player.lastShipId.toNat + 1 < 4294967296 ∧
      (player.lastShipId + 1).toNat = player.ships.length + 1 ∧
      ∀ ship ∈ player.ships, ship.id ≠ player.lastShipId + 1 := by
  have last := last_ship_id player numbered
  have next : (player.lastShipId + 1).toNat = player.ships.length + 1 := by
    rw [UInt32.toNat_add, last, show (1 : UInt32).toNat = 1 from rfl]
    exact Nat.mod_eq_of_lt (by omega)
  refine ⟨by omega, next, ?_⟩
  intro ship owned same
  have inside := (numbered.bounded owned).2
  rw [same] at inside
  omega

/-- A ship added gets the next number. -/
theorem add_ship {player : PlayerInfo} (numbered : Numbered player.ships)
    (few : player.ships.length < 4294967295) (data : GameData) (shipId : UInt32) :
    Numbered (player.addShip data shipId).ships := by
  rcases player.add_ship_cases data shipId with unchanged | ⟨template, _, added⟩
  · rw [unchanged]
    exact numbered
  · rw [added]
    exact append.mpr ⟨numbered, (numbered.next_free player few).2.1⟩

end Numbered

/-- Setting a skin keeps all ids. -/
theorem set_skin_numbered (shipId skinId : UInt32) (ships : List Shipinfo) :
    (setSkin shipId skinId ships).map (fun ship => ship.id.toNat) =
      ships.map fun ship => ship.id.toNat := by
  induction ships with
  | nil => rfl
  | cons first ships inductionHypothesis =>
    unfold setSkin
    split
    · rfl
    · rw [List.map_cons, List.map_cons, inductionHypothesis]

/-- With distinct ids, the first ship with an id is the only one. So stopping at the first one, as
the loop does, makes no difference. -/
theorem set_skin_distinct (shipId skinId : UInt32) (ships : List Shipinfo)
    (distinct : (ships.map Shipinfo.id).Nodup) :
    setSkin shipId skinId ships =
      ships.map fun ship => if ship.id = shipId then { ship with skinId } else ship := by
  induction ships with
  | nil => rfl
  | cons first ships inductionHypothesis =>
    obtain ⟨absent, later⟩ := List.nodup_cons.mp distinct
    unfold setSkin
    rw [List.map_cons]
    split
    · next same =>
      have others : ∀ ship ∈ ships, (if ship.id = shipId then { ship with skinId } else ship) = ship := by
        intro ship owned
        refine if_neg fun also => absent ?_
        rw [same, ← also]
        exact List.mem_map_of_mem owned
      rw [List.map_congr_left others, List.map_id']
    · rw [inductionHypothesis later]

namespace Dense

/-- A new player has no ships. -/
theorem fresh : Dense {} := fun _ => rfl

/-- A new ship has the id behind the last one, which is the number of ships. -/
theorem add_ship (data : GameData) (player : PlayerInfo) (shipId : UInt32) (dense : Dense player) :
    Dense (player.addShip data shipId) := by
  intro few
  have owned : player.ships.length < 4294967295 := by
    rcases player.add_ship_cases data shipId with unchanged | ⟨template, _, added⟩
    · rw [unchanged] at few
      exact few
    · rw [added] at few
      simp only [List.length_append, List.length_singleton] at few
      omega
  exact (dense owned).add_ship owned data shipId

/-- A change of skin changes no id. -/
theorem set_skin (player : PlayerInfo) (shipId skinId : UInt32) (dense : Dense player) :
    Dense { player with ships := setSkin shipId skinId player.ships } := by
  have same := set_skin_numbered shipId skinId player.ships
  have length : (setSkin shipId skinId player.ships).length = player.ships.length := by
    simpa using congrArg List.length same
  intro few
  simp only [Numbered, same, length] at few ⊢
  exact dense few

/-- The creation of a role adds two ships, one after the other. -/
theorem init (data : GameData) (player : PlayerInfo) (now : Clock) (uid : UInt32)
    (nickName : String) (shipId : UInt32) (dense : Dense player) :
    Dense (player.init data now uid nickName shipId) :=
  init_invariant data Dense (add_ship data) (fun _ dense => dense) (fun _ _ _ dense => dense)
    (fun _ _ dense => dense) player now uid nickName shipId dense

/-- Every change of a record keeps the ids dense. One case for each kind of change. -/
theorem change (game : Game) (uid : UInt32) (player next : PlayerInfo) (dense : Dense player)
    (change : Change game uid player next) : Dense next := by
  cases change with
  | role now nickName shipId => exact init game.data player now uid nickName shipId dense
  | skin shipId skinId => exact set_skin player shipId skinId dense
  | allShips => exact give_all_ships_invariant game.data Dense (add_ship game.data) player dense
  | allSkins =>
    obtain ⟨skins, same⟩ := give_all_skins_keeps game.data player
    rw [same]
    exact dense
  | _ => exact dense

/-- Over all packets the ids stay dense, by induction on the packets. -/
theorem packets (game : Game) (uid : UInt32) (packets : List Incoming) :
    Dense (packets.foldl (afterPacket game uid) {}) :=
  reached_invariant game uid Dense (change game uid) {} fresh packets

end Dense

/-- Ships are added at the end only. -/
theorem add_ship_owned (data : GameData) (player : PlayerInfo) (shipId : UInt32) :
    player.ships <+: (player.addShip data shipId).ships := by
  rcases player.add_ship_cases data shipId with unchanged | ⟨template, _, added⟩
  · exact unchanged.symm ▸ List.prefix_refl _
  · exact added.symm ▸ List.prefix_append ..

/-- The creation of a role removes no ship. -/
theorem init_owned (data : GameData) (player : PlayerInfo) (now : Clock) (uid : UInt32)
    (nickName : String) (shipId : UInt32) :
    player.ships <+: (player.init data now uid nickName shipId).ships :=
  init_invariant data (fun next => player.ships <+: next.ships)
    (fun next shipId owned => owned.trans (add_ship_owned data next shipId))
    (fun _ owned => owned) (fun _ _ _ owned => owned) (fun _ _ owned => owned)
    player now uid nickName shipId (List.prefix_refl _)

/-- Giving all ships removes none. By induction on the table. -/
theorem give_all_ships_owned (data : GameData) (player : PlayerInfo) :
    player.ships <+: (giveAllShips data player).ships :=
  give_all_ships_invariant data (fun next => player.ships <+: next.ships)
    (fun next shipId owned => owned.trans (add_ship_owned data next shipId))
    player (List.prefix_refl _)

/-- Giving skins touches no ship. -/
theorem give_all_skins_ships (data : GameData) (player : PlayerInfo) :
    (giveAllSkins data player).ships = player.ships := by
  obtain ⟨skins, added⟩ := give_all_skins_keeps data player
  rw [added]

/-- Every packet but a skin change leaves the ships owned as they are. -/
theorem after_packet_owned (game : Game) (uid : UInt32) (player : PlayerInfo) (incoming : Incoming)
    (other : incoming.packet.cmdId ≠ 12202) :
    player.ships <+: (afterPacket game uid player incoming).ships := by
  have outcome := after_packet_outcome game uid player incoming
  generalize afterPacket game uid player incoming = after at outcome ⊢
  cases outcome with
  | role req arm decoded => exact init_owned ..
  | skin req arm decoded => exact absurd arm other
  | allShips arm => exact give_all_ships_owned ..
  | allSkins arm => exact (give_all_skins_ships game.data player).symm ▸ List.prefix_refl _
  | _ => exact List.prefix_refl _

/-- A skin change that decodes sets a skin, and nothing else. -/
theorem after_skin_change (game : Game) (uid : UInt32) (player : PlayerInfo) (incoming : Incoming)
    (skinChange : incoming.packet.cmdId = 12202) :
    afterPacket game uid player incoming =
      match game.decoder.cs12202 incoming.packet.data with
      | some req => { player with ships := setSkin req.shipId req.skinId player.ships }
      | none => player := by
  have arm : Request.ofCmdId incoming.packet.cmdId = some .cs12202 := by
    rw [skinChange]
    exact Request.of_cmd_id .cs12202
  simp only [afterPacket, handlePlayerPacket, arm, handleRequest]
  cases game.decoder.cs12202 incoming.packet.data <;> rfl

/-- The records to which `add_ship` adds a ship while a packet is handled: twice for
a new role, and once for each entry of the template table. -/
inductive AddsTo (data : GameData) (player : PlayerInfo) : PlayerInfo → Prop
  | first (now : Clock) (uid : UInt32) (nickName : String) (shipId : UInt32) :
      AddsTo data player (player.initRecord now uid nickName shipId)
  | second (now : Clock) (uid : UInt32) (nickName : String) (shipId : UInt32) :
      AddsTo data player
        ((player.initRecord now uid nickName shipId).addShip data shipId).setSecretary
  | given (shipData : StringMap ShipDataTemplateEntity)
      (known : data.shipDataTemplate = some shipData)
      (before after : List (String × ShipDataTemplateEntity))
      (entries : shipData.entries = before ++ after) :
      AddsTo data player
        (before.foldl (giveShip data) (player.ships.map Shipinfo.templateId, player)).2

/-- The ids are dense at each moment at which a ship is added, also in the middle of a packet. -/
theorem adds_to_dense {data : GameData} {player record : PlayerInfo} (dense : Dense player)
    (adds : AddsTo data player record) : Dense record := by
  cases adds with
  | first now uid nickName shipId => exact dense
  | second now uid nickName shipId =>
    have added := Dense.add_ship data (player.initRecord now uid nickName shipId) shipId dense
    exact added
  | given shipData known before after entries =>
    exact give_ships_invariant data Dense (Dense.add_ship data) before _ player dense

/-- Ship ids are dense and unique in every reachable record, a new id is free, ships owned stay
where they are, and a skin change reaches one skin.

The invariant is that the ids count up from one. Then the last id is the greatest, and the next one
is not taken, as long as the ids have not run out. -/
theorem ship_ids_dense (game : Game) (uid : UInt32) (packets : List Incoming)
    (few : (packets.foldl (afterPacket game uid) {}).ships.length < 4294967295) :
    let player := packets.foldl (afterPacket game uid) {}
    (∀ index ship, player.ships[index]? = some ship → ship.id.toNat = index + 1) ∧
      (player.ships.map Shipinfo.id).Nodup ∧
      (∀ ship ∈ player.ships, ship.id ≠ 0) ∧
      (∀ record, AddsTo game.data player record → record.ships.length < 4294967295 →
        record.lastShipId.toNat + 1 < 4294967296 ∧
          ∀ ship ∈ record.ships, ship.id ≠ record.lastShipId + 1) ∧
      (∀ incoming, incoming.packet.cmdId ≠ 12202 →
        player.ships <+: (afterPacket game uid player incoming).ships) ∧
      ∀ incoming, incoming.packet.cmdId = 12202 →
        afterPacket game uid player incoming =
          match game.decoder.cs12202 incoming.packet.data with
          | some req => { player with
              ships := player.ships.map fun ship =>
                if ship.id = req.shipId then { ship with skinId := req.skinId } else ship }
          | none => player := by
  intro player
  have dense : Dense player := Dense.packets game uid packets
  have numbered : Numbered player.ships := dense few
  refine ⟨fun index ship => numbered.id_at, numbered.distinct, ?_, ?_,
    after_packet_owned game uid player, ?_⟩
  · intro ship owned zero
    have positive := (numbered.bounded owned).1
    rw [zero] at positive
    cases positive
  · intro record adds fewer
    obtain ⟨small, _, free⟩ := (adds_to_dense dense adds fewer).next_free record fewer
    exact ⟨small, free⟩
  · intro incoming skinChange
    rw [after_skin_change game uid player incoming skinChange]
    split
    · next req _ => rw [set_skin_distinct req.shipId req.skinId player.ships numbered.distinct]
    · rfl

/-- A role is created twice with the one ship there is. -/
theorem ship_ids_dense_two_roles :
    let decoder : Decoder := { Decoder.deaf with
      cs10024 := fun payload =>
        if payload = [10, 1, 65, 16, 101, 26, 0] then some ⟨"A", 101⟩ else none }
    let data : GameData :=
      ⟨⟨[], by decide⟩, some ⟨[("101", ⟨[], 0, 0, 0, 0, 7, 101, 5, 5⟩)], by decide⟩,
        some ⟨[("101", ⟨1010⟩)], by decide⟩, some ⟨[("1010", ⟨1010, 7⟩)], by decide⟩⟩
    let role : Incoming := ⟨fun _ => 0, ⟨12, 0, 10024, 1, [10, 1, 65, 16, 101, 26, 0], []⟩⟩
    let player := [role, role].foldl (afterPacket ⟨data, decoder, ""⟩ 1) {}
    player.ships.length = 2 ∧
      ∀ index ship, player.ships[index]? = some ship → ship.id.toNat = index + 1 :=
  ⟨by decide, (ship_ids_dense _ 1 [_, _] (by decide)).1⟩

end CheshireLane
