import CheshireLane.ReachablePlayers
import Mathlib.Data.List.Nodup

/-!
# Keyed lists of a player

Creating a role rebuilds the resource fields and the chapters, but appends to the
resources. Nothing keeps a client from creating a role again, so the resources
are listed once for every role created.
-/

namespace CheshireLane

/-- A packet that creates a role. -/
def createsRole (decoder : Decoder) (incoming : Incoming) : Bool :=
  incoming.packet.cmdId == 10024 && (decoder.cs10024 incoming.packet.data).isSome

/-- The types of the resources of a new role. -/
def roleResources : List UInt32 := [1, 2, 5, 7, 8]

/-- Neither list with a fixed set of keys has a key twice. -/
structure Rebuilt (player : PlayerInfo) : Prop where
  fields : (player.resourceFields.map ResourceField.type).Nodup
  chapters : (player.chapterInfos.map Chapterinfo.id).Nodup

/-- Distinct canonical keys are read as distinct numbers. -/
theorem parsed_distinct (keys : List String) (distinct : keys.Nodup)
    (canonical : ∀ key ∈ keys, ∃ value : Nat, key = toString value) :
    (keys.filterMap parseU32).Nodup := by
  refine List.pairwise_filterMap.mpr (List.Pairwise.imp_of_mem ?_ distinct)
  intro left right leftKey rightKey different leftId leftRead rightId rightRead same
  obtain ⟨leftValue, rfl⟩ := canonical left leftKey
  obtain ⟨rightValue, rfl⟩ := canonical right rightKey
  rw [parse_to_string, Option.ite_none_right_eq_some] at leftRead rightRead
  obtain ⟨leftSmall, ⟨⟩⟩ := leftRead
  obtain ⟨rightSmall, ⟨⟩⟩ := rightRead
  have values := congrArg UInt32.toNat same
  rw [UInt32.toNat_ofNat_of_lt' leftSmall, UInt32.toNat_ofNat_of_lt' rightSmall] at values
  exact different (congrArg toString values)

/-- A new role gets its resources behind the ones there are. -/
theorem init_resources (data : GameData) (player : PlayerInfo) (now : Clock) (uid : UInt32)
    (nickName : String) (shipId : UInt32) :
    (player.init data now uid nickName shipId).resourceList.map Resource.type =
      player.resourceList.map Resource.type ++ roleResources := by
  have kept : ∀ (owner : PlayerInfo) (id : UInt32),
      (owner.addShip data id).resourceList = owner.resourceList := by
    intro owner id
    obtain ⟨ships, added⟩ := owner.add_ship_keeps data id
    rw [added]
  simp [PlayerInfo.init, PlayerInfo.initFacilities, PlayerInfo.addResource, kept,
    PlayerInfo.setSecretary, PlayerInfo.initRecord, roleResources]

namespace Rebuilt

/-- The lists of the default record are empty. -/
theorem fresh : Rebuilt {} := ⟨List.nodup_nil, List.nodup_nil⟩

/-- The creation of a role clears both lists and fills them again, so whatever stood there does not
matter. -/
theorem init (data : GameData) (player : PlayerInfo) (now : Clock) (uid : UInt32)
    (nickName : String) (shipId : UInt32)
    (canonical : ∀ key ∈ data.chapterTemplate.keys, ∃ value : Nat, key = toString value) :
    Rebuilt (player.init data now uid nickName shipId) where
  fields := by
    simp [PlayerInfo.init, PlayerInfo.initFacilities]
  chapters := by
    have ids : (player.init data now uid nickName shipId).chapterInfos.map Chapterinfo.id =
        data.chapterTemplate.keys.filterMap parseU32 := by
      simp [PlayerInfo.init, PlayerInfo.initFacilities, PlayerInfo.finishedChapter, Function.comp_def]
    rw [ids]
    exact parsed_distinct _ data.chapterTemplate.distinct canonical

/-- Only the creation of a role writes the two lists. By induction on the packets: `init` clears both
and fills one with two resources and the other from the templates, whose keys are distinct, so what an
earlier role left does not matter. -/
theorem packets (game : Game) (uid : UInt32) (packets : List Incoming)
    (canonical : ∀ key ∈ game.data.chapterTemplate.keys, ∃ value : Nat, key = toString value) :
    Rebuilt (packets.foldl (afterPacket game uid) {}) := by
  refine reached_invariant game uid Rebuilt ?_ {} fresh packets
  intro player next rebuilt change
  cases change with
  | role now nickName shipId => exact init game.data player now uid nickName shipId canonical
  | allShips =>
    obtain ⟨ships, added⟩ := give_all_ships_keeps game.data player
    rw [added]
    exact { rebuilt with }
  | allSkins =>
    obtain ⟨skins, added⟩ := give_all_skins_keeps game.data player
    rw [added]
    exact { rebuilt with }
  | _ => exact { rebuilt with }

end Rebuilt

/-- Packets of other arms leave the resources alone. -/
theorem after_other_resources (game : Game) (uid : UInt32) (player : PlayerInfo)
    (incoming : Incoming) (other : incoming.packet.cmdId ≠ 10024) :
    (afterPacket game uid player incoming).resourceList = player.resourceList := by
  have outcome := after_packet_outcome game uid player incoming
  generalize afterPacket game uid player incoming = after at outcome ⊢
  cases outcome with
  | role req arm decoded => exact absurd arm other
  | allShips arm =>
    obtain ⟨ships, added⟩ := give_all_ships_keeps game.data player
    rw [added]
  | allSkins arm =>
    obtain ⟨skins, added⟩ := give_all_skins_keeps game.data player
    rw [added]
  | _ => rfl

/-- A role creation that decodes creates a role, and does nothing else. -/
theorem after_role_creation (game : Game) (uid : UInt32) (player : PlayerInfo)
    (incoming : Incoming) (creation : incoming.packet.cmdId = 10024) :
    afterPacket game uid player incoming =
      match game.decoder.cs10024 incoming.packet.data with
      | some req => player.init game.data incoming.now uid req.nickName req.shipId
      | none => player := by
  have arm : Request.ofCmdId incoming.packet.cmdId = some .cs10024 := by
    rw [creation]
    exact Request.of_cmd_id .cs10024
  simp only [afterPacket, handlePlayerPacket, arm, handleRequest]
  cases game.decoder.cs10024 incoming.packet.data <;> rfl

/-- A packet adds the resources of the role it creates. -/
theorem after_packet_resources (game : Game) (uid : UInt32) (player : PlayerInfo)
    (incoming : Incoming) :
    (afterPacket game uid player incoming).resourceList.map Resource.type =
      player.resourceList.map Resource.type ++
        if createsRole game.decoder incoming then roleResources else [] := by
  by_cases creation : incoming.packet.cmdId = 10024
  · rw [after_role_creation game uid player incoming creation]
    cases decoded : game.decoder.cs10024 incoming.packet.data with
    | none => simp [createsRole, decoded]
    | some req => simp [createsRole, creation, decoded, init_resources]
  · rw [after_other_resources game uid player incoming creation]
    simp [createsRole, creation]

/-- The resources are listed once for every role created. -/
theorem packets_resources (game : Game) (uid : UInt32) (player : PlayerInfo)
    (packets : List Incoming) :
    (packets.foldl (afterPacket game uid) player).resourceList.map Resource.type =
      player.resourceList.map Resource.type ++
        (List.replicate (packets.countP (createsRole game.decoder)) roleResources).flatten := by
  induction packets generalizing player with
  | nil => simp
  | cons incoming packets inductionHypothesis =>
    rw [List.foldl_cons, inductionHypothesis, after_packet_resources, List.append_assoc]
    congr 1
    cases creates : createsRole game.decoder incoming <;>
      simp [creates, List.replicate_succ]

/-- The resources of a role are different; those of two creations repeat. -/
theorem repeated_resources_distinct (count : Nat) :
    (List.replicate count roleResources).flatten.Nodup ↔ count ≤ 1 := by
  match count with
  | 0 => decide
  | 1 => decide
  | count + 2 =>
    have twice : ¬ (List.replicate (count + 2) roleResources).flatten.Nodup := by
      intro distinct
      rw [List.replicate_succ, List.replicate_succ, List.flatten_cons, List.flatten_cons] at distinct
      have apart := (List.nodup_append.mp distinct).2.2 1 (by decide) 1
      exact apart (List.mem_append_left _ (by decide)) rfl
    exact ⟨fun distinct => absurd distinct twice, fun few => absurd few (by omega)⟩

/-- Resource fields and chapters are always listed once, resources if and only if at most one role
was created.

The creation of a role clears the fields and the chapters before it fills them, but appends its
resources. So these are the resources of one role, repeated once for each role that was created. -/
theorem keyed_lists_distinct_iff (game : Game) (uid : UInt32) (packets : List Incoming)
    (canonical : ∀ key ∈ game.data.chapterTemplate.keys, ∃ value : Nat, key = toString value) :
    let player := packets.foldl (afterPacket game uid) {}
    ((player.resourceFields.map ResourceField.type).Nodup ∧
        (player.chapterInfos.map Chapterinfo.id).Nodup) ∧
      ((player.resourceList.map Resource.type).Nodup ∧
          (player.resourceFields.map ResourceField.type).Nodup ∧
          (player.chapterInfos.map Chapterinfo.id).Nodup ↔
        packets.countP (createsRole game.decoder) ≤ 1) := by
  intro player
  have rebuilt := Rebuilt.packets game uid packets canonical
  have resources := packets_resources game uid {} packets
  rw [List.map_nil, List.nil_append] at resources
  refine ⟨⟨rebuilt.fields, rebuilt.chapters⟩, ?_⟩
  rw [← repeated_resources_distinct, ← resources]
  exact ⟨fun distinct => distinct.1, fun distinct => ⟨distinct, rebuilt.fields, rebuilt.chapters⟩⟩

/-- One role, in a game with one chapter. -/
theorem keyed_lists_distinct_iff_one_role :
    let decoder : Decoder := { Decoder.deaf with
      cs10024 := fun payload =>
        if payload = [10, 1, 65, 16, 101, 26, 0] then some ⟨"A", 101⟩ else none }
    let game : Game := ⟨⟨⟨[("101", ())], by decide⟩, none, none, none⟩, decoder, ""⟩
    let role : Incoming := ⟨fun _ => 0, ⟨12, 0, 10024, 1, [10, 1, 65, 16, 101, 26, 0], []⟩⟩
    (([role].foldl (afterPacket game 1) {}).resourceList.map Resource.type).Nodup :=
  ((keyed_lists_distinct_iff _ 1 [_] (by
    intro key member
    obtain rfl := List.mem_singleton.mp member
    exact ⟨101, rfl⟩)).2.mpr (by decide)).1

/-- A role created twice is listed with every resource twice. -/
theorem resources_listed_twice :
    let decoder : Decoder := { Decoder.deaf with
      cs10024 := fun payload =>
        if payload = [10, 1, 65, 16, 101, 26, 0] then some ⟨"A", 101⟩ else none }
    let game : Game := ⟨⟨⟨[("101", ())], by decide⟩, none, none, none⟩, decoder, ""⟩
    let role : Incoming := ⟨fun _ => 0, ⟨12, 0, 10024, 1, [10, 1, 65, 16, 101, 26, 0], []⟩⟩
    (∀ key ∈ game.data.chapterTemplate.keys, ∃ value : Nat, key = toString value) ∧
      ¬ (([role, role].foldl (afterPacket game 1) {}).resourceList.map Resource.type).Nodup := by
  refine ⟨?_, by decide⟩
  intro key member
  obtain rfl := List.mem_singleton.mp member
  exact ⟨101, rfl⟩

end CheshireLane
