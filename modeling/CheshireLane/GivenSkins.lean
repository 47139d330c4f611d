import CheshireLane.ReachablePlayers
import CheshireLane.ShipStatistics

/-!
# All skins given away

`skin` in the chat goes through the ships owned. For each of them duplicates among
the skins owned are dropped, and the skins of the ship's group that are new are
appended. Dropping duplicates early makes no difference, so the whole command
drops the duplicates of one long list: the skins owned, and behind them the skins
of every group in turn.
-/

namespace CheshireLane

open Representatives

/-- `retain` with a hash set keeps first items. -/
theorem retain_new_eq {α : Type} (key : α → UInt32) (owned : List UInt32) (items : List α) :
    retainNew key owned items = keepFirst key owned items := by
  induction items generalizing owned with
  | nil => rfl
  | cons item items inductionHypothesis =>
    unfold retainNew keepFirst
    split
    · exact inductionHypothesis owned
    · rw [inductionHypothesis]

/-- The skins without those whose id occurs before them. -/
def firstSkins (skins : List Idtimeinfo) : List Idtimeinfo := keepFirst Idtimeinfo.id [] skins

/-- A skin as it is handed out. -/
def givenSkin (skin : ShipSkinTemplateEntity) : Idtimeinfo := { id := skin.id }

/-- The skins of the group of a ship, none if the ship or the table is unknown. -/
def groupSkins (data : GameData) (shipId : UInt32) : List Idtimeinfo :=
  match data.shipDataTemplate, data.shipSkinTemplate with
  | some shipData, some shipSkinData =>
    match shipData.get (decimal shipId) with
    | none => []
    | some template =>
      (shipSkinData.values.filter fun skin => skin.shipGroup = template.groupType).map givenSkin
  | _, _ => []

/-- The skins of all ships, in the order in which they are tried. -/
def unlockedSkins (data : GameData) (player : PlayerInfo) : List Idtimeinfo :=
  (player.ships.map Shipinfo.templateId).flatMap (groupSkins data)

/-- A skin of the group of an owned ship whose template is known. -/
def Unlockable (data : GameData) (player : PlayerInfo) (id : UInt32) : Prop :=
  ∃ ship ∈ player.ships, ∃ template, knownTemplate data ship = some template ∧
    ∃ shipSkinData, data.shipSkinTemplate = some shipSkinData ∧
      ∃ skin ∈ shipSkinData.values, skin.shipGroup = template.groupType ∧ skin.id = id

/-- Behind the first ones of the skins come the new ones of those appended. -/
theorem first_skins_append (skins more : List Idtimeinfo) :
    firstSkins (skins ++ more) =
      firstSkins skins ++ keepFirst Idtimeinfo.id (skins.map Idtimeinfo.id) more := by
  unfold firstSkins
  rw [keep_first_append, List.append_nil]

/-- One ship: its skins go behind the skins owned, and duplicates are dropped. Those owned are
deduplicated on the way, so the result does not depend on whether they were before. -/
theorem add_ship_skin_eq (data : GameData) (player : PlayerInfo) (shipId : UInt32) :
    player.addShipSkin data shipId =
      { player with shipSkins := firstSkins (player.shipSkins ++ groupSkins data shipId) } := by
  have early : ∀ more, firstSkins (player.shipSkins ++ more) =
      firstSkins player.shipSkins ++
        keepFirst Idtimeinfo.id ((firstSkins player.shipSkins).map Idtimeinfo.id) more := by
    intro more
    rw [first_skins_append]
    congr 1
    exact keep_first_congr (fun value => by simp [firstSkins, mem_keep_first_keys]) more
  have unchanged : firstSkins (player.shipSkins ++ []) = retainNew Idtimeinfo.id [] player.shipSkins := by
    rw [List.append_nil, retain_new_eq]
    rfl
  unfold PlayerInfo.addShipSkin groupSkins
  cases data.shipDataTemplate with
  | none => simp only [unchanged]
  | some shipData =>
    cases data.shipSkinTemplate with
    | none => simp only [unchanged]
    | some shipSkinData =>
      cases found : shipData.get (decimal shipId) with
      | none => simp only [found, unchanged]
      | some template =>
        simp only [found, early, keep_first_map, retain_new_eq]
        rfl

/-- All ships: their skins go behind the skins owned, and duplicates are dropped once. By induction
on the ships: what is dropped for one ship would be dropped at the end too. -/
theorem give_all_skins_eq (data : GameData) (player : PlayerInfo) (owns : player.ships ≠ []) :
    giveAllSkins data player = { player with
      shipSkins := firstSkins (player.shipSkins ++ unlockedSkins data player) } := by
  have loop : ∀ (shipIds : List UInt32) (owner : PlayerInfo), shipIds ≠ [] →
      shipIds.foldl (PlayerInfo.addShipSkin data) owner = { owner with
        shipSkins := firstSkins (owner.shipSkins ++ shipIds.flatMap (groupSkins data)) } := by
    intro shipIds
    induction shipIds with
    | nil => exact fun _ nonempty => absurd rfl nonempty
    | cons shipId shipIds inductionHypothesis =>
      intro owner _
      rw [List.foldl_cons, add_ship_skin_eq]
      cases shipIds with
      | nil => simp
      | cons next shipIds =>
        rw [inductionHypothesis _ (List.cons_ne_nil next shipIds)]
        simp only [firstSkins]
        rw [keep_first_early, List.append_assoc]
        rfl
  have nonempty : player.ships.map Shipinfo.templateId ≠ [] := by simpa using owns
  exact loop _ player nonempty

/-- The ids of a group are those of the skin table with the group of the template. -/
theorem mem_group_skins (data : GameData) (ship : Shipinfo) (id : UInt32) :
    id ∈ (groupSkins data ship.templateId).map Idtimeinfo.id ↔
      ∃ template, knownTemplate data ship = some template ∧
        ∃ shipSkinData, data.shipSkinTemplate = some shipSkinData ∧
          ∃ skin ∈ shipSkinData.values, skin.shipGroup = template.groupType ∧ skin.id = id := by
  unfold groupSkins knownTemplate
  cases data.shipDataTemplate with
  | none => simp
  | some shipData =>
    cases data.shipSkinTemplate with
    | none => simp
    | some shipSkinData =>
      cases found : shipData.get (decimal ship.templateId) with
      | none => simp [found]
      | some template => simp [found, givenSkin, and_assoc]

/-- The list of unlocked skins has exactly the skins that a ship owned can unlock. -/
theorem mem_unlocked (data : GameData) (player : PlayerInfo) (id : UInt32) :
    id ∈ (unlockedSkins data player).map Idtimeinfo.id ↔ Unlockable data player id := by
  unfold Unlockable unlockedSkins
  simp only [List.flatMap_map, List.map_flatMap, List.mem_flatMap, mem_group_skins]

/-- Nothing is new the second time. -/
theorem first_skins_again (skins more : List Idtimeinfo) :
    firstSkins (firstSkins (skins ++ more) ++ more) = firstSkins (skins ++ more) := by
  have known : ∀ skin ∈ more, skin.id ∈ (skins ++ more).map Idtimeinfo.id := by
    intro skin member
    rw [List.map_append]
    exact List.mem_append_right _ (List.mem_map_of_mem member)
  have early : firstSkins (firstSkins (skins ++ more) ++ more) = firstSkins (skins ++ more ++ more) :=
    keep_first_early (skins ++ more) more
  rw [early, first_skins_append, keep_first_owned known, List.append_nil]

/-- The second time all skins are owned, so none is kept. -/
theorem give_all_skins_again (data : GameData) (player : PlayerInfo) (owns : player.ships ≠ []) :
    giveAllSkins data (giveAllSkins data player) = giveAllSkins data player := by
  have result := give_all_skins_eq data player owns
  have owned : (giveAllSkins data player).ships ≠ [] := by
    rw [result]
    exact owns
  rw [give_all_skins_eq data _ owned, result]
  exact congrArg (fun skins => { player with shipSkins := skins })
    (first_skins_again player.shipSkins (unlockedSkins data player))

/-- Skins are unlocked for the ships that are there: after all skins were given away
every skin of every group owned is among them. -/
theorem unlocked_present (data : GameData) (player : PlayerInfo) (id : UInt32)
    (unlockable : Unlockable data (giveAllSkins data player) id) :
    id ∈ (giveAllSkins data player).shipSkins.map Idtimeinfo.id := by
  obtain ⟨skins, kept⟩ := give_all_skins_keeps data player
  rw [kept] at unlockable
  have own : Unlockable data player id := unlockable
  have owns : player.ships ≠ [] := by
    obtain ⟨ship, owned, _⟩ := own
    exact List.ne_nil_of_mem owned
  rw [give_all_skins_eq data player owns]
  refine (mem_keep_first_keys [] _ id).mpr ⟨List.not_mem_nil, ?_⟩
  rw [List.map_append]
  exact List.mem_append_right _ ((mem_unlocked data player id).mpr own)

/-- Giving all skins to the owner of a ship unites the skins owned with those of the
groups owned, keeps the first one of each skin owned where it is, changes nothing
else, and has nothing to add the second time. Behind `ship` and `skin` in the chat
every skin of every group owned is there. -/
theorem give_all_skins_exact (data : GameData) (player : PlayerInfo) :
    (player.ships ≠ [] →
      let after := giveAllSkins data player
      (∃ firsts added, after = { player with shipSkins := firsts ++ added } ∧
        firsts.Sublist player.shipSkins ∧
        (∀ skin, skin ∈ firsts ↔ Represents Idtimeinfo.id player.shipSkins skin) ∧
        ∀ skin ∈ added, skin.id ∉ player.shipSkins.map Idtimeinfo.id) ∧
      (after.shipSkins.map Idtimeinfo.id).Nodup ∧
      (∀ id, id ∈ after.shipSkins.map Idtimeinfo.id ↔
        id ∈ player.shipSkins.map Idtimeinfo.id ∨ Unlockable data player id) ∧
      giveAllSkins data after = after) ∧
    ∀ dirty ship skin, ChatCommand.ofContent ship = .ship → ChatCommand.ofContent skin = .skin →
      let stocked := handleChat data player dirty ship
      let final := (handleChat data stocked.player stocked.dirty skin).player
      ∀ id, Unlockable data final id → id ∈ final.shipSkins.map Idtimeinfo.id := by
  constructor
  · intro owns after
    have result := give_all_skins_eq data player owns
    refine ⟨⟨firstSkins player.shipSkins,
      keepFirst Idtimeinfo.id (player.shipSkins.map Idtimeinfo.id) (unlockedSkins data player), ?_,
      keep_first_sublist [] _, ?_, ?_⟩, ?_, ?_, ?_⟩
    · rw [← first_skins_append]
      exact result
    · intro skin
      rw [firstSkins, mem_keep_first]
      simp
    · intro skin added
      exact ((mem_keep_first _ _ skin).mp added).1
    · rw [show after = _ from result]
      exact keep_first_distinct [] _
    · intro id
      rw [show after = _ from result, ← mem_unlocked, ← List.mem_append, ← List.map_append]
      exact (mem_keep_first_keys [] _ id).trans (by simp)
    · exact give_all_skins_again data player owns
  · intro dirty ship skin isShip isSkin stocked final id
    have last : final = giveAllSkins data stocked.player := by
      simp only [final, handleChat, isSkin]
    rw [last]
    exact unlocked_present data stocked.player id

/-- A skin owned twice, and a group with two skins of which one is owned. -/
theorem give_all_skins_exact_duplicate :
    let data : GameData :=
      ⟨⟨[], by decide⟩, some ⟨[("101", ⟨[], 0, 0, 0, 0, 7, 101, 5, 5⟩)], by decide⟩, none,
        some ⟨[("1010", ⟨1010, 7⟩), ("1011", ⟨1011, 7⟩)], by decide⟩⟩
    let player : PlayerInfo :=
      { ships := [{ id := 1, templateId := 101 }]
        shipSkins := [{ id := 1011, time := 3 }, { id := 1011, time := 4 }] }
    (giveAllSkins data player).shipSkins = [{ id := 1011, time := 3 }, { id := 1010 }] ∧
      ((giveAllSkins data player).shipSkins.map Idtimeinfo.id).Nodup := by
  intro data player
  exact ⟨by decide, ((give_all_skins_exact data player).1 (by decide)).2.1⟩

end CheshireLane
