import CheshireLane.PlayerPackets
import Mathlib.Data.List.Nodup

/-!
# All ships given away

`ship` in the chat adds every full-star ship whose template is not owned yet. The
templates owned are noted before the ship is added, and adding it can fail. Where
keys are the ids of their entries no template occurs twice, so what is noted
during the loop never matters again, and the loop adds one filter of the table.
-/

namespace CheshireLane

/-- The keys of the ship templates are the ids of their entries. -/
def KeyedById (data : GameData) : Prop :=
  ∀ shipData, data.shipDataTemplate = some shipData →
    ∀ key template, (key, template) ∈ shipData.entries → key = decimal template.id

/-- A template all of whose stars are there, five or more. -/
def FullStar (template : ShipDataTemplateEntity) : Prop :=
  template.star = template.starMax ∧ 5 ≤ template.star

instance (template : ShipDataTemplateEntity) : Decidable (FullStar template) :=
  inferInstanceAs (Decidable (_ ∧ _))

/-- The statistics of a template exist, and so does the skin they name. -/
def HasSkin (data : GameData) (template : ShipDataTemplateEntity) : Prop :=
  ∃ shipStatisticsData shipSkinData statistics,
    data.shipDataStatistics = some shipStatisticsData ∧
      data.shipSkinTemplate = some shipSkinData ∧
      shipStatisticsData.get (decimal template.id) = some statistics ∧
      shipSkinData.containsKey (decimal statistics.skinId) = true

/-- The ids of the full-star templates that can be added. -/
def Obtainable (data : GameData) (id : UInt32) : Prop :=
  ∃ shipData template, data.shipDataTemplate = some shipData ∧ template ∈ shipData.values ∧
    FullStar template ∧ HasSkin data template ∧ template.id = id

/-- The entries that lead to a new ship. -/
def Given (data : GameData) (owned : List UInt32) (template : ShipDataTemplateEntity) : Bool :=
  FullStar template ∧ template.id ∉ owned ∧ (PlayerInfo.shipTemplate data template.id).isSome

/-- The templates of the ships a part of the table adds. -/
def givenTemplates (data : GameData) (owned : List UInt32)
    (entries : List (String × ShipDataTemplateEntity)) : List UInt32 :=
  ((entries.map Prod.snd).filter (Given data owned)).map ShipDataTemplateEntity.id

/-- An entry keyed by its id is the template of this id, if it has a skin. -/
theorem ship_template_entry {data : GameData} {shipData : StringMap ShipDataTemplateEntity}
    (known : data.shipDataTemplate = some shipData) {template : ShipDataTemplateEntity}
    (listed : (decimal template.id, template) ∈ shipData.entries)
    (added : ShipDataTemplateEntity) :
    PlayerInfo.shipTemplate data template.id = some added ↔
      HasSkin data template ∧ added = template := by
  have found := (shipData.get_eq_some_iff (decimal template.id) template).mpr listed
  simp only [PlayerInfo.shipTemplate, known, found, HasSkin, bind, Option.bind_some,
    Option.bind_eq_some_iff, Option.ite_none_right_eq_some, Option.some.injEq]
  constructor
  · rintro ⟨shipStatisticsData, statisticsKnown, shipSkinData, skinKnown, statistics, named, skin, rfl⟩
    exact ⟨⟨shipStatisticsData, shipSkinData, statistics, statisticsKnown, skinKnown, named, skin⟩, rfl⟩
  · rintro ⟨⟨shipStatisticsData, shipSkinData, statistics, statisticsKnown, skinKnown, named, skin⟩, rfl⟩
    exact ⟨shipStatisticsData, statisticsKnown, shipSkinData, skinKnown, statistics, named, skin, rfl⟩

/-- A part of the table that is keyed by ids, where a ship id leads to its entry or
to nothing, and with no id twice. -/
structure Keyed (data : GameData) (entries : List (String × ShipDataTemplateEntity)) : Prop where
  keys : ∀ entry ∈ entries, entry.1 = decimal entry.2.id
  templates : ∀ entry ∈ entries, ∀ template,
    PlayerInfo.shipTemplate data entry.2.id = some template → template = entry.2
  distinct : (entries.map fun entry => entry.2.id).Nodup

/-- A table that is keyed by id is so entry by entry. -/
theorem keyed_table {data : GameData} (keyed : KeyedById data)
    {shipData : StringMap ShipDataTemplateEntity} (known : data.shipDataTemplate = some shipData) :
    Keyed data shipData.entries where
  keys entry listed := keyed shipData known entry.1 entry.2 listed
  templates entry listed template found := by
    have key := keyed shipData known entry.1 entry.2 listed
    have named : (decimal entry.2.id, entry.2) ∈ shipData.entries := key ▸ listed
    exact ((ship_template_entry known named template).mp found).2
  distinct := by
    have keys : shipData.entries.map Prod.fst =
        shipData.entries.map fun entry => decimal entry.2.id :=
      List.map_congr_left fun entry listed => keyed shipData known entry.1 entry.2 listed
    have different : (shipData.entries.map fun entry => decimal entry.2.id).Nodup :=
      keys ▸ shipData.distinct
    exact List.Nodup.of_map decimal (by rwa [List.map_map])

/-- What is left of a keyed table is keyed. -/
theorem Keyed.tail {data : GameData} {entry : String × ShipDataTemplateEntity}
    {entries : List (String × ShipDataTemplateEntity)} (keyed : Keyed data (entry :: entries)) :
    Keyed data entries where
  keys other member := keyed.keys other (List.mem_cons_of_mem _ member)
  templates other member := keyed.templates other (List.mem_cons_of_mem _ member)
  distinct := (List.nodup_cons.mp keyed.distinct).2

/-- An entry is passed over, or its ship is tried and its template noted. -/
theorem give_ship_spec (data : GameData) (owned : List UInt32) (player : PlayerInfo)
    (template : ShipDataTemplateEntity) :
    giveShip data (owned, player) (decimal template.id, template) =
      if FullStar template ∧ template.id ∉ owned then
        (template.id :: owned, player.addShip data template.id)
      else (owned, player) := by
  simp only [giveShip, FullStar, parse_decimal, and_assoc]

/-- A ship that is tried is added if there is a template for it. -/
theorem add_ship_template (data : GameData) (player : PlayerInfo) (template : ShipDataTemplateEntity)
    (same : ∀ found, PlayerInfo.shipTemplate data template.id = some found → found = template) :
    ∃ added, player.addShip data template.id = { player with ships := player.ships ++ added } ∧
      added.map Shipinfo.templateId =
        if (PlayerInfo.shipTemplate data template.id).isSome then [template.id] else [] := by
  unfold PlayerInfo.addShip
  cases found : PlayerInfo.shipTemplate data template.id with
  | none => exact ⟨[], by simp, rfl⟩
  | some other =>
    obtain rfl := same other found
    exact ⟨[_], rfl, rfl⟩

/-- What is noted for one entry does not matter for entries with other ids. -/
theorem given_templates_noted (data : GameData) (owned : List UInt32) (id : UInt32)
    (entries : List (String × ShipDataTemplateEntity))
    (others : ∀ entry ∈ entries, entry.2.id ≠ id) :
    givenTemplates data (id :: owned) entries = givenTemplates data owned entries := by
  unfold givenTemplates
  congr 1
  refine List.filter_congr fun template listed => ?_
  obtain ⟨entry, member, rfl⟩ := List.mem_map.mp listed
  simp [Given, others entry member]

/-- The first entry gives its template or nothing, and the others theirs. -/
theorem given_templates_cons (data : GameData) (owned : List UInt32)
    (entry : String × ShipDataTemplateEntity) (entries : List (String × ShipDataTemplateEntity)) :
    givenTemplates data owned (entry :: entries) =
      (if Given data owned entry.2 then [entry.2.id] else []) ++
        givenTemplates data owned entries := by
  unfold givenTemplates
  rw [List.map_cons, List.filter_cons]
  split <;> rfl

/-- The loop adds one ship for each entry given, in the order of the table. By induction on the
table. An entry is looked up under its own number, and no later entry has it, so a ship given here
is not tried again. -/
theorem give_ships_spec (data : GameData) (entries : List (String × ShipDataTemplateEntity))
    (keyed : Keyed data entries) (owned : List UInt32) (player : PlayerInfo) :
    ∃ added, (entries.foldl (giveShip data) (owned, player)).2 =
        { player with ships := player.ships ++ added } ∧
      added.map Shipinfo.templateId = givenTemplates data owned entries := by
  induction entries generalizing owned player with
  | nil => exact ⟨[], by simp, rfl⟩
  | cons entry entries inductionHypothesis =>
    obtain ⟨key, template⟩ := entry
    obtain rfl : key = decimal template.id := keyed.keys _ List.mem_cons_self
    have later := keyed.tail
    have others : ∀ entry ∈ entries, entry.2.id ≠ template.id := by
      intro entry member same
      exact (List.nodup_cons.mp keyed.distinct).1 (List.mem_map.mpr ⟨entry, member, same⟩)
    rw [List.foldl_cons, give_ship_spec]
    by_cases tried : FullStar template ∧ template.id ∉ owned
    · rw [if_pos tried]
      obtain ⟨first, one, firstTemplate⟩ := add_ship_template data player template
        (keyed.templates (decimal template.id, template) List.mem_cons_self)
      obtain ⟨rest, all, restTemplates⟩ := inductionHypothesis later (template.id :: owned)
        (player.addShip data template.id)
      refine ⟨first ++ rest, ?_, ?_⟩
      · rw [all, one, List.append_assoc]
      · rw [List.map_append, firstTemplate, restTemplates, given_templates_noted _ _ _ _ others,
          given_templates_cons]
        simp [Given, tried]
    · rw [if_neg tried]
      obtain ⟨added, all, templates⟩ := inductionHypothesis later owned player
      refine ⟨added, all, ?_⟩
      have passed : Given data owned template = false := by
        simp only [Given, decide_eq_false_iff_not]
        exact fun given => tried ⟨given.1, given.2.1⟩
      rw [templates, given_templates_cons, passed]
      rfl

/-- A loop in which every full-star ship is owned or cannot be added changes nothing. -/
theorem give_ships_idle (data : GameData) (entries : List (String × ShipDataTemplateEntity))
    (keyed : Keyed data entries) (owned : List UInt32) (player : PlayerInfo)
    (idle : givenTemplates data owned entries = []) :
    (entries.foldl (giveShip data) (owned, player)).2 = player := by
  obtain ⟨added, all, templates⟩ := give_ships_spec data entries keyed owned player
  obtain rfl : added = [] := List.map_eq_nil_iff.mp (templates.trans idle)
  rw [all, List.append_nil]

/-- The templates given are the obtainable ones that were not owned. An entry is found by its
number, since the table is keyed by it. -/
theorem mem_given_templates {data : GameData} (keyed : KeyedById data)
    {shipData : StringMap ShipDataTemplateEntity} (known : data.shipDataTemplate = some shipData)
    (owned : List UInt32) (id : UInt32) :
    id ∈ givenTemplates data owned shipData.entries ↔ Obtainable data id ∧ id ∉ owned := by
  have skinned : ∀ entry ∈ shipData.entries,
      ((PlayerInfo.shipTemplate data entry.2.id).isSome = true ↔ HasSkin data entry.2) := by
    intro entry listed
    have key := keyed shipData known entry.1 entry.2 listed
    have named : (decimal entry.2.id, entry.2) ∈ shipData.entries := key ▸ listed
    simp [Option.isSome_iff_exists, ship_template_entry known named]
  simp only [givenTemplates, List.mem_map, List.mem_filter, Given, decide_eq_true_eq]
  constructor
  · rintro ⟨_, ⟨⟨entry, listed, rfl⟩, full, fresh, found⟩, rfl⟩
    exact ⟨⟨shipData, entry.2, known, List.mem_map_of_mem listed, full,
      (skinned entry listed).mp found, rfl⟩, fresh⟩
  · rintro ⟨⟨otherData, _, otherKnown, value, full, skin, rfl⟩, fresh⟩
    obtain rfl := Option.some.inj (known.symm.trans otherKnown)
    obtain ⟨entry, listed, rfl⟩ := List.mem_map.mp value
    exact ⟨entry.2, ⟨⟨entry, listed, rfl⟩, full, fresh, (skinned entry listed).mpr skin⟩, rfl⟩

/-- No template is given twice. The keys of a table are different, and the ids are the keys. -/
theorem given_templates_distinct {data : GameData} {owned : List UInt32}
    {entries : List (String × ShipDataTemplateEntity)} (keyed : Keyed data entries) :
    (givenTemplates data owned entries).Nodup := by
  have kept : (givenTemplates data owned entries).Sublist (entries.map fun entry => entry.2.id) := by
    have filtered := (List.filter_sublist (p := Given data owned) (l := entries.map Prod.snd)).map
      ShipDataTemplateEntity.id
    rwa [List.map_map] at filtered
  exact keyed.distinct.sublist kept

/-- Without a table there is nothing to give. -/
theorem give_all_ships_missing (data : GameData) (player : PlayerInfo)
    (missing : data.shipDataTemplate = none) :
    giveAllShips data player = player ∧ ∀ id, ¬ Obtainable data id := by
  refine ⟨by simp [giveAllShips, missing], ?_⟩
  rintro id ⟨shipData, _, found, _⟩
  rw [missing] at found
  cases found

/-- With the table, `give_all_ships` is a fold over its entries. -/
theorem give_all_ships_known {data : GameData} {shipData : StringMap ShipDataTemplateEntity}
    (known : data.shipDataTemplate = some shipData) (player : PlayerInfo) :
    giveAllShips data player = (shipData.entries.foldl (giveShip data)
      (player.ships.map Shipinfo.templateId, player)).2 := by
  simp [giveAllShips, known]

/-- Giving all ships adds one ship for every obtainable template not owned, behind the ships owned,
changes nothing else, and has nothing to add the second time.

The fold over the table adds the templates of one list, `givenTemplates`, which is computed without
the fold; in a keyed table each of them is there once. The second time all of them are owned, so the
list is empty. -/
theorem give_all_ships_exact (data : GameData) (player : PlayerInfo) (keyed : KeyedById data) :
    let after := giveAllShips data player
    ∃ added, after = { player with ships := player.ships ++ added } ∧
      (added.map Shipinfo.templateId).Nodup ∧
      (∀ ship ∈ added, ship.templateId ∉ player.ships.map Shipinfo.templateId) ∧
      (∀ id, id ∈ after.ships.map Shipinfo.templateId ↔
        id ∈ player.ships.map Shipinfo.templateId ∨ Obtainable data id) ∧
      giveAllShips data after = after := by
  intro after
  cases known : data.shipDataTemplate with
  | none =>
    have same := fun record => (give_all_ships_missing data record known).1
    have nothing := (give_all_ships_missing data player known).2
    refine ⟨[], ?_, by simp, by simp, ?_, same after⟩
    · rw [List.append_nil]
      exact same player
    · intro id
      simp [after, same player, nothing id]
  | some shipData =>
    have table := keyed_table keyed known
    obtain ⟨added, all, templates⟩ := give_ships_spec data shipData.entries table
      (player.ships.map Shipinfo.templateId) player
    have result : after = { player with ships := player.ships ++ added } :=
      (give_all_ships_known known player).trans all
    have owned : ∀ id, id ∈ after.ships.map Shipinfo.templateId ↔
        id ∈ player.ships.map Shipinfo.templateId ∨ Obtainable data id := by
      intro id
      rw [result, List.map_append, List.mem_append, templates, mem_given_templates keyed known]
      by_cases old : id ∈ player.ships.map Shipinfo.templateId
      · simp only [old, true_or]
      · simp only [old, false_or, not_false_eq_true, and_true]
    refine ⟨added, result, ?_, ?_, owned, ?_⟩
    · rw [templates]
      exact given_templates_distinct table
    · intro ship new
      have member : ship.templateId ∈ added.map Shipinfo.templateId := List.mem_map_of_mem new
      rw [templates, mem_given_templates keyed known] at member
      exact member.2
    · rw [give_all_ships_known known after]
      refine give_ships_idle data shipData.entries table _ after ?_
      refine List.eq_nil_iff_forall_not_mem.mpr fun id member => ?_
      obtain ⟨obtainable, missing⟩ := (mem_given_templates keyed known _ id).mp member
      exact missing ((owned id).mpr (.inr obtainable))

/-- One of two ships has all its stars. -/
theorem give_all_ships_exact_two_templates :
    let data : GameData :=
      ⟨⟨[], by decide⟩,
        some ⟨[("102", ⟨[], 0, 0, 0, 0, 8, 102, 4, 5⟩), ("101", ⟨[], 0, 0, 0, 0, 7, 101, 5, 5⟩)],
          by decide⟩,
        some ⟨[("101", ⟨1010⟩)], by decide⟩, some ⟨[("1010", ⟨1010, 7⟩)], by decide⟩⟩
    (giveAllShips data {}).ships.length = 1 ∧
      giveAllShips data (giveAllShips data {}) = giveAllShips data {} := by
  refine ⟨by decide, ?_⟩
  refine (give_all_ships_exact _ {} ?_).choose_spec.2.2.2.2
  rintro shipData ⟨⟩ key template listed
  simp only [List.mem_cons, List.not_mem_nil, or_false] at listed
  rcases listed with ⟨⟨⟩⟩ | ⟨⟨⟩⟩
  · decide
  · decide

end CheshireLane
