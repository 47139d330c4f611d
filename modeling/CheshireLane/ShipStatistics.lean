import CheshireLane.Library.Representatives
import CheshireLane.PlayerInfo
import Mathlib.Data.List.Pairwise
import Mathlib.Order.Bounds.Defs

/-!
# Ship statistics

The statistics should have one entry for every group, with the maxima of its
ships. The ships are sorted by template, all but the first of each template are
dropped, and only the rest is sorted by level. So an entry tells the truth only if
the first ship of a template leads in everything, and a group with two templates
is listed twice.
-/

namespace CheshireLane

open Representatives

variable {α : Type} {key : α → UInt32}

/-- Behind a smaller or equal key, sorted items lose all but the first of each key,
and those with the key in front of them. -/
theorem dedup_after_spec (last : UInt32) (items : List α)
    (sorted : items.Pairwise fun left right => key left ≤ key right)
    (above : ∀ item ∈ items, last ≤ key item) :
    (dedupAfter key last items).Pairwise (fun left right => key left ≠ key right) ∧
      ∀ item, item ∈ dedupAfter key last items ↔ key item ≠ last ∧ Represents key items item := by
  induction items generalizing last with
  | nil => simp [dedupAfter, Represents]
  | cons first items inductionHypothesis =>
    obtain ⟨least, later⟩ := List.pairwise_cons.mp sorted
    unfold dedupAfter
    split
    · next same =>
      obtain ⟨apart, kept⟩ := inductionHypothesis last later (fun item member => same ▸ least item member)
      refine ⟨apart, fun item => (kept item).trans (and_congr_right fun different => ?_)⟩
      exact (represents_cons_other (same.symm ▸ different)).symm
    · next different =>
      obtain ⟨apart, kept⟩ := inductionHypothesis (key first) later least
      refine ⟨List.pairwise_cons.mpr ⟨?_, apart⟩, fun item => ?_⟩
      · intro item member
        exact ((kept item).mp member).1.symm
      · by_cases same : key item = key first
        · rw [List.mem_cons, represents_cons_same same, kept]
          simp [same, different]
        · have behind : Represents key items item → key item ≠ last := by
            intro represents equal
            have lower := UInt32.le_iff_toNat_le.mp (above first List.mem_cons_self)
            have upper := UInt32.le_iff_toNat_le.mp (least item represents.mem)
            rw [equal] at upper
            exact different (UInt32.toNat_inj.mp (Nat.le_antisymm upper lower))
          have other : item ≠ first := fun equal => same (congrArg key equal)
          rw [List.mem_cons, represents_cons_other same, kept]
          constructor
          · rintro (equal | ⟨_, represents⟩)
            · exact absurd equal other
            · exact ⟨behind represents, represents⟩
          · rintro ⟨_, represents⟩
            exact .inr ⟨same, represents⟩

/-- Sorted items lose all but the first of each key. By induction behind the first item. Equal keys
stand together in a sorted list, so comparing neighbours is enough. -/
theorem dedup_by_key_spec (items : List α)
    (sorted : items.Pairwise fun left right => key left ≤ key right) :
    (dedupByKey key items).Pairwise (fun left right => key left ≠ key right) ∧
      ∀ item, item ∈ dedupByKey key items ↔ Represents key items item := by
  cases items with
  | nil => simp [dedupByKey, Represents]
  | cons first items =>
    obtain ⟨least, later⟩ := List.pairwise_cons.mp sorted
    obtain ⟨apart, kept⟩ := dedup_after_spec (key first) items later least
    unfold dedupByKey
    refine ⟨List.pairwise_cons.mpr ⟨?_, apart⟩, fun item => ?_⟩
    · intro item member
      exact ((kept item).mp member).1.symm
    · rw [List.mem_cons, kept]
      by_cases same : key item = key first
      · simp [represents_cons_same, same]
      · have other : item ≠ first := fun equal => same (congrArg key equal)
        simp [represents_cons_other same, same, other]

/-- The sort sorts. -/
theorem sort_by_key_sorted (key : α → UInt32) (items : List α) :
    (sortByKey key items).Pairwise fun left right => key left ≤ key right := by
  have total : Std.Total fun left right : α => key left ≤ key right :=
    ⟨fun left right => UInt32.le_total (key left) (key right)⟩
  have transitive : IsTrans α fun left right => key left ≤ key right :=
    ⟨fun _ _ _ => UInt32.le_trans⟩
  exact List.pairwise_insertionSort _ items

namespace PlayerInfo

variable (player : PlayerInfo)

/-- The ships the statistics are taken from are the first ones of their templates. -/
theorem mem_statistics_ships (ship : Shipinfo) :
    ship ∈ player.statisticsShips ↔ Represents Shipinfo.templateId player.ships ship := by
  have sorted := sort_by_key_sorted Shipinfo.templateId player.ships
  unfold statisticsShips
  rw [sortByKey, List.mem_insertionSort, (dedup_by_key_spec _ sorted).2]
  exact represents_insertion_sort (fun _ _ same => same ▸ UInt32.le_refl _) ship player.ships

/-- Of each template one ship is left, since equal templates stand side by side behind the first
sort. -/
theorem statistics_ships_apart :
    player.statisticsShips.Pairwise fun left right => left.templateId ≠ right.templateId := by
  have sorted := sort_by_key_sorted Shipinfo.templateId player.ships
  have same := List.perm_insertionSort (fun left right : Shipinfo => left.level ≤ right.level)
    (dedupByKey Shipinfo.templateId (sortByKey Shipinfo.templateId player.ships))
  exact (same.pairwise_iff fun apart => apart.symm).mpr (dedup_by_key_spec _ sorted).1

end PlayerInfo

/-- The template of an owned ship. -/
def knownTemplate (data : GameData) (ship : Shipinfo) : Option ShipDataTemplateEntity :=
  data.shipDataTemplate.bind fun shipData => shipData.get (decimal ship.templateId)

/-- A ship of a group, with its template. -/
def InGroup (data : GameData) (player : PlayerInfo) (group : UInt32) (ship : Shipinfo)
    (template : ShipDataTemplateEntity) : Prop :=
  ship ∈ player.ships ∧ knownTemplate data ship = some template ∧ template.groupType = group

/-- One entry for every group that owns a ship, with the maxima of its ships. -/
structure Truthful (data : GameData) (player : PlayerInfo) (infos : List ShipStatisticsInfo) :
    Prop where
  once : (infos.map ShipStatisticsInfo.id).Nodup
  complete : ∀ group, group ∈ infos.map ShipStatisticsInfo.id ↔
    ∃ ship template, InGroup data player group ship template
  levels : ∀ info ∈ infos, IsGreatest
    {level | ∃ ship template, InGroup data player info.id ship template ∧ ship.level = level}
    info.lvMax
  intimacies : ∀ info ∈ infos, IsGreatest
    {intimacy | ∃ ship template,
      InGroup data player info.id ship template ∧ ship.intimacy = intimacy}
    info.intimacyMax
  stars : ∀ info ∈ infos, IsGreatest
    {star | ∃ ship template, InGroup data player info.id ship template ∧ template.star = star}
    info.star

/-- No group owns ships of two templates. -/
def SeparateGroups (data : GameData) (player : PlayerInfo) : Prop :=
  ∀ ship ∈ player.ships, ∀ other ∈ player.ships, ∀ template otherTemplate,
    knownTemplate data ship = some template → knownTemplate data other = some otherTemplate →
      template.groupType = otherTemplate.groupType → ship.templateId = other.templateId

/-- The first ship of a known template has the highest level and intimacy of its
template. -/
def LeadingShips (data : GameData) (player : PlayerInfo) : Prop :=
  ∀ ship ∈ player.ships, (knownTemplate data ship).isSome → ∀ first,
    Represents Shipinfo.templateId player.ships first → first.templateId = ship.templateId →
      ship.level ≤ first.level ∧ ship.intimacy ≤ first.intimacy

section statistics

variable {data : GameData} {player : PlayerInfo}

/-- Which template the tables know of a ship depends on its template id alone. -/
theorem known_template_congr {ship other : Shipinfo} (same : ship.templateId = other.templateId) :
    knownTemplate data ship = knownTemplate data other := by
  unfold knownTemplate
  rw [same]

/-- The statistics with the table taken out of the way. -/
theorem statistics_eq (data : GameData) (player : PlayerInfo) :
    (player.notifyStatistics data).shipInfoList = player.statisticsShips.filterMap fun ship =>
      (knownTemplate data ship).map fun template => PlayerInfo.shipStatistics template ship := by
  unfold PlayerInfo.notifyStatistics knownTemplate
  cases data.shipDataTemplate with
  | none => exact (List.filterMap_none _).symm
  | some shipData => rfl

/-- An entry is made from the first ship of a known template. -/
theorem mem_statistics (info : ShipStatisticsInfo) :
    info ∈ (player.notifyStatistics data).shipInfoList ↔
      ∃ first template, Represents Shipinfo.templateId player.ships first ∧
        knownTemplate data first = some template ∧
        PlayerInfo.shipStatistics template first = info := by
  rw [statistics_eq, List.mem_filterMap]
  simp only [PlayerInfo.mem_statistics_ships, Option.map_eq_some_iff]
  constructor
  · rintro ⟨first, represents, template, known, made⟩
    exact ⟨first, template, represents, known, made⟩
  · rintro ⟨first, template, represents, known, made⟩
    exact ⟨first, represents, template, known, made⟩

/-- The ships are not of known templates of one group. -/
def GroupsApart (data : GameData) (left right : Shipinfo) : Prop :=
  ∀ template, knownTemplate data left = some template → ∀ otherTemplate,
    knownTemplate data right = some otherTemplate → template.groupType ≠ otherTemplate.groupType

instance (data : GameData) : Std.Symm (GroupsApart data) where
  symm _ _ apart template known otherTemplate otherKnown :=
    (apart otherTemplate otherKnown template known).symm

/-- No group is named twice exactly if the ships left are of different groups. -/
theorem statistics_once :
    ((player.notifyStatistics data).shipInfoList.map ShipStatisticsInfo.id).Nodup ↔
      player.statisticsShips.Pairwise (GroupsApart data) := by
  rw [statistics_eq, List.Nodup, List.pairwise_map, List.pairwise_filterMap]
  simp only [Option.map_eq_some_iff, forall_exists_index, and_imp, forall_apply_eq_imp_iff₂,
    PlayerInfo.shipStatistics]
  exact Iff.rfl

/-- No group is listed twice if and only if the groups are separate. Deduplication leaves one ship
for each template, so a group is listed as often as there are templates of it among the ships. -/
theorem statistics_once_iff :
    ((player.notifyStatistics data).shipInfoList.map ShipStatisticsInfo.id).Nodup ↔
      SeparateGroups data player := by
  rw [statistics_once]
  constructor
  · intro apart ship owned other otherOwned template otherTemplate known otherKnown sameGroup
    obtain ⟨first, represents, same⟩ := exists_represents Shipinfo.templateId owned
    obtain ⟨otherFirst, otherRepresents, otherSame⟩ :=
      exists_represents Shipinfo.templateId otherOwned
    by_contra different
    have distinct : first ≠ otherFirst := by
      rintro rfl
      exact different (same.symm.trans otherSame)
    have listed := (player.mem_statistics_ships first).mpr represents
    have otherListed := (player.mem_statistics_ships otherFirst).mpr otherRepresents
    exact apart.forall listed otherListed distinct template ((known_template_congr same).trans known)
      otherTemplate ((known_template_congr otherSame).trans otherKnown) sameGroup
  · intro separate
    refine player.statistics_ships_apart.imp_of_mem ?_
    intro ship other listed otherListed different template known otherTemplate otherKnown sameGroup
    exact different (separate ship ((player.mem_statistics_ships ship).mp listed).mem other
      ((player.mem_statistics_ships other).mp otherListed).mem template otherTemplate known
      otherKnown sameGroup)

/-- The ships of a group are those of one template. -/
theorem separate_template (separate : SeparateGroups data player) {first ship : Shipinfo}
    {template other : ShipDataTemplateEntity} (owned : first ∈ player.ships)
    (known : knownTemplate data first = some template)
    (member : InGroup data player template.groupType ship other) :
    first.templateId = ship.templateId ∧ other = template := by
  obtain ⟨shipOwned, shipKnown, group⟩ := member
  have same := separate first owned ship shipOwned template other known shipKnown group.symm
  refine ⟨same, Option.some.inj ?_⟩
  rw [← shipKnown, ← known, known_template_congr same]

/-- The first ship of a template leads its group, if that has no other template. -/
theorem first_leads (separate : SeparateGroups data player) (leading : LeadingShips data player)
    {first ship : Shipinfo} {template other : ShipDataTemplateEntity}
    (represents : Represents Shipinfo.templateId player.ships first)
    (known : knownTemplate data first = some template)
    (member : InGroup data player template.groupType ship other) :
    other = template ∧ ship.level ≤ first.level ∧ ship.intimacy ≤ first.intimacy := by
  obtain ⟨same, found⟩ := separate_template separate represents.mem known member
  have shipKnown : (knownTemplate data ship).isSome := by rw [member.2.1, Option.isSome_some]
  exact ⟨found, leading ship member.1 shipKnown first represents same⟩

/-- Every group that owns a ship is listed, and no other. -/
theorem statistics_groups (group : UInt32) :
    group ∈ (player.notifyStatistics data).shipInfoList.map ShipStatisticsInfo.id ↔
      ∃ ship template, InGroup data player group ship template := by
  constructor
  · intro listed
    obtain ⟨info, member, rfl⟩ := List.mem_map.mp listed
    obtain ⟨first, template, represents, known, rfl⟩ := (mem_statistics info).mp member
    exact ⟨first, template, represents.mem, known, rfl⟩
  · rintro ⟨ship, template, owned, known, rfl⟩
    obtain ⟨first, represents, same⟩ := exists_represents Shipinfo.templateId owned
    have found := (known_template_congr same).trans known
    exact List.mem_map.mpr ⟨_, (mem_statistics _).mpr ⟨first, template, represents, found, rfl⟩, rfl⟩

/-- A field of an entry is the greatest of its group if first ships lead in it. -/
theorem statistics_greatest (value : Shipinfo → ShipDataTemplateEntity → UInt32)
    (field : ShipStatisticsInfo → UInt32)
    (made : ∀ template ship, field (PlayerInfo.shipStatistics template ship) = value ship template)
    (leads : ∀ first template ship other, Represents Shipinfo.templateId player.ships first →
      knownTemplate data first = some template →
        InGroup data player template.groupType ship other → value ship other ≤ value first template)
    (info : ShipStatisticsInfo) (listed : info ∈ (player.notifyStatistics data).shipInfoList) :
    IsGreatest {most | ∃ ship template,
      InGroup data player info.id ship template ∧ value ship template = most} (field info) := by
  obtain ⟨first, template, represents, known, rfl⟩ := (mem_statistics info).mp listed
  rw [made]
  refine ⟨⟨first, template, ⟨represents.mem, known, rfl⟩, rfl⟩, ?_⟩
  rintro most ⟨ship, other, member, rfl⟩
  exact leads first template ship other represents known member

end statistics

/-- The statistics tell the truth if and only if no group owns ships of two templates and the first
ship of every template leads in level and intimacy.

The list has one entry for each template owned, made of its first ship. Two entries of one group
come from two templates, and the greatest level and intimacy are in the entry if no later ship
exceeds the first. -/
theorem statistics_truthful_iff (data : GameData) (player : PlayerInfo) :
    Truthful data player (player.notifyStatistics data).shipInfoList ↔
      SeparateGroups data player ∧ LeadingShips data player := by
  constructor
  · intro truthful
    refine ⟨statistics_once_iff.mp truthful.once, ?_⟩
    intro ship owned known first represents same
    obtain ⟨template, found⟩ := Option.isSome_iff_exists.mp known
    have firstFound := (known_template_congr same).trans found
    have listed := (mem_statistics _).mpr ⟨first, template, represents, firstFound, rfl⟩
    have member : InGroup data player template.groupType ship template := ⟨owned, found, rfl⟩
    exact ⟨(truthful.levels _ listed).2 ⟨ship, template, member, rfl⟩,
      (truthful.intimacies _ listed).2 ⟨ship, template, member, rfl⟩⟩
  · rintro ⟨separate, leading⟩
    refine ⟨statistics_once_iff.mpr separate, statistics_groups, ?_, ?_, ?_⟩
    · refine statistics_greatest (fun ship _ => ship.level) ShipStatisticsInfo.lvMax
        (fun _ _ => rfl) ?_
      intro first template ship other represents known member
      exact (first_leads separate leading represents known member).2.1
    · refine statistics_greatest (fun ship _ => ship.intimacy) ShipStatisticsInfo.intimacyMax
        (fun _ _ => rfl) ?_
      intro first template ship other represents known member
      exact (first_leads separate leading represents known member).2.2
    · refine statistics_greatest (fun _ template => template.star) ShipStatisticsInfo.star
        (fun _ _ => rfl) ?_
      intro first template ship other represents known member
      obtain ⟨rfl, _⟩ := first_leads separate leading represents known member
      exact UInt32.le_refl _

/-- A group with two templates is listed twice. Of two ships of a template the first
one counts, whatever its level is. -/
theorem statistics_of_first_ships :
    let data : GameData :=
      ⟨⟨[], by decide⟩,
        some ⟨[("101", ⟨[], 0, 0, 0, 0, 7, 101, 5, 6⟩), ("102", ⟨[], 0, 0, 0, 0, 7, 102, 6, 6⟩)],
          by decide⟩, none, none⟩
    let templates : PlayerInfo :=
      { ships := [{ id := 1, templateId := 101 }, { id := 2, templateId := 102 }] }
    let levels : PlayerInfo :=
      { ships := [{ id := 1, templateId := 101, level := 1 },
          { id := 2, templateId := 101, level := 2 }] }
    ¬ Truthful data templates (templates.notifyStatistics data).shipInfoList ∧
      ¬ Truthful data levels (levels.notifyStatistics data).shipInfoList := by
  intro data templates levels
  constructor
  · intro truthful
    exact absurd truthful.once (by decide)
  · intro truthful
    have listed : (levels.notifyStatistics data).shipInfoList =
        [{ id := 7, star := 5, lvMax := 1 }] := by rfl
    have second : InGroup data levels 7 { id := 2, templateId := 101, level := 2 }
        ⟨[], 0, 0, 0, 0, 7, 101, 5, 6⟩ :=
      ⟨List.mem_cons_of_mem _ List.mem_cons_self, by decide, rfl⟩
    have top := (truthful.levels _ (listed ▸ List.mem_cons_self)).2 ⟨_, _, second, rfl⟩
    exact absurd top (by decide)

end CheshireLane
