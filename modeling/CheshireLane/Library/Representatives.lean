import Mathlib.Data.List.Sort

/-!
# Representatives

Items have keys, and the first item with a key represents it. An insertion sort
that takes items with one key to be in order keeps their order, and with it the
representatives. A list can be thinned out to its representatives; doing so again,
before or after more items are appended, makes no difference.
-/

namespace Representatives

universe u v w
variable {α : Type u} {κ : Type v} [DecidableEq κ] (key : α → κ)

/-- The item is the first one with its key. -/
def Represents (items : List α) (item : α) : Prop :=
  items.find? (fun other => key other = key item) = some item

variable {key} {items : List α} {item first : α}

/-- A representative is one of the items. -/
theorem Represents.mem (represents : Represents key items item) : item ∈ items :=
  List.mem_of_find?_eq_some represents

/-- Every key in use is represented. -/
theorem exists_represents (key : α → κ) (member : item ∈ items) :
    ∃ first, Represents key items first ∧ key first = key item := by
  have found : (items.find? fun other => key other = key item).isSome = true :=
    List.find?_isSome.mpr ⟨item, member, decide_eq_true rfl⟩
  obtain ⟨first, represents⟩ := Option.isSome_iff_exists.mp found
  have same : key first = key item := by
    have chosen := List.find?_some represents
    exact of_decide_eq_true chosen
  refine ⟨first, ?_, same⟩
  rw [Represents, same]
  exact represents

/-- The first item represents its key, and no other does. -/
theorem represents_cons_same (same : key item = key first) :
    Represents key (first :: items) item ↔ item = first := by
  simp [Represents, same, eq_comm]

/-- For another key the first item does not matter. -/
theorem represents_cons_other (different : key item ≠ key first) :
    Represents key (first :: items) item ↔ Represents key items item := by
  simp [Represents, different.symm]

section sort

variable {before : α → α → Prop} [DecidableRel before]
  (tied : ∀ left right, key left = key right → before left right)

include tied

/-- An item goes in front of the items with its key. By induction on the list: the item is put in
front of the first one that does not come before it, and those passed over have another key. -/
theorem filter_ordered_insert (value : κ) (item : α) (items : List α) :
    (items.orderedInsert before item).filter (fun other => key other = value) =
      (item :: items).filter fun other => key other = value := by
  induction items with
  | nil => rfl
  | cons first items inductionHypothesis =>
    rw [List.orderedInsert_cons]
    split
    · rfl
    · next later =>
      have different : key item ≠ key first := fun same => later (tied item first same)
      rw [List.filter_cons, inductionHypothesis, List.filter_cons, List.filter_cons,
        List.filter_cons]
      by_cases chosen : key item = value
      · have passed : key first ≠ value := fun same => different (chosen.trans same.symm)
        simp [chosen, passed]
      · simp [chosen]

/-- Items with one key stay in order. -/
theorem filter_insertion_sort (value : κ) (items : List α) :
    (items.insertionSort before).filter (fun item => key item = value) =
      items.filter fun item => key item = value := by
  induction items with
  | nil => rfl
  | cons first items inductionHypothesis =>
    rw [List.insertionSort_cons, filter_ordered_insert tied, List.filter_cons,
      inductionHypothesis, List.filter_cons]

/-- Sorting keeps the representatives. -/
theorem represents_insertion_sort (item : α) (items : List α) :
    Represents key (items.insertionSort before) item ↔ Represents key items item := by
  unfold Represents
  rw [← List.head?_filter, filter_insertion_sort tied, List.head?_filter]

end sort

/-- Keep the items whose key is new: neither owned nor that of an item before. -/
def keepFirst (key : α → κ) : List κ → List α → List α
  | _, [] => []
  | owned, item :: items =>
    if key item ∈ owned then keepFirst key owned items
    else item :: keepFirst key (key item :: owned) items

section keepFirst

variable {owned other : List κ} {more : List α}

/-- Only membership among the keys owned matters. -/
theorem keep_first_congr (same : ∀ value, value ∈ owned ↔ value ∈ other) (items : List α) :
    keepFirst key owned items = keepFirst key other items := by
  induction items generalizing owned other with
  | nil => rfl
  | cons item items inductionHypothesis =>
    have next : ∀ value, value ∈ key item :: owned ↔ value ∈ key item :: other := by
      intro value
      rw [List.mem_cons, List.mem_cons, same]
    unfold keepFirst
    simp only [same, inductionHypothesis same, inductionHypothesis next]

/-- What is kept stands in the order of the items. -/
theorem keep_first_sublist (owned : List κ) (items : List α) :
    (keepFirst key owned items).Sublist items := by
  induction items generalizing owned with
  | nil => exact List.Sublist.refl _
  | cons item items inductionHypothesis =>
    unfold keepFirst
    split
    · exact (inductionHypothesis owned).cons item
    · exact (inductionHypothesis (key item :: owned)).cons_cons item

/-- The items kept are the representatives whose keys are not owned. By induction on the list: an
item is kept if its key was not seen, and then its key is owned. -/
theorem mem_keep_first (owned : List κ) (items : List α) (item : α) :
    item ∈ keepFirst key owned items ↔ key item ∉ owned ∧ Represents key items item := by
  induction items generalizing owned with
  | nil => simp [keepFirst, Represents]
  | cons first items inductionHypothesis =>
    unfold keepFirst
    by_cases same : key item = key first
    · split
      · next known => simp [inductionHypothesis, same, known]
      · next fresh =>
        rw [List.mem_cons, inductionHypothesis, represents_cons_same same, same]
        simp [fresh]
    · have apart : item ≠ first := fun equal => same (congrArg key equal)
      rw [represents_cons_other same]
      split
      · exact inductionHypothesis owned
      · rw [List.mem_cons, inductionHypothesis, List.mem_cons]
        simp [apart, same]

/-- The keys kept are those in use that are not owned. -/
theorem mem_keep_first_keys (owned : List κ) (items : List α) (value : κ) :
    value ∈ (keepFirst key owned items).map key ↔ value ∉ owned ∧ value ∈ items.map key := by
  constructor
  · intro member
    obtain ⟨item, kept, rfl⟩ := List.mem_map.mp member
    obtain ⟨fresh, represents⟩ := (mem_keep_first owned items item).mp kept
    exact ⟨fresh, List.mem_map_of_mem represents.mem⟩
  · rintro ⟨fresh, member⟩
    obtain ⟨item, inside, rfl⟩ := List.mem_map.mp member
    obtain ⟨first, represents, same⟩ := exists_represents key inside
    rw [← same] at fresh ⊢
    exact List.mem_map_of_mem ((mem_keep_first owned items first).mpr ⟨fresh, represents⟩)

/-- Of each key one item is kept at most. -/
theorem keep_first_distinct (owned : List κ) (items : List α) :
    ((keepFirst key owned items).map key).Nodup := by
  induction items generalizing owned with
  | nil => exact List.nodup_nil
  | cons item items inductionHypothesis =>
    unfold keepFirst
    split
    · exact inductionHypothesis owned
    · refine List.nodup_cons.mpr ⟨fun again => ?_, inductionHypothesis _⟩
      exact ((mem_keep_first_keys _ items _).mp again).1 List.mem_cons_self

/-- Where nothing is new, nothing is kept. -/
theorem keep_first_owned (known : ∀ item ∈ items, key item ∈ owned) :
    keepFirst key owned items = [] := by
  refine List.eq_nil_iff_forall_not_mem.mpr fun item kept => ?_
  obtain ⟨fresh, represents⟩ := (mem_keep_first owned items item).mp kept
  exact fresh (known item represents.mem)

/-- What is kept of appended items depends on the keys in front of them. By induction on the first
list, whose keys are all owned in the end, whether their items were kept or not. -/
theorem keep_first_append (owned : List κ) (items more : List α) :
    keepFirst key owned (items ++ more) =
      keepFirst key owned items ++ keepFirst key (items.map key ++ owned) more := by
  induction items generalizing owned with
  | nil => rfl
  | cons item items inductionHypothesis =>
    rw [List.cons_append, keepFirst, keepFirst]
    split
    · next known =>
      rw [inductionHypothesis]
      congr 1
      refine keep_first_congr (fun value => ?_) more
      simp only [List.map_cons, List.cons_append, List.mem_cons, List.mem_append]
      constructor
      · exact .inr
      · rintro (rfl | member)
        · exact .inr known
        · exact member
    · rw [inductionHypothesis, List.cons_append]
      congr 2
      refine keep_first_congr (fun value => ?_) more
      simp only [List.map_cons, List.cons_append, List.mem_cons, List.mem_append]
      exact or_left_comm

/-- Representatives represent themselves. What is kept has distinct keys, and of such a list
everything is kept. -/
theorem keep_first_again (items : List α) :
    keepFirst key [] (keepFirst key [] items) = keepFirst key [] items := by
  have kept : ∀ (owned : List κ) (items : List α), (items.map key).Nodup →
      (∀ item ∈ items, key item ∉ owned) → keepFirst key owned items = items := by
    intro owned items
    induction items generalizing owned with
    | nil => exact fun _ _ => rfl
    | cons item items inductionHypothesis =>
      intro distinct fresh
      obtain ⟨absent, later⟩ := List.nodup_cons.mp distinct
      obtain ⟨here, behind⟩ := List.forall_mem_cons.mp fresh
      rw [keepFirst, if_neg here, inductionHypothesis _ later]
      intro next member
      rw [List.mem_cons]
      rintro (same | known)
      · exact absent (same ▸ List.mem_map_of_mem member)
      · exact behind next member known
  exact kept [] _ (keep_first_distinct [] items) fun _ _ => List.not_mem_nil

/-- Thinning out early changes nothing. -/
theorem keep_first_early (items more : List α) :
    keepFirst key [] (keepFirst key [] items ++ more) = keepFirst key [] (items ++ more) := by
  rw [keep_first_append, keep_first_append, keep_first_again]
  congr 1
  refine keep_first_congr (fun value => ?_) more
  simp [mem_keep_first_keys]

/-- Keeping goes by the keys alone, so it may be done before or after a map that respects them. -/
theorem keep_first_map {β : Type w} (make : β → α) (owned : List κ) (items : List β) :
    keepFirst key owned (items.map make) =
      (keepFirst (fun item => key (make item)) owned items).map make := by
  induction items generalizing owned with
  | nil => rfl
  | cons item items inductionHypothesis =>
    rw [List.map_cons, keepFirst, keepFirst]
    split
    · exact inductionHypothesis owned
    · rw [inductionHypothesis, List.map_cons]

end keepFirst

end Representatives
