import Mathlib.Data.List.Infix

/-!
# Tails of bounded weight

Items have weights. Of a list that grows at its end the longest tail within a limit is
kept. What was dropped once is too heavy ever after, so cutting what was kept and has
grown is cutting the whole list.
-/

namespace BoundedTails

universe u
variable {α : Type u} (weight : α → Nat)

/-- The sum of the weights. -/
def total : List α → Nat
  | [] => 0
  | item :: items => weight item + total items

/-- The tail is within the limit, and every other one that is ends it. -/
structure LongestTail (limit : Nat) (items tail : List α) : Prop where
  suffix : tail <:+ items
  within : total weight tail ≤ limit
  longest : ∀ other, other <:+ items → total weight other ≤ limit → other <:+ tail

variable {weight} {limit : Nat} {items tail other : List α}

/-- An empty list weighs nothing. -/
@[simp] theorem total_nil : total weight [] = 0 := rfl

/-- The first item and the rest weigh what they weigh together. -/
@[simp] theorem total_cons (item : α) (items : List α) :
    total weight (item :: items) = weight item + total weight items := rfl

/-- Two lists weigh what they weigh together. -/
@[simp] theorem total_append (front back : List α) :
    total weight (front ++ back) = total weight front + total weight back := by
  induction front with
  | nil => rw [List.nil_append, total_nil, Nat.zero_add]
  | cons item front inductionHypothesis =>
    rw [List.cons_append, total_cons, total_cons, inductionHypothesis, Nat.add_assoc]

/-- A tail weighs no more than the list, since what is missing weighs at least nothing. -/
theorem total_suffix (suffix : tail <:+ items) : total weight tail ≤ total weight items := by
  obtain ⟨front, rfl⟩ := suffix
  rw [total_append]
  exact Nat.le_add_left _ _

/-- Without items there is no weight, and the other way round. -/
theorem total_zero (positive : ∀ item, 0 < weight item) (zero : total weight items = 0) :
    items = [] := by
  cases items with
  | nil => rfl
  | cons item items =>
    have heavy := positive item
    rw [total_cons] at zero
    omega

/-- From every point of the list there is an end of an item less than an item away. By induction on
the list: the point is within the first item, whose end is near enough, or it is behind it. -/
theorem exists_cut {bound : Nat} (bounded : ∀ item, weight item ≤ bound) (positive : 0 < bound)
    (items : List α) (start : Nat) (inside : start ≤ total weight items) :
    ∃ front back, front ++ back = items ∧ start ≤ total weight front ∧
      total weight front < start + bound := by
  induction items generalizing start with
  | nil =>
    rw [total_nil] at inside
    exact ⟨[], [], rfl, inside, by rw [total_nil]; omega⟩
  | cons item items inductionHypothesis =>
    by_cases zero : start = 0
    · subst zero
      exact ⟨[], item :: items, rfl, Nat.zero_le _, by rw [total_nil]; omega⟩
    · rw [total_cons] at inside
      obtain ⟨front, back, same, low, high⟩ :=
        inductionHypothesis (start - weight item) (by omega)
      have light := bounded item
      by_cases first : start ≤ weight item
      · refine ⟨[item], items, rfl, ?_, ?_⟩ <;> rw [total_cons, total_nil] <;> omega
      · refine ⟨item :: front, back, by rw [List.cons_append, same], ?_, ?_⟩ <;>
          rw [total_cons] <;> omega

namespace LongestTail

/-- A list within the limit is its own longest tail. -/
theorem whole (within : total weight items ≤ limit) : LongestTail weight limit items items where
  suffix := List.suffix_rfl
  within := within
  longest _ suffix _ := suffix

/-- There is only one longest tail: of two tails, one is a tail of the other, and neither can be the
longer one. -/
theorem unique (first : LongestTail weight limit items tail)
    (second : LongestTail weight limit items other) : tail = other := by
  have shorter := second.longest tail first.suffix first.within
  have longer := first.longest other second.suffix second.within
  exact shorter.eq_of_length (Nat.le_antisymm shorter.length_le longer.length_le)

/-- No tail within the limit is heavier. -/
theorem heaviest (kept : LongestTail weight limit items tail) (suffix : other <:+ items)
    (within : total weight other ≤ limit) : total weight other ≤ total weight tail :=
  total_suffix (kept.longest other suffix within)

/-- Where every item has weight, the heaviest tail is the longest. -/
theorem of_heaviest (positive : ∀ item, 0 < weight item) (suffix : tail <:+ items)
    (within : total weight tail ≤ limit)
    (heaviest : ∀ other, other <:+ items → total weight other ≤ limit →
      total weight other ≤ total weight tail) : LongestTail weight limit items tail where
  suffix := suffix
  within := within
  longest other ends light := by
    rcases List.suffix_or_suffix_of_suffix ends suffix with shorter | ⟨front, rfl⟩
    · exact shorter
    · have bound := heaviest (front ++ tail) ends light
      rw [total_append] at bound
      rw [total_zero positive (by omega : total weight front = 0), List.nil_append]

/-- What was kept has grown and is cut again: that is the longest tail of everything. -/
theorem extended {old kept new : List α} (before : LongestTail weight limit old kept)
    (after : LongestTail weight limit (kept ++ new) tail) :
    LongestTail weight limit (old ++ new) tail where
  suffix := after.suffix.trans (List.suffix_append_self_iff.mpr before.suffix)
  within := after.within
  longest other ends light := by
    refine after.longest other ?_ light
    rcases List.suffix_or_suffix_of_suffix ends (List.suffix_append old new) with late | early
    · exact List.suffix_append_of_suffix late
    · -- The part in front of the extension was within the limit before it.
      obtain ⟨front, rfl⟩ := early
      rw [total_append] at light
      have part : front <:+ old := List.suffix_append_self_iff.mp ends
      exact List.suffix_append_self_iff.mpr (before.longest front part (by omega))

end LongestTail

end BoundedTails
