import CheshireLane.PlayerPackets

/-!
# The dock is sent in pieces

The ships of a player are cut into lists of a hundred. The first list is sent in a
message of its own kind, even if it is empty, and the others follow at once. The
login burst announces the number of ships in front of the lists and behind them.
-/

namespace CheshireLane

section chunks

variable {α : Type} {size : Nat}

/-- Pieces are cut off the front until nothing is left. -/
theorem chunk_loop_flatten (positive : 0 < size) (fuel : Nat) (items : List α)
    (enough : items.length ≤ fuel) : (chunkLoop size fuel items).flatten = items := by
  induction fuel generalizing items with
  | zero =>
    have empty : items = [] := List.length_eq_zero_iff.mp (by omega)
    rw [empty]
    rfl
  | succ fuel inductionHypothesis =>
    unfold chunkLoop
    split
    · next empty => rw [List.isEmpty_iff.mp empty, List.flatten_nil]
    · have shorter : (items.drop size).length ≤ fuel := by
        rw [List.length_drop]
        omega
      rw [List.flatten_cons, inductionHypothesis _ shorter, List.take_append_drop]

/-- The chunks put together are the list. -/
theorem chunks_flatten (positive : 0 < size) (items : List α) : (chunks size items).flatten = items :=
  chunk_loop_flatten positive items.length items (Nat.le_refl _)

/-- The elements of a chunk are elements of the list. -/
theorem chunk_members (positive : 0 < size) (items : List α) :
    ∀ chunk ∈ chunks size items, ∀ item ∈ chunk, item ∈ items := by
  intro chunk member item inside
  rw [← chunks_flatten positive items]
  exact List.mem_flatten_of_mem member inside

end chunks

/-- The first chunk opens the list and every further chunk continues it. -/
theorem ship_data_eq (player : PlayerInfo) :
    shipData player = Sc12001.response ⟨(chunks 100 player.ships).head?.getD []⟩ ::
      (chunks 100 player.ships).tail.map fun chunk => Sc12010.response ⟨chunk⟩ := by
  simp only [shipData, PlayerInfo.notifyPlayerShipsData]
  cases (chunks 100 player.ships).tail with
  | nil => rfl
  | cons second rest =>
    simp only [List.map_cons, List.isEmpty_cons, Bool.false_eq_true, ↓reduceIte, Option.getD_some,
      List.map_map]
    rfl

end CheshireLane
