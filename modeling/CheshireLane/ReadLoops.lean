import CheshireLane.Library.Splitter
import CheshireLane.FrameDecisions

/-!
# The read loops of the two packet services

Both services append a read to a buffer and split packets off it until none is
complete. The dispatch service carries nothing from one packet to the next; the
gate carries the last nonzero packet id for its padding test. A framing error
ends the connection.

The dispatch loop decides on complete frames only, so it is reliable at every
position and its packets do not depend on how the stream was cut.
-/

namespace CheshireLane

open StreamSplitter

/-- One turn of an inner loop. The error is reported and its text is lost, so a
rejected frame leaves only the buffer behind it. -/
def turn {σ : Type} (remember : Packet → σ)
    (attempt : Option (Except PacketError Packet) × List UInt8) : Verdict σ Packet UInt8 :=
  match attempt with
  | (none, rest) => .waiting rest
  | (some (.ok packet), rest) => .yielded packet (remember packet) rest
  | (some (.error _), rest) => .rejected rest

/-- A turn yields a packet just when the attempt has split one off. -/
theorem turn_yielded {σ : Type} (remember : Packet → σ)
    (attempt : Option (Except PacketError Packet) × List UInt8) (packet : Packet) (next : σ)
    (rest : List UInt8) :
    turn remember attempt = .yielded packet next rest ↔
      attempt = (some (.ok packet), rest) ∧ next = remember packet := by
  rcases attempt with ⟨_ | _ | taken, left⟩
  · simp [turn]
  · simp [turn]
  · simp only [turn, Verdict.yielded.injEq, Prod.mk.injEq, Option.some.injEq, Except.ok.injEq]
    constructor
    · rintro ⟨rfl, rfl, rfl⟩
      exact ⟨⟨rfl, rfl⟩, rfl⟩
    · rintro ⟨⟨rfl, rfl⟩, rfl⟩
      exact ⟨rfl, rfl, rfl⟩

/-- A turn rejects the buffer just when the attempt has failed. -/
theorem turn_rejected {σ : Type} (remember : Packet → σ)
    (attempt : Option (Except PacketError Packet) × List UInt8) (rest : List UInt8) :
    turn remember attempt = .rejected rest ↔ ∃ error, attempt = (some (.error error), rest) := by
  rcases attempt with ⟨_ | _ | taken, left⟩ <;> simp [turn]

/-- A turn waits just when the attempt has found no whole frame. -/
theorem turn_waiting {σ : Type} (remember : Packet → σ)
    (attempt : Option (Except PacketError Packet) × List UInt8) (rest : List UInt8) :
    turn remember attempt = .waiting rest ↔ attempt = (none, rest) := by
  rcases attempt with ⟨_ | _ | taken, left⟩ <;> simp [turn]

/-- The padding test never lengthens the buffer. -/
theorem drop_padding_length (buffer : List UInt8) (previousId : Option UInt16) :
    (Packet.dropPaddingBeforeNextPacket buffer previousId).length ≤ buffer.length := by
  cases previousId with
  | none => exact Nat.le_refl _
  | some previousId =>
    simp only [Packet.dropPaddingBeforeNextPacket]
    split
    · rw [List.length_drop]
      omega
    · exact Nat.le_refl _

/-- Every frame that leaves the buffer, accepted or not, takes two bytes or more. -/
theorem split_from_after_consumes (buffer rest : List UInt8) (previousId : Option UInt16)
    (verdict : Except PacketError Packet)
    (taken : Packet.splitFromAfter buffer previousId = (some verdict, rest)) :
    rest.length + 2 ≤ buffer.length := by
  rw [Packet.split_from_after_eq] at taken
  obtain ⟨front, size, joined, _⟩ := Packet.split_from_alone _ rest verdict taken
  have dropped := drop_padding_length buffer previousId
  rw [joined, List.length_append] at dropped
  omega

/-- The inner loop of dispatch `handle_client`. -/
def dispatchLoop : Splitter Unit Packet UInt8 where
  split _ buffer := turn (fun _ => ()) (Packet.splitFrom buffer)
  shrinks := by
    intro _ buffer packet _ rest taken
    obtain ⟨attempt, _⟩ := (turn_yielded _ _ packet _ rest).mp taken
    have consumed := split_from_after_consumes buffer rest none _ attempt
    omega

/-- `previous_packet_id` after a packet: only nonzero ids are remembered. -/
def rememberId (previousId : Option UInt16) (packet : Packet) : Option UInt16 :=
  if packet.id ≠ 0 then some packet.id else previousId

/-- The inner loop of gate `handle_client`. It remembers the last id that was not zero, by which the
next padding byte is recognised. -/
def gateLoop : Splitter (Option UInt16) Packet UInt8 where
  split previousId buffer :=
    turn (rememberId previousId) (Packet.splitFromAfter buffer previousId)
  shrinks := by
    intro previousId buffer packet _ rest taken
    obtain ⟨attempt, _⟩ := (turn_yielded _ _ packet _ rest).mp taken
    have consumed := split_from_after_consumes buffer rest previousId _ attempt
    omega

/-- An empty buffer holds no packet. -/
theorem gate_idle (previousId : Option UInt16) :
    drain gateLoop previousId [] = ([], .pending previousId []) := by
  rw [drain_eq]
  cases previousId <;> rfl

/-- Dispatch decides on complete frames, which no later byte changes. Its splitter looks at one
frame and at nothing behind it, so no boundary has to be excluded. -/
theorem dispatch_reliable : Reliable dispatchLoop (fun _ _ => False) where
  yielded := by
    intro _ buffer packet _ rest more _ taken
    obtain ⟨attempt, _⟩ := (turn_yielded _ _ packet _ rest).mp taken
    exact (turn_yielded _ _ packet _ _).mpr
      ⟨Packet.split_from_append buffer more rest _ attempt, rfl⟩
  rejected := by
    intro _ buffer rest more _ taken
    obtain ⟨error, attempt⟩ := (turn_rejected _ _ rest).mp taken
    exact (turn_rejected _ _ _).mpr ⟨error, Packet.split_from_append buffer more rest _ attempt⟩
  resumes := by
    intro _ buffer rest more waited
    obtain rfl : rest = buffer :=
      Packet.split_from_waits buffer rest ((turn_waiting _ _ rest).mp waited)
    rfl
  trapResumes := fun _ _ impossible => impossible

/-- Half the buffer's length bounds the turns of the inner loop. -/
theorem dispatch_turns (turns : Nat) (buffer : List UInt8) (enough : buffer.length < 2 * turns) :
    ∃ result, drainFuel dispatchLoop turns () buffer = some result := by
  induction turns generalizing buffer with
  | zero => omega
  | succ turns inductionHypothesis =>
    cases attempt : dispatchLoop.split () buffer with
    | waiting rest => exact ⟨_, by simp [drainFuel, attempt]; rfl⟩
    | rejected rest => exact ⟨_, by simp [drainFuel, attempt]; rfl⟩
    | yielded packet next rest =>
      obtain ⟨taken, _⟩ := (turn_yielded _ _ packet next rest).mp attempt
      have consumed := split_from_after_consumes buffer rest none _ taken
      obtain ⟨result, completed⟩ := inductionHypothesis rest (by omega)
      exact ⟨prepend packet result, by simp [drainFuel, attempt, completed]⟩

/-- Reading a stream in two different cuts gives the same packets, the same
verdict and the same unread bytes, whatever the bytes are. The inner loop ends
within half as many turns as the buffer has bytes, plus one, and every frame it
yields or rejects takes at least two bytes.

Both cuts are read like the whole stream, since no position is trapped. -/
theorem dispatch_ignores_segmentation (stream : List UInt8) (left right : List (List UInt8))
    (leftCut : Cut stream left) (rightCut : Cut stream right) :
    readLoop dispatchLoop () [] left = readLoop dispatchLoop () [] right ∧
      (∀ buffer, ∃ result, drainFuel dispatchLoop (buffer.length / 2 + 1) () buffer = some result) ∧
      ∀ buffer rest verdict, Packet.splitFrom buffer = (some verdict, rest) →
        rest.length + 2 ≤ buffer.length := by
  have whole : ∀ chunks, Cut stream chunks →
      readLoop dispatchLoop () [] chunks = drain dispatchLoop () stream := by
    rintro chunks ⟨joined, _⟩
    rw [read_loop_whole dispatch_reliable () [] chunks (by rw [drain_eq]; rfl)
      (fun _ _ _ => id), List.nil_append, joined]
  refine ⟨(whole left leftCut).trans (whole right rightCut).symm, ?_, ?_⟩
  · intro buffer
    exact dispatch_turns _ buffer (by omega)
  · intro buffer rest verdict taken
    exact split_from_after_consumes buffer rest none verdict taken

/-- Two frames cut behind the first length byte, and behind the first frame. -/
theorem dispatch_ignores_segmentation_two_frames :
    readLoop dispatchLoop () [] [[0], [6, 0, 43, 9, 0, 3, 0, 4], [0, 0, 9]] =
      readLoop dispatchLoop () [] [[0, 6, 0, 43, 9, 0, 3], [0, 4, 0, 0, 9]] :=
  (dispatch_ignores_segmentation [0, 6, 0, 43, 9, 0, 3, 0, 4, 0, 0, 9] _ _
    ⟨by decide, by decide⟩ ⟨by decide, by decide⟩).1

end CheshireLane
