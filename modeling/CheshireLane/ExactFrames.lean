import CheshireLane.PaddingTest

/-!
# What is accepted as a frame

`Packet::new` indexes and subtracts without a check at each place; its length
guards stand for all of them. `newChecked` performs the same operations with
every check made, so a `none` would be a panic. There is none, and what is
accepted is a grammar over the length field and the number of bytes.

The splitter computes the size of a frame by a rule of its own. Both rules agree,
so from a stream only a length below five is rejected.

The padding test in front of a complete client frame is exact in both
directions: it drops nothing of a frame, and it drops the one byte in front of
the previous packet's successor, whatever that byte is.
-/

namespace CheshireLane

namespace Packet

/-- `bytes[start..stop]`, with its panics. -/
def checkedSlice (bytes : List UInt8) (start stop : Nat) : Option (List UInt8) :=
  if start ≤ stop ∧ stop ≤ bytes.length then some ((bytes.drop start).take (stop - start)) else none

/-- `BigEndian::read_u16`, which needs two bytes. -/
def checkedReadU16 : List UInt8 → Option UInt16
  | high :: low :: _ => some (ofBytes high low)
  | _ => none

/-- Subtraction of `usize` values. -/
def checkedSub (left right : Nat) : Option Nat := if right ≤ left then some (left - right) else none

/-- The length of the payload, for a length and a size that passed the guards. -/
def checkedPayloadLen (length size : Nat) : Option Nat :=
  if length = headerSize + 1 ∧ size = frameHeaderSize then some 0 else checkedSub length headerSize

/-- `new` with every index and every subtraction checked. A step that would panic in the source is
`none` here. -/
def newChecked (data : List UInt8) : Option (Except PacketError Packet) :=
  if data.length < frameHeaderSize then some (.error .tooShort)
  else do
    let length ← checkedReadU16 (← checkedSlice data 0 lenSize)
    if length.toNat ≠ headerSize + 1 ∧ length.toNat < headerSize then some (.error .invalidLength)
    else if data.length ≠ length.toNat + lenSize ∧
        ¬ (length.toNat = headerSize + 1 ∧ data.length = frameHeaderSize) then
      some (.error .lenMismatch)
    else do
      let flag ← data[lenSize]?
      let cmdId ← checkedReadU16 (← checkedSlice data 3 5)
      let id ← checkedReadU16 (← checkedSlice data 5 7)
      let payloadLen ← checkedPayloadLen length.toNat data.length
      let payload ← checkedSlice data 7 (7 + payloadLen)
      some (.ok { length, flag, cmdId, id, data := payload, raw := data })

/-- The value of the two bytes at the front. -/
def lengthField : List UInt8 → Option Nat
  | high :: low :: _ => some (high.toNat * 256 + low.toNat)
  | _ => none

/-- The frame grammar: a whole header, a length that covers it, and as many bytes
as the length says, or no payload behind length six. -/
def IsFrame (data : List UInt8) : Prop :=
  7 ≤ data.length ∧ ∃ length, lengthField data = some length ∧ 5 ≤ length ∧
    (data.length = length + 2 ∨ length = 6 ∧ data.length = 7)

/-- The bytes that the splitter waits for are those of the length field. -/
theorem announced_length (data : List UInt8) :
    announced data = (lengthField data).map frameTotal := by
  rcases data with _ | ⟨high, _ | ⟨low, rest⟩⟩ <;> rfl

/-- A range that ends inside the bytes is read. -/
theorem checked_slice_inside (bytes : List UInt8) (start stop : Nat) (ordered : start ≤ stop)
    (inside : stop ≤ bytes.length) :
    checkedSlice bytes start stop = some ((bytes.drop start).take (stop - start)) :=
  if_pos ⟨ordered, inside⟩

/-- The length of the payload never underflows. -/
theorem checked_payload_len_eq (length size : Nat) (bound : 5 ≤ length) :
    checkedPayloadLen length size = some (payloadLen length size) := by
  have subtracted : checkedSub length headerSize = some (length - headerSize) := if_pos bound
  unfold checkedPayloadLen payloadLen
  rw [subtracted]
  split <;> rfl

/-- No check of `newChecked` fails. Behind the test for seven bytes the header is within the data,
and behind the test of the length the payload is. -/
theorem new_checked (data : List UInt8) : newChecked data = some (new data) := by
  by_cases short : data.length < 7
  · rw [new_short data short]
    exact if_pos short
  · obtain ⟨high, low, flag, cmdHigh, cmdLow, idHigh, idLow, rest, rfl⟩ :=
      header_bytes data (Nat.le_of_not_lt short)
    rw [new_header]
    unfold newChecked
    rw [if_neg (by simp [frameHeaderSize, lenSize, headerSize]),
      checked_slice_inside _ 0 lenSize (by decide) (by simp [lenSize]),
      checked_slice_inside _ 3 5 (by decide) (by simp),
      checked_slice_inside _ 5 7 (by decide) (by simp)]
    simp only [lenSize, headerSize, frameHeaderSize, List.drop_zero, Nat.sub_zero,
      List.take_succ_cons, List.take_zero, List.drop_succ_cons, checkedReadU16, Option.bind_eq_bind,
      Option.bind_some, of_bytes_value, List.length_cons, List.getElem?_cons_succ,
      List.getElem?_cons_zero, Nat.reduceSub]
    by_cases small : high.toNat * 256 + low.toNat < 5
    · rw [if_pos small, if_pos (by omega)]
    · rw [if_neg small, if_neg (by omega)]
      by_cases fits : rest.length + 7 = high.toNat * 256 + low.toNat + 2 ∨
          high.toNat * 256 + low.toNat = 6 ∧ rest.length = 0
      · rw [if_neg (by omega), if_neg (by omega), checked_payload_len_eq _ _ (by omega),
          payload_len_rest _ _ (by omega) fits, Option.bind_some,
          checked_slice_inside _ 7 _ (by omega) (by simp only [List.length_cons]; omega)]
        simp only [List.drop_succ_cons, List.drop_zero, Nat.add_sub_cancel_left, List.take_length,
          Option.bind_some]
      · rw [if_pos (by omega), if_pos (by omega)]

/-- What `new` accepts. The header is read off seven bytes, so the two guards that are left are the
definition of a frame. -/
theorem new_accepts_frame (data : List UInt8) :
    (∃ packet, new data = .ok packet) ↔ IsFrame data := by
  by_cases short : data.length < 7
  · rw [new_short data short]
    constructor
    · rintro ⟨packet, impossible⟩
      cases impossible
    · rintro ⟨header, _⟩
      omega
  · obtain ⟨high, low, flag, cmdHigh, cmdLow, idHigh, idLow, rest, rfl⟩ :=
      header_bytes data (Nat.le_of_not_lt short)
    rw [new_header]
    simp only [IsFrame, lengthField, Option.some.injEq, exists_eq_left', List.length_cons]
    constructor
    · rintro ⟨packet, accepted⟩
      split at accepted
      · cases accepted
      · split at accepted
        · cases accepted
        · omega
    · rintro ⟨_, bound, fits⟩
      rw [if_neg (by omega), if_neg (by omega)]
      exact ⟨_, rfl⟩

/-- Two bytes read are written back. -/
theorem write_of_bytes (high low : UInt8) : writeU16 (ofBytes high low) = [high, low] := by
  have highBound := high.toNat_lt
  have lowBound := low.toNat_lt
  simp only [writeU16, of_bytes_value, List.cons.injEq, and_true]
  constructor
  · apply UInt8.toNat_inj.mp
    rw [UInt8.toNat_ofNat']
    omega
  · apply UInt8.toNat_inj.mp
    rw [UInt8.toNat_ofNat']
    omega

/-- An accepted packet is written back as the bytes it was read from. -/
theorem new_written (data : List UInt8) (packet : Packet) (accepted : new data = .ok packet) :
    packet.toBytes = data ∧ packet.raw = data ∧ packet.rawLen = data.length := by
  by_cases short : data.length < 7
  · rw [new_short data short] at accepted
    cases accepted
  · obtain ⟨high, low, flag, cmdHigh, cmdLow, idHigh, idLow, rest, rfl⟩ :=
      header_bytes data (Nat.le_of_not_lt short)
    rw [new_header] at accepted
    split at accepted
    · cases accepted
    · split at accepted
      · cases accepted
      · cases accepted
        refine ⟨?_, rfl, rfl⟩
        simp only [toBytes, write_of_bytes, List.cons_append, List.nil_append]

/-- The splitter hands `new` a frame unless the length field is below five. It takes as many bytes
as the length field announces, so `new` never finds another number of them. -/
theorem split_from_verdict (buffer rest : List UInt8) (verdict : Except PacketError Packet)
    (taken : splitFrom buffer = (some verdict, rest)) :
    ∃ length, lengthField buffer = some length ∧
      ((∃ error, verdict = .error error) ↔ length < 5) ∧ verdict ≠ .error .lenMismatch := by
  obtain ⟨total, known, complete, rfl, _⟩ := split_from_takes buffer rest verdict taken
  obtain ⟨length, field, rfl⟩ : ∃ length, lengthField buffer = some length ∧
      frameTotal length = total := by
    simpa only [announced_length, Option.map_eq_some_iff] using known
  have front := announced_front buffer _ known complete
  refine ⟨length, field, ?_⟩
  by_cases small : length < 5
  · have short : (buffer.take (frameTotal length)).length < 7 := by
      have header := frame_total_header length
      rw [List.length_take]
      omega
    rw [new_short _ short]
    exact ⟨⟨fun _ => small, fun _ => ⟨_, rfl⟩⟩, by simp⟩
  · have header : 7 ≤ (buffer.take (frameTotal length)).length := by
      have header := (frame_total_header length).mpr (Nat.le_of_not_lt small)
      rw [List.length_take]
      omega
    obtain ⟨packet, accepted, _⟩ := new_complete _ front header
    rw [accepted]
    simp [small]

/-- `Packet::new` never indexes out of range, it accepts exactly the frame grammar,
and an accepted packet is written back as the bytes it was read from. Of the
frames the splitter takes it rejects those whose length field is below five, and
none for its size. -/
theorem new_exact (data : List UInt8) :
    newChecked data = some (new data) ∧
      ((∃ packet, new data = .ok packet) ↔ IsFrame data) ∧
      (∀ packet, new data = .ok packet →
        packet.toBytes = data ∧ packet.raw = data ∧ packet.rawLen = data.length) ∧
      ∀ rest verdict, splitFrom data = (some verdict, rest) →
        ∃ length, lengthField data = some length ∧
          ((∃ error, verdict = .error error) ↔ length < 5) ∧ verdict ≠ .error .lenMismatch :=
  ⟨new_checked data, new_accepts_frame data, new_written data, split_from_verdict data⟩

/-- A response without payload, and a length field too small for a header. -/
theorem new_exact_empty_payload :
    Packet.toBytes ⟨5, 0, 63318, 7, [], [0, 5, 0, 247, 86, 0, 7]⟩ = [0, 5, 0, 247, 86, 0, 7] ∧
      ∃ length, lengthField [0, 4, 0, 247, 86, 0, 7] = some length ∧ length < 5 := by
  obtain ⟨length, field, small, _⟩ :=
    (new_exact [0, 4, 0, 247, 86, 0, 7]).2.2.2 [7] (.error .tooShort) rfl
  exact ⟨((new_exact [0, 5, 0, 247, 86, 0, 7]).2.2.1 _ rfl).1, length, field, small.mp ⟨_, rfl⟩⟩

end Packet

/-- A complete frame of a client: no flag, an ordinary command, and as many bytes
as the splitter expects for its length field. -/
structure CompleteFrame where
  length : UInt16
  cmdId : UInt16
  id : UInt16
  payload : List UInt8
  headed : 5 ≤ length.toNat
  ordinary : 10000 ≤ cmdId.toNat
  size : payload.length + 7 = Packet.frameTotal length.toNat

namespace CompleteFrame

/-- The frame as it is sent. -/
def bytes (frame : CompleteFrame) : List UInt8 :=
  Packet.toBytes ⟨frame.length, 0, frame.cmdId, frame.id, frame.payload, []⟩

/-- The packet the frame stands for. -/
def packet (frame : CompleteFrame) : Packet :=
  ⟨frame.length, 0, frame.cmdId, frame.id, frame.payload, frame.bytes⟩

end CompleteFrame

/-- The padding test is exact when the next header is buffered. Nothing is dropped of a complete
frame, whatever its id is; and in front of the successor of the previous packet exactly the padding
byte is dropped, whatever that byte is.

A header read one byte off has the high byte of the command id for its flag, or the flag for the
high byte of its command id. As command ids begin at 10000 and the flag is zero, a header is never
seen in both places. -/
theorem padding_removal_exact (frame : CompleteFrame) (previous : UInt16) (padding : UInt8)
    (tail : List UInt8) :
    Packet.splitFromAfter (frame.bytes ++ tail) (some previous) =
        Packet.splitFrom (frame.bytes ++ tail) ∧
      (frame.id = previous + 1 →
        Packet.dropPaddingBeforeNextPacket (padding :: (frame.bytes ++ tail)) (some previous) =
            frame.bytes ++ tail ∧
          Packet.splitFromAfter (padding :: (frame.bytes ++ tail)) (some previous) =
            (some (.ok frame.packet), tail)) := by
  constructor
  · rw [Packet.split_from_after_eq, CompleteFrame.bytes,
      Packet.drop_padding_none _ tail (some previous) frame.ordinary]
  · intro consecutive
    have dropped := Packet.drop_padding_successor
      ⟨frame.length, 0, frame.cmdId, frame.id, frame.payload, []⟩ padding tail previous
      frame.headed rfl frame.ordinary consecutive
    refine ⟨dropped, ?_⟩
    rw [Packet.split_from_after_eq, CompleteFrame.bytes, dropped]
    exact Packet.split_to_bytes _ tail frame.size

/-- A delayed padding byte in front of packet 23, as after packet 22. -/
theorem padding_removal_exact_delayed :
    let frame : CompleteFrame := ⟨7, 11722, 23, [8, 93], by decide, by decide, by decide⟩
    Packet.splitFromAfter (1 :: (frame.bytes ++ [])) (some 22) = (some (.ok frame.packet), []) :=
  ((padding_removal_exact ⟨7, 11722, 23, [8, 93], by decide, by decide, by decide⟩ 22 1 []).2
    (by decide)).2

end CheshireLane
