import CheshireLane.Packet

/-!
# What one splitting attempt decides

The attempt reads the two length bytes and waits for the bytes they announce.
Everything here says which bytes a decision depends on: taking a frame depends
on that frame alone, and more bytes behind it change nothing.
-/

namespace CheshireLane.Packet

/-- The size announced by the length field at the front, once it has arrived. -/
def announced : List UInt8 → Option Nat
  | high :: low :: _ => some (frameTotal (high.toNat * 256 + low.toNat))
  | _ => none

/-- The length six is the one for which a frame may come with an empty payload. -/
theorem frame_total_eq (length : Nat) :
    frameTotal length = if length = 6 then 7 else length + 2 := rfl

/-- And the payload of that frame is empty. -/
theorem payload_len_eq (length size : Nat) :
    payloadLen length size = if length = 6 ∧ size = 7 then 0 else length - 5 := rfl

/-- Every frame has its length field, so it occupies at least two bytes. -/
theorem frame_total_bound (length : Nat) : 2 ≤ frameTotal length := by
  rw [frame_total_eq]
  split <;> omega

/-- Exactly the lengths from five on leave room for a header. -/
theorem frame_total_header (length : Nat) : 7 ≤ frameTotal length ↔ 5 ≤ length := by
  rw [frame_total_eq]
  split <;> omega

/-- A frame has at least its length field. -/
theorem announced_bound (buffer : List UInt8) (total : Nat) (known : announced buffer = some total) :
    2 ≤ total := by
  match buffer with
  | [] => simp [announced] at known
  | [_] => simp [announced] at known
  | high :: low :: rest =>
    obtain rfl : frameTotal (high.toNat * 256 + low.toNat) = total := by
      simpa only [announced, Option.some.injEq] using known
    exact frame_total_bound _

/-- An announced size does not change when more bytes arrive. -/
theorem announced_append (buffer more : List UInt8) (total : Nat)
    (known : announced buffer = some total) : announced (buffer ++ more) = some total := by
  match buffer with
  | [] => simp [announced] at known
  | [_] => simp [announced] at known
  | high :: low :: rest => exact known

/-- A buffer cut at its announced size announces the same size. -/
theorem announced_take (buffer : List UInt8) (total : Nat) (known : announced buffer = some total) :
    announced (buffer.take total) = some total := by
  have bound : 2 ≤ total := announced_bound buffer total known
  match buffer, total, bound with
  | [], _, _ => simp [announced] at known
  | [_], _, _ => simp [announced] at known
  | high :: low :: rest, total + 2, _ => simpa only [List.take_succ_cons, announced] using known

/-- The announced bytes at the front are a whole frame. -/
theorem announced_front (buffer : List UInt8) (total : Nat) (known : announced buffer = some total)
    (complete : total ≤ buffer.length) :
    announced (buffer.take total) = some (buffer.take total).length := by
  rw [List.length_take, Nat.min_eq_left complete]
  exact announced_take buffer total known

/-- The attempt without a previous id: wait for the announced bytes, then take them. -/
theorem split_from_eq (buffer : List UInt8) :
    splitFrom buffer = match announced buffer with
      | none => (none, buffer)
      | some total =>
        if buffer.length < total then (none, buffer)
        else (some (new (buffer.take total)), buffer.drop total) := by
  match buffer with
  | [] => rfl
  | [_] => rfl
  | high :: low :: rest =>
    have filled : ¬ (high :: low :: rest).length < lenSize := by
      simp only [List.length_cons, lenSize]
      omega
    simp only [splitFrom, splitFromAfter, dropPaddingBeforeNextPacket, filled, ↓reduceDIte,
      announced, readU16, List.getElem_cons_zero, List.getElem_cons_succ, of_bytes_value]

/-- The padding test comes first; the rest is the attempt without a previous id. -/
theorem split_from_after_eq (buffer : List UInt8) (previousId : Option UInt16) :
    splitFromAfter buffer previousId =
      splitFrom (dropPaddingBeforeNextPacket buffer previousId) := rfl

/-- An attempt that takes no frame leaves the buffer as it is. -/
theorem split_from_waits (buffer rest : List UInt8) (waited : splitFrom buffer = (none, rest)) :
    rest = buffer := by
  rw [split_from_eq] at waited
  cases known : announced buffer with
  | none => simpa [known, eq_comm] using waited
  | some total =>
    simp only [known] at waited
    split at waited
    · simpa [eq_comm] using waited
    · simp at waited

/-- A frame that is taken occupies the announced bytes at the front. -/
theorem split_from_takes (buffer rest : List UInt8) (verdict : Except PacketError Packet)
    (taken : splitFrom buffer = (some verdict, rest)) :
    ∃ total, announced buffer = some total ∧ total ≤ buffer.length ∧
      verdict = new (buffer.take total) ∧ rest = buffer.drop total := by
  rw [split_from_eq] at taken
  cases known : announced buffer with
  | none => simp [known] at taken
  | some total =>
    simp only [known] at taken
    split at taken
    · simp at taken
    · next complete =>
      simp only [Prod.mk.injEq, Option.some.injEq] at taken
      exact ⟨total, rfl, by omega, taken.1.symm, taken.2.symm⟩

/-- A complete front is taken, whatever follows it. -/
theorem split_from_complete (buffer more : List UInt8) (total : Nat)
    (known : announced buffer = some total) (complete : total ≤ buffer.length) :
    splitFrom (buffer ++ more) = (some (new (buffer.take total)), buffer.drop total ++ more) := by
  have extended : ¬ (buffer ++ more).length < total := by
    rw [List.length_append]
    omega
  rw [split_from_eq, announced_append buffer more total known]
  simp only [extended, ↓reduceIte, List.take_append_of_le_length complete,
    List.drop_append_of_le_length complete]

/-- Taking a frame is final: more bytes go behind what is left. -/
theorem split_from_append (buffer more rest : List UInt8) (verdict : Except PacketError Packet)
    (taken : splitFrom buffer = (some verdict, rest)) :
    splitFrom (buffer ++ more) = (some verdict, rest ++ more) := by
  obtain ⟨total, known, complete, rfl, rfl⟩ := split_from_takes buffer rest verdict taken
  exact split_from_complete buffer more total known complete

/-- A whole frame at the front is taken, whatever follows it. -/
theorem split_front (frame rest : List UInt8) (known : announced frame = some frame.length) :
    splitFrom (frame ++ rest) = (some (new frame), rest) := by
  rw [split_from_complete frame rest _ known (Nat.le_refl _), List.take_length, List.drop_length,
    List.nil_append]

/-- A taken frame is at least two bytes long and is taken from those bytes alone. -/
theorem split_from_alone (buffer rest : List UInt8) (verdict : Except PacketError Packet)
    (taken : splitFrom buffer = (some verdict, rest)) :
    ∃ front, 2 ≤ front.length ∧ buffer = front ++ rest ∧ splitFrom front = (some verdict, []) := by
  obtain ⟨total, known, complete, rfl, rfl⟩ := split_from_takes buffer rest verdict taken
  have front := announced_front buffer total known complete
  have cut := split_front (buffer.take total) [] front
  rw [List.append_nil] at cut
  exact ⟨buffer.take total, announced_bound _ _ front, (List.take_append_drop total buffer).symm,
    cut⟩

/-- Fewer than seven bytes are no frame. -/
theorem new_short (frame : List UInt8) (short : frame.length < 7) : new frame = .error .tooShort :=
  dif_pos short

/-- The payload of an accepted frame is all that stands behind the header. -/
theorem payload_len_rest (length count : Nat) (bound : 5 ≤ length)
    (fits : count + 7 = length + 2 ∨ length = 6 ∧ count = 0) :
    payloadLen length (count + 7) = count := by
  rw [payload_len_eq]
  split <;> omega

/-- The guards of `new` on seven explicit bytes. All later facts about `new` are read off this
equation. The second guard has the two lengths in it that announce no payload. -/
theorem new_header (high low flag cmdHigh cmdLow idHigh idLow : UInt8) (rest : List UInt8) :
    new (high :: low :: flag :: cmdHigh :: cmdLow :: idHigh :: idLow :: rest) =
      if high.toNat * 256 + low.toNat < 5 then .error .invalidLength
      else if rest.length + 7 ≠ high.toNat * 256 + low.toNat + 2 ∧
          ¬ (high.toNat * 256 + low.toNat = 6 ∧ rest.length = 0) then .error .lenMismatch
      else .ok {
        length := ofBytes high low
        flag := flag
        cmdId := ofBytes cmdHigh cmdLow
        id := ofBytes idHigh idLow
        data := rest
        raw := high :: low :: flag :: cmdHigh :: cmdLow :: idHigh :: idLow :: rest } := by
  unfold new
  rw [dif_neg (by simp [frameHeaderSize, lenSize, headerSize])]
  simp only [readU16, List.getElem_cons_zero, List.getElem_cons_succ, of_bytes_value,
    List.length_cons, headerSize, lenSize, frameHeaderSize]
  by_cases small : high.toNat * 256 + low.toNat < 5
  · rw [if_pos small, if_pos (by omega)]
  · rw [if_neg small, if_neg (by omega)]
    by_cases fits : rest.length + 7 = high.toNat * 256 + low.toNat + 2 ∨
        high.toNat * 256 + low.toNat = 6 ∧ rest.length = 0
    · rw [dif_neg (by omega), if_neg (by omega)]
      simp only [slice, payload_len_rest _ _ (by omega) fits, List.drop_succ_cons, List.drop_zero,
        Nat.add_sub_cancel_left, List.take_length, List.get_eq_getElem, List.getElem_cons_succ,
        List.getElem_cons_zero]
    · rw [dif_pos (by omega), if_pos (by omega)]

/-- Seven header bytes and the announced payload are a frame, for every length from five on. The
length is compared with the payload by `frame_total`, which maps six and five to the same number of
bytes. -/
theorem new_accepts (high low flag cmdHigh cmdLow idHigh idLow : UInt8) (payload : List UInt8)
    (size : payload.length + 7 = frameTotal (high.toNat * 256 + low.toNat)) :
    new (high :: low :: flag :: cmdHigh :: cmdLow :: idHigh :: idLow :: payload) = .ok {
      length := ofBytes high low
      flag := flag
      cmdId := ofBytes cmdHigh cmdLow
      id := ofBytes idHigh idLow
      data := payload
      raw := high :: low :: flag :: cmdHigh :: cmdLow :: idHigh :: idLow :: payload } := by
  have valid : 5 ≤ high.toNat * 256 + low.toNat := by
    rw [← frame_total_header]
    omega
  have fits : payload.length + 7 = high.toNat * 256 + low.toNat + 2 ∨
      high.toNat * 256 + low.toNat = 6 ∧ payload.length = 0 := by
    rw [frame_total_eq] at size
    split at size <;> omega
  rw [new_header, if_neg (by omega), if_neg (by omega)]

/-- Seven bytes can be named. -/
theorem header_bytes (buffer : List UInt8) (inside : 7 ≤ buffer.length) :
    ∃ high low flag cmdHigh cmdLow idHigh idLow rest,
      buffer = high :: low :: flag :: cmdHigh :: cmdLow :: idHigh :: idLow :: rest := by
  rcases buffer with _ | ⟨high, _ | ⟨low, _ | ⟨flag, _ | ⟨cmdHigh, _ | ⟨cmdLow, _ |
    ⟨idHigh, _ | ⟨idLow, rest⟩⟩⟩⟩⟩⟩⟩
  case cons.cons.cons.cons.cons.cons.cons => exact ⟨_, _, _, _, _, _, _, _, rfl⟩
  all_goals
    simp only [List.length_cons, List.length_nil] at inside
    omega

/-- A frame of its announced size with a whole header is accepted, and its
payload is everything behind the header. -/
theorem new_complete (frame : List UInt8) (known : announced frame = some frame.length)
    (header : 7 ≤ frame.length) :
    ∃ packet, new frame = .ok packet ∧ packet.data = frame.drop 7 ∧ packet.raw = frame := by
  obtain ⟨high, low, flag, cmdHigh, cmdLow, idHigh, idLow, payload, rfl⟩ := header_bytes frame header
  have size : payload.length + 7 = frameTotal (high.toNat * 256 + low.toNat) := by
    simp only [announced, Option.some.injEq, List.length_cons] at known
    omega
  exact ⟨_, new_accepts high low flag cmdHigh cmdLow idHigh idLow payload size, rfl, rfl⟩

/-- A written packet whose length announces its payload is split off as it was written, whatever
follows it. The first two bytes are the length, so as many bytes are waited for and taken as were
written. -/
theorem split_to_bytes (packet : Packet) (rest : List UInt8)
    (size : packet.data.length + 7 = frameTotal packet.length.toNat) :
    splitFrom (packet.toBytes ++ rest) =
      (some (.ok { packet with raw := packet.toBytes }), rest) := by
  have value : (UInt8.ofNat (packet.length.toNat / 256)).toNat * 256 +
      (UInt8.ofNat (packet.length.toNat % 256)).toNat = packet.length.toNat := by
    rw [← of_bytes_value, of_bytes_write]
  have whole : packet.toBytes.length = packet.data.length + 7 := by
    simp only [toBytes, writeU16, List.length_append, List.length_cons, List.length_nil]
    omega
  have known : announced packet.toBytes = some packet.toBytes.length := by
    rw [whole, size, ← value]
    rfl
  have accepted := new_accepts
    (UInt8.ofNat (packet.length.toNat / 256)) (UInt8.ofNat (packet.length.toNat % 256)) packet.flag
    (UInt8.ofNat (packet.cmdId.toNat / 256)) (UInt8.ofNat (packet.cmdId.toNat % 256))
    (UInt8.ofNat (packet.id.toNat / 256)) (UInt8.ofNat (packet.id.toNat % 256))
    packet.data (by rw [value, size])
  simp only [of_bytes_write] at accepted
  rw [split_front packet.toBytes rest known]
  exact congrArg (fun verdict => (some verdict, rest)) accepted

end CheshireLane.Packet
