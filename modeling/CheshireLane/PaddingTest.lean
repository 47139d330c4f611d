import CheshireLane.FrameDecisions

/-!
# The padding test

The test reads a header at the front of the buffer and one a byte later. A
header that lies inside the buffer reads the same in every extension. The two
readings of one written packet exclude each other: read one byte too early, its
flag byte stands where the command id's high byte is expected, and read one byte
too late, the command id's high byte stands where the flag is expected. So a
command id from 10000 on and a zero flag tell the right offset from the wrong one.
-/

namespace CheshireLane.Packet

/-- The test on seven explicit bytes. -/
theorem looks_header (high low flag cmdHigh cmdLow idHigh idLow : UInt8) (rest : List UInt8)
    (previousId : UInt16) :
    looksLikeNextPacket (high :: low :: flag :: cmdHigh :: cmdLow :: idHigh :: idLow :: rest) 0
        previousId = true ↔
      5 ≤ high.toNat * 256 + low.toNat ∧ flag = 0 ∧ 10000 ≤ cmdHigh.toNat * 256 + cmdLow.toNat ∧
        ofBytes idHigh idLow = previousId + 1 := by
  unfold looksLikeNextPacket
  rw [dif_neg (by simp [frameHeaderSize, lenSize, headerSize])]
  simp only [readU16, List.get_eq_getElem, lenSize, headerSize, Nat.zero_add,
    List.getElem_cons_zero, List.getElem_cons_succ, of_bytes_value, Bool.and_eq_true,
    decide_eq_true_eq, and_assoc]

/-- One byte in front shifts the offset. -/
theorem looks_cons (first : UInt8) (buffer : List UInt8) (offset : Nat) (previousId : UInt16) :
    looksLikeNextPacket (first :: buffer) (offset + 1) previousId =
      looksLikeNextPacket buffer offset previousId := by
  by_cases short : buffer.length - offset < frameHeaderSize
  · have longer : (first :: buffer).length - (offset + 1) < frameHeaderSize := by
      simpa only [List.length_cons, Nat.add_sub_add_right] using short
    unfold looksLikeNextPacket
    rw [dif_pos short, dif_pos longer]
  · have longer : ¬ (first :: buffer).length - (offset + 1) < frameHeaderSize := by
      simpa only [List.length_cons, Nat.add_sub_add_right] using short
    unfold looksLikeNextPacket
    rw [dif_neg short, dif_neg longer]
    rfl

/-- A header lying inside the buffer reads the same in every extension.

Induct on the offset: bytes in front of the header are passed over, and at
offset zero the seven header bytes are those of the extension. -/
theorem looks_append (buffer more : List UInt8) (offset : Nat) (previousId : UInt16)
    (inside : offset + 7 ≤ buffer.length) :
    looksLikeNextPacket (buffer ++ more) offset previousId =
      looksLikeNextPacket buffer offset previousId := by
  induction offset generalizing buffer with
  | zero =>
    obtain ⟨high, low, flag, cmdHigh, cmdLow, idHigh, idLow, rest, rfl⟩ :=
      header_bytes buffer (by omega)
    apply Bool.eq_iff_iff.mpr
    simp only [List.cons_append, looks_header]
  | succ offset inductionHypothesis =>
    match buffer with
    | [] => simp at inside
    | first :: rest =>
      rw [List.cons_append, looks_cons, looks_cons]
      apply inductionHypothesis
      simp only [List.length_cons] at inside
      omega

/-- A buffer in which a header was recognised reaches to its end. -/
theorem looks_length (buffer : List UInt8) (offset : Nat) (previousId : UInt16)
    (found : looksLikeNextPacket buffer offset previousId = true) :
    offset + 7 ≤ buffer.length := by
  by_cases short : buffer.length - offset < frameHeaderSize
  · unfold looksLikeNextPacket at found
    rw [dif_pos short] at found
    exact absurd found Bool.false_ne_true
  · simp only [frameHeaderSize, lenSize, headerSize] at short
    omega

/-- The two outcomes of the padding test. It drops one byte if the header is not where it stands and
is recognised one byte further; all facts about padding follow from these two cases. -/
theorem drop_padding_cases (buffer : List UInt8) (previousId : Option UInt16) :
    (dropPaddingBeforeNextPacket buffer previousId = buffer ∧
      ∀ previous, previousId = some previous →
        ¬ (looksLikeNextPacket buffer 0 previous = false ∧
          looksLikeNextPacket buffer 1 previous = true)) ∨
    ∃ previous padding rest, previousId = some previous ∧ buffer = padding :: rest ∧
      looksLikeNextPacket buffer 0 previous = false ∧
      looksLikeNextPacket rest 0 previous = true ∧
      dropPaddingBeforeNextPacket buffer previousId = rest := by
  cases previousId with
  | none => exact .inl ⟨rfl, by simp⟩
  | some previous =>
    by_cases padded : looksLikeNextPacket buffer 0 previous = false ∧
        looksLikeNextPacket buffer 1 previous = true
    · right
      have size := looks_length buffer 1 previous padded.2
      match buffer, size with
      | padding :: rest, _ =>
        refine ⟨previous, padding, rest, rfl, rfl, padded.1, ?_, ?_⟩
        · rw [← looks_cons padding rest 0 previous]
          exact padded.2
        · simp [dropPaddingBeforeNextPacket, padded.1, padded.2]
    · left
      constructor
      · simp only [dropPaddingBeforeNextPacket, Bool.and_eq_true, Bool.not_eq_eq_eq_not,
          Bool.not_true, padded, ↓reduceIte]
      · rintro _ ⟨⟩
        exact padded

/-- In front of a recognised header nothing is dropped. -/
theorem drop_padding_header (buffer : List UInt8) (previous : UInt16)
    (found : looksLikeNextPacket buffer 0 previous = true) :
    dropPaddingBeforeNextPacket buffer (some previous) = buffer := by
  simp [dropPaddingBeforeNextPacket, found]

/-- A padding byte in front of a recognised header is dropped. -/
theorem drop_padding_byte (padding : UInt8) (rest : List UInt8) (previous : UInt16)
    (misaligned : looksLikeNextPacket (padding :: rest) 0 previous = false)
    (found : looksLikeNextPacket rest 0 previous = true) :
    dropPaddingBeforeNextPacket (padding :: rest) (some previous) = rest := by
  simp [dropPaddingBeforeNextPacket, misaligned, looks_cons, found]

/-- A dropped byte is dropped from every extension: the eight bytes that decided
it are still there. -/
theorem drop_padding_append (padding : UInt8) (rest more : List UInt8) (previous : UInt16)
    (misaligned : looksLikeNextPacket (padding :: rest) 0 previous = false)
    (found : looksLikeNextPacket rest 0 previous = true) :
    dropPaddingBeforeNextPacket ((padding :: rest) ++ more) (some previous) =
      rest ++ more := by
  have size := looks_length rest 0 previous found
  apply drop_padding_byte padding (rest ++ more) previous
  · rw [← List.cons_append, looks_append _ _ _ _ (by simp only [List.length_cons]; omega)]
    exact misaligned
  · rw [looks_append _ _ _ _ size]
    exact found

/-- The header test on a written packet. -/
theorem looks_to_bytes (packet : Packet) (rest : List UInt8) (previousId : UInt16) :
    looksLikeNextPacket (packet.toBytes ++ rest) 0 previousId = true ↔
      5 ≤ packet.length.toNat ∧ packet.flag = 0 ∧ 10000 ≤ packet.cmdId.toNat ∧
        packet.id = previousId + 1 := by
  have header := looks_header
    (UInt8.ofNat (packet.length.toNat / 256)) (UInt8.ofNat (packet.length.toNat % 256)) packet.flag
    (UInt8.ofNat (packet.cmdId.toNat / 256)) (UInt8.ofNat (packet.cmdId.toNat % 256))
    (UInt8.ofNat (packet.id.toNat / 256)) (UInt8.ofNat (packet.id.toNat % 256))
    (packet.data ++ rest) previousId
  simp only [← of_bytes_value, of_bytes_write] at header
  exact header

/-- Read one byte too early, a written packet with a zero flag has a command id
below 256. -/
theorem looks_early (packet : Packet) (padding : UInt8) (rest : List UInt8) (previousId : UInt16)
    (unflagged : packet.flag = 0) :
    looksLikeNextPacket (padding :: (packet.toBytes ++ rest)) 0 previousId = false := by
  apply Bool.eq_false_iff.mpr
  intro found
  have header := looks_header padding
    (UInt8.ofNat (packet.length.toNat / 256)) (UInt8.ofNat (packet.length.toNat % 256)) packet.flag
    (UInt8.ofNat (packet.cmdId.toNat / 256)) (UInt8.ofNat (packet.cmdId.toNat % 256))
    (UInt8.ofNat (packet.id.toNat / 256))
    (UInt8.ofNat (packet.id.toNat % 256) :: (packet.data ++ rest)) previousId
  obtain ⟨_, _, large, _⟩ := header.mp found
  have bound := (UInt8.ofNat (packet.cmdId.toNat / 256)).toNat_lt
  rw [unflagged, UInt8.toNat_zero] at large
  omega

/-- Read one byte too late, a written packet with a command id from 10000 on has a nonzero flag. The
byte in the place of the flag is then the high byte of the command id, which is at least 39. -/
theorem looks_late (packet : Packet) (rest : List UInt8) (previousId : UInt16)
    (ordinary : 10000 ≤ packet.cmdId.toNat) :
    looksLikeNextPacket (packet.toBytes ++ rest) 1 previousId = false := by
  apply Bool.eq_false_iff.mpr
  intro found
  have size := looks_length _ 1 previousId found
  have rewritten : packet.toBytes ++ rest = UInt8.ofNat (packet.length.toNat / 256) ::
      UInt8.ofNat (packet.length.toNat % 256) :: packet.flag ::
      UInt8.ofNat (packet.cmdId.toNat / 256) :: UInt8.ofNat (packet.cmdId.toNat % 256) ::
      UInt8.ofNat (packet.id.toNat / 256) :: UInt8.ofNat (packet.id.toNat % 256) ::
      (packet.data ++ rest) := rfl
  rw [rewritten] at found size
  rw [looks_cons] at found
  match behind : packet.data ++ rest with
  | [] =>
    rw [behind] at size
    simp only [List.length_cons, List.length_nil] at size
    omega
  | next :: others =>
    rw [behind, looks_header] at found
    have zero := congrArg UInt8.toNat found.2.1
    have bound := packet.cmdId.toNat_lt
    rw [UInt8.toNat_ofNat', UInt8.toNat_zero] at zero
    omega

/-- No byte of a written packet is dropped, whatever the previous id was. -/
theorem drop_padding_none (packet : Packet) (rest : List UInt8) (previousId : Option UInt16)
    (ordinary : 10000 ≤ packet.cmdId.toNat) :
    dropPaddingBeforeNextPacket (packet.toBytes ++ rest) previousId = packet.toBytes ++ rest := by
  cases previousId with
  | none => rfl
  | some previous =>
    simp [dropPaddingBeforeNextPacket, looks_late packet rest previous ordinary]

/-- One byte in front of the previous packet's successor is dropped. -/
theorem drop_padding_successor (packet : Packet) (padding : UInt8) (rest : List UInt8)
    (previous : UInt16) (length : 5 ≤ packet.length.toNat) (unflagged : packet.flag = 0)
    (ordinary : 10000 ≤ packet.cmdId.toNat) (consecutive : packet.id = previous + 1) :
    dropPaddingBeforeNextPacket (padding :: (packet.toBytes ++ rest)) (some previous) =
      packet.toBytes ++ rest :=
  drop_padding_byte padding _ previous (looks_early packet padding rest previous unflagged)
    ((looks_to_bytes packet rest previous).mpr ⟨length, unflagged, ordinary, consecutive⟩)

/-- In front of any other packet the byte stays. -/
theorem drop_padding_stranger (packet : Packet) (padding : UInt8) (rest : List UInt8)
    (previousId : Option UInt16) (stranger : ∀ previous, previousId = some previous →
      packet.id ≠ previous + 1) :
    dropPaddingBeforeNextPacket (padding :: (packet.toBytes ++ rest)) previousId =
      padding :: (packet.toBytes ++ rest) := by
  cases previousId with
  | none => rfl
  | some previous =>
    have missed : looksLikeNextPacket (packet.toBytes ++ rest) 0 previous = false := by
      apply Bool.eq_false_iff.mpr
      intro found
      exact stranger previous rfl ((looks_to_bytes packet rest previous).mp found).2.2.2
    simp [dropPaddingBeforeNextPacket, looks_cons, missed]

end CheshireLane.Packet
