import CheshireLane.PaddingTest
import CheshireLane.ReadLoops

/-!
# When the gate's packets depend on how the stream was cut

The padding test needs eight bytes, but a frame is taken as soon as its
announced bytes are there. Both decisions agree unless the bytes in front form a
frame of at most seven bytes. Such a frame is read out of a padding byte exactly
when that byte is zero and the next packet's length field starts with a byte
below seven: the padding byte becomes the high byte of a small length.

A stream without such a boundary is read alike under every cut. A stream with
one is not: cut behind the short misread frame, the loop takes it; with eight
bytes buffered, it drops the padding byte instead.
-/

namespace CheshireLane

open StreamSplitter

/-- A padding byte that is taken for the high byte of a length below seven
unless the whole next header is buffered. -/
def ZeroPadding : Option UInt16 → List UInt8 → Prop
  | none, _ => False
  | some previousId, stream =>
    Packet.looksLikeNextPacket stream 0 previousId = false ∧
      Packet.looksLikeNextPacket stream 1 previousId = true ∧
      ∃ low rest, stream = 0 :: low :: rest ∧ low.toNat ≤ 6

/-- A frame of at most seven bytes starts with a zero byte and a byte below seven. Otherwise the
length field would announce more bytes than that. -/
theorem short_frame_bytes (buffer : List UInt8) (total : Nat) (size : total ≤ 7)
    (known : Packet.announced buffer = some total) :
    ∃ low rest, buffer = 0 :: low :: rest ∧ low.toNat ≤ 6 := by
  match buffer with
  | [] => simp [Packet.announced] at known
  | [_] => simp [Packet.announced] at known
  | high :: low :: rest =>
    have value : Packet.frameTotal (high.toNat * 256 + low.toNat) = total := by
      simpa only [Packet.announced, Option.some.injEq] using known
    rw [Packet.frame_total_eq] at value
    have zero : high = 0 := by
      apply UInt8.toNat_inj.mp
      rw [UInt8.toNat_zero]
      split at value <;> omega
    refine ⟨low, rest, by rw [zero], ?_⟩
    split at value <;> omega

/-- Outside the trap the padding test decides on a prefix as on the stream, once
the prefix holds a complete frame.

If the stream drops a byte that the prefix keeps, the prefix has at most seven
bytes. The frame taken from it is as short, so its length field is small: that
is the trap. -/
theorem drop_padding_settled (buffer more rest : List UInt8) (previousId : Option UInt16)
    (verdict : Except PacketError Packet) (untrapped : ¬ ZeroPadding previousId (buffer ++ more))
    (taken : Packet.splitFromAfter buffer previousId = (some verdict, rest)) :
    Packet.dropPaddingBeforeNextPacket (buffer ++ more) previousId =
      Packet.dropPaddingBeforeNextPacket buffer previousId ++ more := by
  rcases Packet.drop_padding_cases buffer previousId with ⟨kept, undecided⟩ |
    ⟨previous, padding, left, rfl, rfl, misaligned, found, dropped⟩
  · rcases Packet.drop_padding_cases (buffer ++ more) previousId with ⟨same, _⟩ |
      ⟨previous, padding, left, rfl, joined, misaligned, found, _⟩
    · rw [same, kept]
    · exfalso
      have header : Packet.looksLikeNextPacket (buffer ++ more) 1 previous = true := by
        rw [joined, Packet.looks_cons]
        exact found
      have short : buffer.length ≤ 7 := by
        by_contra long
        apply undecided previous rfl
        rw [← Packet.looks_append buffer more 0 previous (by omega),
          ← Packet.looks_append buffer more 1 previous (by omega)]
        exact ⟨misaligned, header⟩
      rw [Packet.split_from_after_eq, kept] at taken
      obtain ⟨total, known, complete, _, _⟩ := Packet.split_from_takes buffer rest verdict taken
      obtain ⟨low, behind, rfl, small⟩ := short_frame_bytes buffer total (by omega) known
      exact untrapped ⟨misaligned, header, low, behind ++ more, rfl, small⟩
  · rw [dropped]
    exact Packet.drop_padding_append padding left more previous misaligned found

/-- A turn that takes no packet leaves the buffer as the padding test left it. -/
theorem gate_waits {previousId : Option UInt16} {buffer rest : List UInt8}
    (attempt : gateLoop.split previousId buffer = .waiting rest) :
    rest = Packet.dropPaddingBeforeNextPacket buffer previousId :=
  Packet.split_from_waits _ rest ((turn_waiting _ _ rest).mp attempt)

/-- The gate decides on a prefix as on the stream, except at a trapped boundary. Only the padding
test looks behind a frame, and it does so on a zero byte in front of a header that could be the
remembered one. -/
theorem gate_reliable : Reliable gateLoop ZeroPadding where
  yielded := by
    intro previousId buffer packet next rest more untrapped attempt
    obtain ⟨taken, rfl⟩ := (turn_yielded _ _ packet next rest).mp attempt
    have settled := drop_padding_settled buffer more rest previousId _ untrapped taken
    refine (turn_yielded _ _ _ _ _).mpr ⟨?_, rfl⟩
    rw [Packet.split_from_after_eq, settled]
    exact Packet.split_from_append _ more rest _ taken
  rejected := by
    intro previousId buffer rest more untrapped attempt
    obtain ⟨error, taken⟩ := (turn_rejected _ _ rest).mp attempt
    have settled := drop_padding_settled buffer more rest previousId _ untrapped taken
    refine (turn_rejected _ _ _).mpr ⟨error, ?_⟩
    rw [Packet.split_from_after_eq, settled]
    exact Packet.split_from_append _ more rest _ taken
  resumes := by
    intro previousId buffer rest more attempt
    rw [gate_waits attempt]
    rcases Packet.drop_padding_cases buffer previousId with ⟨kept, _⟩ |
      ⟨previous, padding, left, rfl, rfl, misaligned, found, dropped⟩
    · rw [kept]
    · have size := Packet.looks_length left 0 previous found
      have header : Packet.looksLikeNextPacket (left ++ more) 0 previous = true := by
        rw [Packet.looks_append _ _ _ _ size]
        exact found
      simp only [gateLoop, Packet.split_from_after_eq, dropped,
        Packet.drop_padding_append padding left more previous misaligned found,
        Packet.drop_padding_header (left ++ more) previous header]
  trapResumes := by
    intro previousId buffer rest more attempt trapped
    rw [gate_waits attempt] at trapped
    rcases Packet.drop_padding_cases buffer previousId with ⟨kept, _⟩ |
      ⟨previous, padding, left, rfl, rfl, _, found, dropped⟩
    · rwa [kept] at trapped
    · rw [dropped] at trapped
      have size := Packet.looks_length left 0 previous found
      have header := trapped.1
      rw [Packet.looks_append _ _ _ _ size, found] at header
      exact absurd header (by decide)

/-- A packet is taken from its own bytes, with the padding byte in front of it if there is one.
Behind the padding byte `split_from` reads one frame. Without the bytes that follow, the padding
test decides the same, since it asks for a header that it has seen. -/
theorem gate_alone {previousId : Option UInt16} {stream : List UInt8} {packet : Packet}
    {next : Option UInt16} {rest : List UInt8}
    (attempt : gateLoop.split previousId stream = .yielded packet next rest) :
    ∃ front, front ≠ [] ∧ stream = front ++ rest ∧
      gateLoop.split previousId front = .yielded packet next [] := by
  obtain ⟨taken, rfl⟩ := (turn_yielded _ _ packet next rest).mp attempt
  rw [Packet.split_from_after_eq] at taken
  obtain ⟨front, size, joined, only⟩ := Packet.split_from_alone _ rest _ taken
  rcases Packet.drop_padding_cases stream previousId with ⟨kept, undecided⟩ |
    ⟨previous, padding, left, rfl, rfl, misaligned, found, dropped⟩
  · rw [kept] at joined
    subst joined
    refine ⟨front, by rintro rfl; simp at size, rfl, (turn_yielded _ _ _ _ _).mpr ⟨?_, rfl⟩⟩
    rcases Packet.drop_padding_cases front previousId with ⟨same, _⟩ |
      ⟨previous, padding, left, rfl, rfl, misaligned, found, _⟩
    · rw [Packet.split_from_after_eq, same]
      exact only
    · exfalso
      have reach := Packet.looks_length left 0 previous found
      apply undecided previous rfl
      rw [Packet.looks_append _ _ _ _ (by simp only [List.length_cons]; omega),
        Packet.looks_append _ _ _ _ (by simp only [List.length_cons]; omega), Packet.looks_cons]
      exact ⟨misaligned, found⟩
  · rw [dropped] at joined
    subst joined
    -- The header recognised behind the padding byte lies inside the taken frame.
    have header : 7 ≤ front.length := by
      by_contra short
      obtain ⟨total, _, _, accepted, _⟩ := Packet.split_from_takes front [] _ only
      rw [Packet.new_short _ (by rw [List.length_take]; omega)] at accepted
      cases accepted
    refine ⟨padding :: front, List.cons_ne_nil _ _, rfl, (turn_yielded _ _ _ _ _).mpr ⟨?_, rfl⟩⟩
    rw [← List.cons_append,
      Packet.looks_append _ _ _ _ (by simp only [List.length_cons]; omega)] at misaligned
    rw [Packet.looks_append _ _ _ _ (by omega)] at found
    rw [Packet.split_from_after_eq, Packet.drop_padding_byte padding front previous misaligned found]
    exact only

/-- What `handle_packet` receives of a packet. -/
def handed (packet : Packet) : UInt16 × UInt16 × List UInt8 := (packet.cmdId, packet.id, packet.data)

/-- At a trapped boundary with the whole stream buffered, the padding byte is
dropped. The next frame is then never rejected, and if the byte behind the
padding is five or six the frame is long. -/
theorem trapped_whole (previous : UInt16) (low : UInt8) (tail : List UInt8)
    (trapped : ZeroPadding (some previous) (0 :: low :: tail)) :
    readLoop gateLoop (some previous) [] [0 :: low :: tail] =
        ([], .pending (some previous) (low :: tail)) ∨
      ∃ packet later, (readLoop gateLoop (some previous) [] [0 :: low :: tail]).1 = packet :: later ∧
        (5 ≤ low.toNat → packet.data ≠ []) := by
  obtain ⟨misaligned, found, _⟩ := trapped
  rw [Packet.looks_cons] at found
  have size := Packet.looks_length _ 0 previous found
  have dropped := Packet.drop_padding_byte 0 (low :: tail) previous misaligned found
  obtain ⟨high, next, flag, cmdHigh, cmdLow, idHigh, idLow, rest, same⟩ :=
    Packet.header_bytes (low :: tail) size
  obtain ⟨rfl, behind⟩ := List.cons.inj same
  rw [same, Packet.looks_header] at found
  have known : Packet.announced (low :: tail) =
      some (Packet.frameTotal (low.toNat * 256 + next.toNat)) := by
    rw [same]
    rfl
  have header : 7 ≤ Packet.frameTotal (low.toNat * 256 + next.toNat) :=
    (Packet.frame_total_header _).mpr found.1
  by_cases complete : Packet.frameTotal (low.toNat * 256 + next.toNat) ≤ (low :: tail).length
  · right
    generalize total : Packet.frameTotal (low.toNat * 256 + next.toNat) = size at *
    have front := Packet.announced_front (low :: tail) size known complete
    have cut : ((low :: tail).take size).length = size := List.length_take_of_le complete
    obtain ⟨packet, accepted, payload, _⟩ :=
      Packet.new_complete ((low :: tail).take size) front (by omega)
    have taken : gateLoop.split (some previous) (0 :: low :: tail) =
        .yielded packet (rememberId (some previous) packet) ((low :: tail).drop size) := by
      refine (turn_yielded _ _ _ _ _).mpr ⟨?_, rfl⟩
      have whole := Packet.split_front _ ((low :: tail).drop size) front
      rw [List.take_append_drop, accepted] at whole
      rw [Packet.split_from_after_eq, dropped, whole]
    obtain ⟨later, first⟩ := read_loop_first gateLoop _ _ _ _ packet [] taken
    refine ⟨packet, later, first, ?_⟩
    intro five
    have long : 7 < size := by
      rw [← total, Packet.frame_total_eq]
      split <;> omega
    rw [payload]
    apply List.ne_nil_of_length_pos
    rw [List.length_drop]
    omega
  · left
    apply read_loop_waiting
    refine (turn_waiting _ _ _).mpr ?_
    rw [Packet.split_from_after_eq, dropped, Packet.split_from_eq, known]
    simp only [Nat.lt_of_not_le complete, ↓reduceIte]

/-- At a trapped boundary with only the short misread frame buffered, the loop
takes that frame: it is rejected, or it is a packet without payload. -/
theorem trapped_cut (previous : UInt16) (low : UInt8) (tail : List UInt8)
    (trapped : ZeroPadding (some previous) (0 :: low :: tail)) :
    ∃ total, 0 < total ∧ total < (0 :: low :: tail).length ∧
      let result := readLoop gateLoop (some previous) []
        [(0 :: low :: tail).take total, (0 :: low :: tail).drop total]
      (low.toNat < 5 ∧ result.1 = [] ∧ result.2.hasFailed = true) ∨
        (5 ≤ low.toNat ∧ ∃ packet later, result.1 = packet :: later ∧ packet.data = []) := by
  obtain ⟨_, found, low', rest', same, small⟩ := trapped
  obtain ⟨rfl, rfl⟩ : low = low' ∧ tail = rest' := by simpa using same
  have size := Packet.looks_length _ 1 previous found
  have known : Packet.announced (0 :: low :: tail) = some (Packet.frameTotal low.toNat) := by
    simp only [Packet.announced, UInt8.toNat_zero, Nat.zero_mul, Nat.zero_add]
  have value := Packet.frame_total_eq low.toNat
  have lower := Packet.frame_total_bound low.toNat
  have upper : Packet.frameTotal low.toNat ≤ 7 := by
    split at value <;> omega
  refine ⟨Packet.frameTotal low.toNat, by omega, by omega, ?_⟩
  have frameKnown := Packet.announced_front _ _ known (by omega)
  generalize Packet.frameTotal low.toNat = total at *
  have cut : ((0 :: low :: tail).take total).length = total := List.length_take_of_le (by omega)
  generalize (0 :: low :: tail).take total = frame at *
  have kept : Packet.dropPaddingBeforeNextPacket frame (some previous) = frame := by
    rcases Packet.drop_padding_cases frame (some previous) with ⟨same, _⟩ |
      ⟨_, padding, left, _, rfl, _, header, _⟩
    · exact same
    · have reach := Packet.looks_length left 0 _ header
      simp only [List.length_cons] at cut
      omega
  have taken : Packet.splitFromAfter frame (some previous) = (some (Packet.new frame), []) := by
    have whole := Packet.split_front frame [] frameKnown
    rw [List.append_nil] at whole
    rw [Packet.split_from_after_eq, kept, whole]
  by_cases five : 5 ≤ low.toNat
  · right
    obtain ⟨packet, accepted, payload, _⟩ := Packet.new_complete frame frameKnown
      (by split at value <;> omega)
    rw [accepted] at taken
    obtain ⟨later, first⟩ := read_loop_first gateLoop (some previous) _ frame [] packet
      [(0 :: low :: tail).drop total] ((turn_yielded _ _ _ _ _).mpr ⟨taken, rfl⟩)
    refine ⟨five, packet, later, first, ?_⟩
    rw [payload]
    apply List.drop_of_length_le
    omega
  · left
    rw [Packet.new_short frame (by split at value <;> omega)] at taken
    have rejected := read_loop_rejected gateLoop (some previous) frame []
      [(0 :: low :: tail).drop total] ((turn_rejected _ _ _).mpr ⟨_, taken⟩)
    refine ⟨by omega, ?_, ?_⟩ <;> rw [rejected]
    rfl

/-- A trapped boundary can be read in two ways that `handle_packet` tells apart. The first way cuts
the stream behind the short frame that the padding byte begins, so that it is read as one; in the
second all bytes are there and the padding byte is dropped. -/
theorem trap_exposed (previousId : Option UInt16) (stream : List UInt8)
    (trapped : ZeroPadding previousId stream) :
    ∃ left right, Cut stream left ∧ Cut stream right ∧
      outcome handed (readLoop gateLoop previousId [] left) ≠
        outcome handed (readLoop gateLoop previousId [] right) := by
  cases previousId with
  | none => exact absurd trapped id
  | some previous =>
    obtain ⟨low, tail, rfl, _⟩ := trapped.2.2
    obtain ⟨total, positive, inside, cut⟩ := trapped_cut previous low tail trapped
    refine ⟨[(0 :: low :: tail).take total, (0 :: low :: tail).drop total], [0 :: low :: tail],
      ⟨?_, ?_⟩, ⟨?_, ?_⟩, ?_⟩
    · simp only [List.flatten_cons, List.flatten_nil, List.append_nil, List.take_append_drop]
    · intro chunk member
      simp only [List.mem_cons, List.not_mem_nil, or_false] at member
      apply List.ne_nil_of_length_pos
      rcases member with rfl | rfl
      · rw [List.length_take]
        omega
      · rw [List.length_drop]
        omega
    · simp
    · simp
    · intro same
      simp only [outcome, Prod.mk.injEq] at same
      obtain ⟨samePackets, sameVerdict, _⟩ := same
      rcases trapped_whole previous low tail trapped with waits | ⟨packet, later, first, long⟩
      · rw [waits] at samePackets sameVerdict
        rcases cut with ⟨_, _, failed⟩ | ⟨_, packet, later, first, _⟩
        · rw [failed] at sameVerdict
          cases sameVerdict
        · rw [first] at samePackets
          exact absurd samePackets (by simp)
      · rw [first] at samePackets
        rcases cut with ⟨_, none, _⟩ | ⟨five, empty, others, head, noPayload⟩
        · rw [none] at samePackets
          exact absurd samePackets (by simp)
        · rw [head] at samePackets
          simp only [List.map_cons, List.cons.injEq, handed, Prod.mk.injEq] at samePackets
          exact long five (samePackets.1.2.2 ▸ noPayload)

/-- Every cut of the stream is handed on alike. -/
def SegmentationIndependent (stream : List UInt8) : Prop :=
  ∀ left right, Cut stream left → Cut stream right →
    outcome handed (readLoop gateLoop none [] left) =
      outcome handed (readLoop gateLoop none [] right)

/-- The gate's packets, its verdict and its unread bytes are independent of the
cut exactly for the streams without a trapped boundary.

Without one, every cut is read like the whole stream. A trapped boundary is
reached by reading the packets in front of it one by one, and then read in two
ways. -/
theorem gate_segmentation_iff (stream : List UInt8) :
    SegmentationIndependent stream ↔ Clear gateLoop ZeroPadding none stream := by
  constructor
  · intro independent last remaining reached trapped
    obtain ⟨left, right, leftCut, rightCut, apart⟩ :=
      trap_separates handed gate_alone gate_idle trap_exposed reached trapped
    exact apart (independent left right leftCut rightCut)
  · rintro clear left right ⟨leftJoined, _⟩ ⟨rightJoined, _⟩
    have whole : ∀ chunks : List (List UInt8), chunks.flatten = stream →
        readLoop gateLoop none [] chunks = drain gateLoop none stream := by
      rintro chunks rfl
      rw [read_loop_whole gate_reliable none [] chunks (gate_idle none) clear, List.nil_append]
    rw [whole left leftJoined, whole right rightJoined]

/-- An empty frame, a zero padding byte and a nine-byte frame. Buffered whole,
both packets come through; byte by byte, the padding byte and the next length
byte are rejected as a two-byte frame. -/
theorem zero_padding_splits_apart :
    ¬ SegmentationIndependent [0, 6, 0, 58, 160, 0, 22, 0, 0, 7, 0, 45, 202, 0, 23, 8, 93] := by
  intro independent
  have same := independent
    [[0, 6, 0, 58, 160, 0, 22, 0, 0, 7, 0, 45, 202, 0, 23, 8, 93]]
    [[0, 6, 0, 58, 160, 0, 22], [0], [0], [7], [0], [45], [202], [0], [23], [8], [93]]
    ⟨by decide, by decide⟩ ⟨by decide, by decide⟩
  exact absurd (congrArg (fun result => result.2.1) same) (by decide)

end CheshireLane
