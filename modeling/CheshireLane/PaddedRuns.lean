import CheshireLane.PaddingTest
import CheshireLane.ReadLoops

/-!
# Padded client runs

A client numbers its frames consecutively and may send one padding byte behind a
frame without payload. The gate recovers that byte through the id it remembers:
the next frame's id is the remembered id's wrapping successor. Id zero is a
successor like any other, but the gate does not remember it. So the padding byte
behind frame zero stays in the buffer, the next header is read one byte too
early, and the rest of the run is lost.
-/

namespace CheshireLane

open StreamSplitter

/-- A client frame without its id. Only a frame without payload is padded, and a
payload has at least two bytes. -/
structure ClientFrame where
  cmdId : UInt16
  payload : List UInt8
  padding : Option UInt8
  ordinary : 10000 ≤ cmdId.toNat
  severalBytes : payload = [] ∨ 2 ≤ payload.length ∧ payload.length ≤ 65530
  unpadded : payload ≠ [] → padding = none

namespace ClientFrame

/-- A frame without payload is announced with length 6. -/
def lengthField (frame : ClientFrame) : UInt16 :=
  if frame.payload = [] then 6 else UInt16.ofNat (5 + frame.payload.length)

/-- The packet a client sends under this id. -/
def packet (frame : ClientFrame) (id : UInt16) : Packet where
  length := frame.lengthField
  flag := 0
  cmdId := frame.cmdId
  id := id
  data := frame.payload
  raw := []

/-- The packet the gate is meant to see. -/
def received (frame : ClientFrame) (id : UInt16) : Packet :=
  { frame.packet id with raw := (frame.packet id).toBytes }

/-- The frame is as long as its length field has the splitter expect. -/
theorem length_field_total (frame : ClientFrame) :
    frame.payload.length + 7 = Packet.frameTotal frame.lengthField.toNat := by
  rw [Packet.frame_total_eq]
  by_cases empty : frame.payload = []
  · simp [lengthField, empty]
  · have several : 2 ≤ frame.payload.length ∧ frame.payload.length ≤ 65530 :=
      frame.severalBytes.resolve_left empty
    have field : frame.lengthField.toNat = 5 + frame.payload.length := by
      simp only [lengthField, empty, ↓reduceIte, UInt16.toNat_ofNat']
      omega
    rw [field]
    split <;> omega

/-- The length field counts the header. -/
theorem length_field_header (frame : ClientFrame) : 5 ≤ frame.lengthField.toNat := by
  rw [← Packet.frame_total_header, ← length_field_total]
  omega

end ClientFrame

/-- The bytes of a run whose first frame has this id. -/
def sendRun : UInt16 → List ClientFrame → List UInt8
  | _, [] => []
  | id, frame :: frames =>
    (frame.packet id).toBytes ++ (frame.padding.toList ++ sendRun (id + 1) frames)

/-- The packets of a run whose first frame has this id. -/
def receivedRun : UInt16 → List ClientFrame → List Packet
  | _, [] => []
  | id, frame :: frames => frame.received id :: receivedRun (id + 1) frames

/-- What may stay behind the last packet: the padding in front of the run when
the run is empty, the last frame's padding otherwise. -/
def finalPadding : List UInt8 → List ClientFrame → List UInt8
  | front, [] => front
  | _, frame :: frames => finalPadding frame.padding.toList frames

/-- The buffered run is read completely: every frame in order, no error, and
only the last frame's padding is left. -/
def Recovered (start : UInt16) (frames : List ClientFrame) : Prop :=
  ∃ previousId, drain gateLoop none (sendRun start frames) =
    (receivedRun start frames, .pending previousId (finalPadding [] frames))

/-- No padded frame with id zero has a frame behind it. -/
def ZeroUnpadded : UInt16 → List ClientFrame → Prop
  | _, [] => True
  | id, frame :: frames =>
    (id = 0 → frames ≠ [] → frame.padding = none) ∧ ZeroUnpadded (id + 1) frames

/-- What stands in front of the frame with this id: nothing, or a padding byte
whose frame the gate remembers. -/
def Aligned (previousId : Option UInt16) (id : UInt16) (front : List UInt8) : Prop :=
  front = [] ∨ ∃ padding previous, front = [padding] ∧ previousId = some previous ∧
    id = previous + 1

/-- In front of an aligned frame the padding is dropped and the frame is taken. -/
theorem gate_takes_frame (frame : ClientFrame) (id : UInt16) (previousId : Option UInt16)
    (front rest : List UInt8) (aligned : Aligned previousId id front) :
    gateLoop.split previousId (front ++ ((frame.packet id).toBytes ++ rest)) =
      .yielded (frame.received id) (rememberId previousId (frame.received id)) rest := by
  have unpadded : Packet.dropPaddingBeforeNextPacket
      (front ++ ((frame.packet id).toBytes ++ rest)) previousId =
        (frame.packet id).toBytes ++ rest := by
    rcases aligned with rfl | ⟨padding, previous, rfl, rfl, consecutive⟩
    · exact Packet.drop_padding_none (frame.packet id) rest previousId frame.ordinary
    · exact Packet.drop_padding_successor (frame.packet id) padding rest previous
        frame.length_field_header rfl frame.ordinary consecutive
  refine (turn_yielded _ _ _ _ _).mpr ⟨?_, rfl⟩
  rw [Packet.split_from_after_eq, unpadded]
  exact Packet.split_to_bytes (frame.packet id) rest frame.length_field_total

/-- The next frame is aligned again, unless the taken one is padded and has id zero. -/
theorem aligned_next (frame : ClientFrame) (id : UInt16) (previousId : Option UInt16)
    (remembered : id = 0 → frame.padding = none) :
    Aligned (rememberId previousId (frame.received id)) (id + 1) frame.padding.toList := by
  cases padded : frame.padding with
  | none => exact .inl rfl
  | some padding =>
    have nonzero : id ≠ 0 := by
      intro zero
      rw [remembered zero] at padded
      cases padded
    exact .inr ⟨padding, id, rfl, if_pos nonzero, rfl⟩

/-- Only nonzero ids are remembered. -/
theorem remember_nonzero (previousId : Option UInt16) (packet : Packet)
    (nonzero : previousId ≠ some 0) : rememberId previousId packet ≠ some 0 := by
  unfold rememberId
  split
  · next valid => simpa using valid
  · exact nonzero

/-- A run without a padded frame zero is recovered.

Induct on the frames. Each turn drops the padding in front and takes one frame;
the padding behind it is in front of the next frame. -/
theorem run_recovered (frames : List ClientFrame) (id : UInt16) (previousId : Option UInt16)
    (front : List UInt8) (short : front.length ≤ 1)
    (aligned : frames ≠ [] → Aligned previousId id front) (unpadded : ZeroUnpadded id frames) :
    ∃ last, drain gateLoop previousId (front ++ sendRun id frames) =
      (receivedRun id frames, .pending last (finalPadding front frames)) := by
  induction frames generalizing id previousId front with
  | nil =>
    refine ⟨previousId, ?_⟩
    have waits : Packet.splitFromAfter front previousId = (none, front) := by
      match front with
      | [] => cases previousId <;> rfl
      | [_] => cases previousId <;> rfl
      | _ :: _ :: rest =>
        simp only [List.length_cons] at short
        omega
    rw [sendRun, List.append_nil, drain_eq,
      show gateLoop.split previousId front = .waiting front from (turn_waiting _ _ front).mpr waits]
    rfl
  | cons frame frames inductionHypothesis =>
    have taken := gate_takes_frame frame id previousId front
      (frame.padding.toList ++ sendRun (id + 1) frames) (aligned (List.cons_ne_nil _ _))
    have next : frames ≠ [] →
        Aligned (rememberId previousId (frame.received id)) (id + 1) frame.padding.toList := by
      intro more
      exact aligned_next frame id previousId fun zero => unpadded.1 zero more
    have behind : frame.padding.toList.length ≤ 1 := by
      cases frame.padding <;> simp
    obtain ⟨last, onward⟩ := inductionHypothesis (id + 1) _ frame.padding.toList behind next
      unpadded.2
    refine ⟨last, ?_⟩
    rw [sendRun, drain_eq, taken]
    simp only [onward]
    rfl

/-- Read one byte too early, a written packet with a zero flag is no ordinary
packet: the zero flag becomes the high byte of its command id. -/
theorem misread_command (packet misread : Packet) (padding : UInt8) (rest left : List UInt8)
    (unflagged : packet.flag = 0)
    (taken : Packet.splitFrom (padding :: (packet.toBytes ++ rest)) = (some (.ok misread), left)) :
    misread.cmdId.toNat < 256 := by
  obtain ⟨total, known, complete, accepted, _⟩ := Packet.split_from_takes _ left _ taken
  have frameKnown := Packet.announced_take _ total known
  have size : ((padding :: (packet.toBytes ++ rest)).take total).length = total := by
    rw [List.length_take]
    omega
  by_cases header : 7 ≤ total
  · match total, header with
    | total + 7, _ =>
      have bytes : (padding :: (packet.toBytes ++ rest)).take (total + 7) =
          padding :: UInt8.ofNat (packet.length.toNat / 256) ::
            UInt8.ofNat (packet.length.toNat % 256) :: packet.flag ::
            UInt8.ofNat (packet.cmdId.toNat / 256) :: UInt8.ofNat (packet.cmdId.toNat % 256) ::
            UInt8.ofNat (packet.id.toNat / 256) ::
            (UInt8.ofNat (packet.id.toNat % 256) :: (packet.data ++ rest)).take total := rfl
      rw [bytes] at accepted frameKnown size
      simp only [Packet.announced, Option.some.injEq] at frameKnown
      simp only [List.length_cons] at size
      rw [Packet.new_accepts _ _ _ _ _ _ _ _ (by omega)] at accepted
      obtain rfl := Except.ok.inj accepted
      have bound := (UInt8.ofNat (packet.cmdId.toNat / 256)).toNat_lt
      rw [of_bytes_value, unflagged, UInt8.toNat_zero]
      omega
  · rw [Packet.new_short _ (by omega)] at accepted
    cases accepted

/-- Behind a padding byte that stays, the next frame is not the first packet. If a packet is split
off at all, it is read one byte too early, and its command id is below those that clients send. -/
theorem padding_stays (frame : ClientFrame) (id : UInt16) (previousId : Option UInt16)
    (padding : UInt8) (rest : List UInt8) (packets : List Packet)
    (stranger : ∀ previous, previousId = some previous → id ≠ previous + 1) :
    (drain gateLoop previousId (padding :: ((frame.packet id).toBytes ++ rest))).1 ≠
      frame.received id :: packets := by
  intro same
  rw [drain_eq] at same
  cases attempt : gateLoop.split previousId (padding :: ((frame.packet id).toBytes ++ rest)) with
  | waiting left => simp [attempt] at same
  | rejected left => simp [attempt] at same
  | yielded misread next left =>
    simp only [attempt, prepend, List.cons.injEq] at same
    obtain ⟨taken, _⟩ := (turn_yielded _ _ misread next left).mp attempt
    rw [Packet.split_from_after_eq,
      Packet.drop_padding_stranger (frame.packet id) padding rest previousId stranger] at taken
    have small := misread_command (frame.packet id) misread padding rest left rfl taken
    have ordinary : 10000 ≤ misread.cmdId.toNat := by
      rw [same.1]
      exact frame.ordinary
    omega

/-- A run with a padded frame zero in front of another frame is not recovered.

Induct on the frames up to that frame. The gate still remembers an id other than
zero, and frame one is the successor of zero alone. -/
theorem run_lost (frames : List ClientFrame) (id : UInt16) (previousId : Option UInt16)
    (front : List UInt8) (nonzero : previousId ≠ some 0)
    (aligned : frames ≠ [] → Aligned previousId id front) (padded : ¬ ZeroUnpadded id frames) :
    (drain gateLoop previousId (front ++ sendRun id frames)).1 ≠ receivedRun id frames := by
  induction frames generalizing id previousId front with
  | nil => exact absurd trivial padded
  | cons frame frames inductionHypothesis =>
    have taken := gate_takes_frame frame id previousId front
      (frame.padding.toList ++ sendRun (id + 1) frames) (aligned (List.cons_ne_nil _ _))
    have kept := remember_nonzero previousId (frame.received id) nonzero
    rw [sendRun, drain_eq, taken]
    simp only [prepend, receivedRun, ne_eq, List.cons.injEq, true_and]
    by_cases here : id = 0 → frames ≠ [] → frame.padding = none
    · refine inductionHypothesis (id + 1) _ frame.padding.toList kept ?_ fun later =>
        padded ⟨here, later⟩
      intro more
      exact aligned_next frame id previousId fun zero => here zero more
    · have facts : id = 0 ∧ frames ≠ [] ∧ frame.padding ≠ none := by
        simpa only [Classical.not_imp] using here
      obtain ⟨rfl, more, some⟩ := facts
      obtain ⟨padding, behind⟩ := Option.ne_none_iff_exists'.mp some
      obtain ⟨next, others, rfl⟩ := List.exists_cons_of_ne_nil more
      rw [behind]
      apply padding_stays next (0 + 1) _ padding
      rintro previous remembered successor
      have zero : previous = 0 := by
        have values := congrArg UInt16.toNat successor
        have bound := previous.toNat_lt
        simp only [UInt16.toNat_add, UInt16.toNat_one, UInt16.toNat_zero] at values
        apply UInt16.toNat_inj.mp
        rw [UInt16.toNat_zero]
        omega
      exact kept (zero ▸ remembered)

/-- A padded run is recovered exactly when no padded frame with id zero has a frame behind it.

In one direction each padding byte in front of the next frame is recognised by the id remembered. In
the other the id before a frame with id zero is still remembered behind it, so the padding there is
taken for the front of a length field and the run is lost. -/
theorem run_recovered_iff (start : UInt16) (frames : List ClientFrame) :
    Recovered start frames ↔ ZeroUnpadded start frames := by
  constructor
  · rintro ⟨previousId, drained⟩
    by_contra padded
    exact run_lost frames start none [] (by simp) (fun _ => .inl rfl) padded
      (congrArg Prod.fst drained)
  · intro unpadded
    exact run_recovered frames start none [] (by simp) (fun _ => .inl rfl) unpadded

/-- Frames 65535, 0 and 1, the middle one padded with 1: the third is lost. -/
theorem padded_wrap_lost :
    ¬ Recovered 65535
      [⟨11017, [8, 1], none, by decide, by decide, by decide⟩,
        ⟨15008, [], some 1, by decide, by decide, by decide⟩,
        ⟨11722, [8, 93], none, by decide, by decide, by decide⟩] := by
  rintro ⟨_, drained⟩
  have packets := congrArg (fun result => result.1.length) drained
  simp only [receivedRun, List.length_cons, List.length_nil] at packets
  exact absurd packets (by decide)

end CheshireLane
