import CheshireLane.Library.Histories
import CheshireLane.Library.Transitions
import CheshireLane.ExactFrames
import CheshireLane.ReadLoops

/-!
# Where the bytes of a gate connection go

The loop of gate `handle_client` is taken apart here: a read, and for each attempt
of the inner loop the padding test and the splitting behind it. Each of these steps
records what becomes of the bytes it moves, so the record and the buffer together
account for every byte at every point of a run.

A byte that is dropped uncovers a header of the previous packet's successor. Such
a header is recognised until its frame is taken, however many bytes arrive in
between, and in front of a recognised header nothing is dropped.
-/

namespace CheshireLane

open StreamSplitter Transitions Histories

/-- What the connection does next: wait for a read, test for padding, split off a
frame, or nothing any more. -/
inductive GatePhase where
  | reading
  | aligning
  | splitting
  | closed
  deriving DecidableEq

/-- The buffer, the id remembered, and where the loop stands. -/
structure GateState where
  phase : GatePhase
  previousId : Option UInt16
  buffer : List UInt8

/-- A read returns, or the inner loop goes on. -/
inductive GateEvent where
  | read (chunk : List UInt8)
  | proceed

/-- What became of some bytes. -/
inductive ByteRecord where
  | arrived (chunk : List UInt8)
  | dropped (padding : UInt8)
  | yielded (packet : Packet)
  | rejected (frame : List UInt8)

namespace ByteRecord

/-- The bytes that were read. -/
def received : ByteRecord → List UInt8
  | .arrived chunk => chunk
  | _ => []

/-- The bytes that have left the buffer. -/
def consumed : ByteRecord → List UInt8
  | .arrived _ => []
  | .dropped padding => [padding]
  | .yielded packet => packet.raw
  | .rejected frame => frame

/-- A padding byte that was dropped. -/
def isDropped : ByteRecord → Bool
  | .dropped _ => true
  | _ => false

/-- A packet that was split off. -/
def isPacket : ByteRecord → Bool
  | .yielded _ => true
  | _ => false

end ByteRecord

/-- The padding test, with the byte it dropped. -/
def alignBuffer (state : GateState) : GateState × List ByteRecord :=
  let aligned := Packet.dropPaddingBeforeNextPacket state.buffer state.previousId
  ({ state with phase := .splitting, buffer := aligned },
    (state.buffer.take (state.buffer.length - aligned.length)).map .dropped)

/-- The rest of an attempt. A rejected frame is what the buffer has lost. -/
def splitBuffer (state : GateState) : GateState × List ByteRecord :=
  match Packet.splitFrom state.buffer with
  | (none, rest) => ({ state with phase := .reading, buffer := rest }, [])
  | (some (.ok packet), rest) =>
    ({ phase := .aligning, previousId := rememberId state.previousId packet, buffer := rest },
      [.yielded packet])
  | (some (.error _), rest) =>
    ({ state with phase := .closed, buffer := rest },
      [.rejected (state.buffer.take (state.buffer.length - rest.length))])

/-- The steps of a connection. A read without bytes is the end of the stream. -/
def gateClient : Machine GateState GateEvent (List ByteRecord) where
  step state event :=
    match state.phase, event with
    | .reading, .read [] => some ({ state with phase := .closed }, [])
    | .reading, .read chunk =>
      some ({ state with phase := .aligning, buffer := state.buffer ++ chunk }, [.arrived chunk])
    | .aligning, .proceed => some (alignBuffer state)
    | .splitting, .proceed => some (splitBuffer state)
    | _, _ => none

/-- A connection that has just been accepted. -/
def GateState.accepted : GateState := ⟨.reading, none, []⟩

/-- The two parts of an attempt are `split_from_after`. -/
theorem align_then_split (state : GateState) :
    Packet.splitFrom (alignBuffer state).1.buffer =
      Packet.splitFromAfter state.buffer state.previousId := rfl

/-- What a step can be. An attempt drops at most one padding byte and then splits off at most one
frame. -/
inductive GateStep (state : GateState) : GateEvent → GateState → List ByteRecord → Prop
  | ended (waiting : state.phase = .reading) :
      GateStep state (.read []) { state with phase := .closed } []
  | arrived (chunk : List UInt8) (waiting : state.phase = .reading) :
      GateStep state (.read chunk)
        { state with phase := .aligning, buffer := state.buffer ++ chunk } [.arrived chunk]
  | kept (phase : state.phase = .aligning) :
      GateStep state .proceed { state with phase := .splitting } []
  | dropped (previous : UInt16) (padding : UInt8) (rest : List UInt8)
      (phase : state.phase = .aligning) (remembered : state.previousId = some previous)
      (front : state.buffer = padding :: rest)
      (misaligned : Packet.looksLikeNextPacket state.buffer 0 previous = false)
      (found : Packet.looksLikeNextPacket rest 0 previous = true) :
      GateStep state .proceed { state with phase := .splitting, buffer := rest } [.dropped padding]
  | waited (phase : state.phase = .splitting) :
      GateStep state .proceed { state with phase := .reading } []
  | yielded (packet : Packet) (rest : List UInt8) (phase : state.phase = .splitting)
      (front : state.buffer = packet.raw ++ rest) :
      GateStep state .proceed
        { phase := .aligning, previousId := rememberId state.previousId packet, buffer := rest }
        [.yielded packet]
  | rejected (frame rest : List UInt8) (phase : state.phase = .splitting)
      (front : state.buffer = frame ++ rest) :
      GateStep state .proceed { state with phase := .closed, buffer := rest } [.rejected frame]

/-- The padding test keeps the buffer or drops its first byte. -/
theorem align_cases {state : GateState} (phase : state.phase = .aligning) :
    GateStep state .proceed (alignBuffer state).1 (alignBuffer state).2 := by
  unfold alignBuffer
  rcases Packet.drop_padding_cases state.buffer state.previousId with
    ⟨kept, _⟩ | ⟨previous, padding, rest, remembered, front, misaligned, found, dropped⟩
  · simpa only [kept, Nat.sub_self, List.take_zero, List.map_nil] using GateStep.kept phase
  · have one : (padding :: rest).length - rest.length = 1 := by simp
    have step := GateStep.dropped previous padding rest phase remembered front misaligned found
    rw [dropped]
    simpa only [front, one, List.take_succ_cons, List.take_zero, List.map_cons,
      List.map_nil] using step

/-- The rest of an attempt waits, or takes a frame off the front. `split_from` decides on the front
alone, so what it takes is one frame and the rest is left as it is. -/
theorem split_cases {state : GateState} (phase : state.phase = .splitting) :
    GateStep state .proceed (splitBuffer state).1 (splitBuffer state).2 := by
  unfold splitBuffer
  rcases attempt : Packet.splitFrom state.buffer with ⟨_ | verdict, rest⟩
  · obtain rfl := Packet.split_from_waits state.buffer rest attempt
    exact .waited phase
  · obtain ⟨front, _, joined, only⟩ := Packet.split_from_alone state.buffer rest verdict attempt
    cases verdict with
    | error error =>
      have size : state.buffer.length - rest.length = front.length := by
        rw [joined, List.length_append, Nat.add_sub_cancel]
      simp only [size]
      rw [joined, List.take_left]
      exact .rejected front rest phase joined
    | ok packet =>
      obtain ⟨total, _, complete, accepted, nothing⟩ := Packet.split_from_takes front [] _ only
      have whole : front.take total = front :=
        List.take_of_length_le (List.drop_eq_nil_iff.mp nothing.symm)
      rw [whole] at accepted
      have raw := (Packet.new_written front packet accepted.symm).2.1
      exact .yielded packet rest phase (raw ▸ joined)

/-- Everything a step of the loop can do. The accounting is derived from these cases. A proceeding
task is either at the padding test or at the splitter, which its phase tells. -/
theorem gate_step_cases {state next : GateState} {event : GateEvent} {label : List ByteRecord}
    (taken : gateClient.step state event = some (next, label)) :
    GateStep state event next label := by
  simp only [gateClient] at taken
  split at taken
  · next waiting =>
    cases taken
    exact .ended waiting
  · next chunk _ waiting =>
    cases taken
    exact .arrived chunk waiting
  · next phase =>
    have step := align_cases phase
    rwa [Option.some.inj taken] at step
  · next phase =>
    have step := split_cases phase
    rwa [Option.some.inj taken] at step
  · cases taken

/-- The header of the remembered packet's successor stands at the front. -/
def Recognised (state : GateState) : Prop :=
  ∃ previous, state.previousId = some previous ∧
    Packet.looksLikeNextPacket state.buffer 0 previous = true

/-- What the record says about the connection. All bytes received were dropped, handed on or
rejected, or they are still in the buffer. The other fields say where a dropped byte may stand, and
that nothing follows a rejected frame. -/
structure Accounted (record : List ByteRecord) (state : GateState) : Prop where
  bytes : record.flatMap ByteRecord.received = record.flatMap ByteRecord.consumed ++ state.buffer
  sparse : Sparse ByteRecord.isDropped ByteRecord.isPacket record
  recognised : Spent ByteRecord.isDropped ByteRecord.isPacket record →
    state.phase = .closed ∨ Recognised state
  remembered : ∀ id, state.previousId = some id →
    ∃ packet, .yielded packet ∈ record ∧ packet.id ≠ 0
  numbered : ∀ before padding after, record = before ++ .dropped padding :: after →
    ∃ packet, .yielded packet ∈ before ∧ packet.id ≠ 0
  final : ∀ before frame after, record = before ++ .rejected frame :: after → after = []
  ongoing : state.phase ≠ .closed → ∀ frame, .rejected frame ∉ record

namespace Accounted

variable {record : List ByteRecord} {state next : GateState}

/-- An accepted connection has received and consumed nothing. -/
theorem accepted : Accounted [] .accepted where
  bytes := rfl
  sparse := sparse_nil
  recognised spent := absurd spent spent_nil
  remembered _ known := by cases known
  numbered before _ _ joined := by simp at joined
  final before _ _ joined := by simp at joined
  ongoing _ _ member := by simp at member

/-- A step that moves no byte. -/
theorem silent (accounted : Accounted record state) (buffer : next.buffer = state.buffer)
    (previousId : next.previousId = state.previousId) (wasOpen : state.phase ≠ .closed) :
    Accounted record next where
  bytes := by rw [buffer, accounted.bytes]
  sparse := accounted.sparse
  recognised spent := by
    obtain ⟨previous, remembered, found⟩ := (accounted.recognised spent).resolve_left wasOpen
    exact .inr ⟨previous, previousId.trans remembered, by rw [buffer, found]⟩
  remembered id known := accounted.remembered id (previousId.symm.trans known)
  numbered := accounted.numbered
  final := accounted.final
  ongoing _ := accounted.ongoing wasOpen

/-- A step that records what it moved. The account grows by one entry at its end. Whatever is said
of an earlier entry was said before, so each field looks at the new entry and falls back on the old
account. -/
theorem append (accounted : Accounted record state) (event : ByteRecord)
    (wasOpen : state.phase ≠ .closed)
    (moved : state.buffer ++ event.received = event.consumed ++ next.buffer)
    (fresh : event.isDropped = true →
      ¬ Spent ByteRecord.isDropped ByteRecord.isPacket record ∧ ∃ id, state.previousId = some id)
    (recognised : Spent ByteRecord.isDropped ByteRecord.isPacket (record ++ [event]) →
      next.phase = .closed ∨ Recognised next)
    (remembered : ∀ id, next.previousId = some id → state.previousId = some id ∨
      ∃ packet, event = .yielded packet ∧ packet.id ≠ 0)
    (closes : ∀ frame, event = .rejected frame → next.phase = .closed) :
    Accounted (record ++ [event]) next where
  bytes := by
    rw [List.flatMap_append, List.flatMap_append, accounted.bytes, List.flatMap_singleton,
      List.flatMap_singleton, List.append_assoc, List.append_assoc, moved]
  sparse := sparse_append accounted.sparse fun counted => (fresh counted).1
  recognised := recognised
  remembered id known := by
    rcases remembered id known with before | ⟨packet, rfl, nonzero⟩
    · obtain ⟨packet, member, nonzero⟩ := accounted.remembered id before
      exact ⟨packet, List.mem_append_left _ member, nonzero⟩
    · exact ⟨packet, by simp, nonzero⟩
  numbered before padding after joined := by
    rcases append_at joined with ⟨_, rfl, rfl⟩ | ⟨shorter, _, earlier⟩
    · obtain ⟨id, known⟩ := (fresh rfl).2
      exact accounted.remembered id known
    · exact accounted.numbered before padding shorter earlier
  final before frame after joined := by
    rcases append_at joined with ⟨last, _⟩ | ⟨shorter, _, earlier⟩
    · exact last
    · exact absurd (by simp [earlier]) (accounted.ongoing wasOpen frame)
  ongoing stillOpen frame member := by
    rcases List.mem_append.mp member with earlier | here
    · exact accounted.ongoing wasOpen frame earlier
    · exact stillOpen (closes frame (List.mem_singleton.mp here).symm)

/-- Every step keeps the account. The one subtle case is a dropped byte: a second one in a row would
mean that a header was recognised and then passed over, which the test excludes. -/
theorem step {event : GateEvent} {label : List ByteRecord} (accounted : Accounted record state)
    (taken : gateClient.step state event = some (next, label)) :
    Accounted (record ++ label) next := by
  cases gate_step_cases taken with
  | ended waiting =>
    rw [List.append_nil]
    exact accounted.silent rfl rfl (by simp [waiting])
  | arrived chunk waiting =>
    refine accounted.append (.arrived chunk) (by simp [waiting]) rfl (fun impossible => ?_) ?_
      (fun id known => .inl known) (fun frame impossible => ?_)
    · cases impossible
    · intro spent
      obtain ⟨previous, remembered, found⟩ :=
        (accounted.recognised (spent_idle rfl spent)).resolve_left (by simp [waiting])
      refine .inr ⟨previous, remembered, ?_⟩
      rw [Packet.looks_append _ chunk 0 previous (Packet.looks_length _ 0 previous found), found]
    · cases impossible
  | kept phase =>
    rw [List.append_nil]
    exact accounted.silent rfl rfl (by simp [phase])
  | dropped previous padding rest phase remembered front misaligned found =>
    refine accounted.append (.dropped padding) (by simp [phase]) ?_ (fun _ => ⟨?_, previous, remembered⟩)
      (fun _ => .inr ⟨previous, remembered, found⟩) (fun id known => .inl known)
      (fun frame impossible => ?_)
    · simp [ByteRecord.received, ByteRecord.consumed, front]
    · -- A header that is recognised is not passed over.
      intro spent
      obtain ⟨other, same, already⟩ :=
        (accounted.recognised spent).resolve_left (by simp [phase])
      obtain rfl : other = previous := Option.some.inj (same.symm.trans remembered)
      rw [misaligned] at already
      cases already
    · cases impossible
  | waited phase =>
    rw [List.append_nil]
    exact accounted.silent rfl rfl (by simp [phase])
  | yielded packet rest phase front =>
    refine accounted.append (.yielded packet) (by simp [phase]) ?_ (fun impossible => ?_)
      (fun spent => absurd spent (spent_reset rfl)) ?_ (fun frame impossible => ?_)
    · simp [ByteRecord.received, ByteRecord.consumed, front]
    · cases impossible
    · intro id known
      simp only [rememberId] at known
      split at known
      · next nonzero => exact .inr ⟨packet, rfl, nonzero⟩
      · exact .inl known
    · cases impossible
  | rejected frame rest phase front =>
    refine accounted.append (.rejected frame) (by simp [phase]) ?_ (fun impossible => ?_)
      (fun _ => .inl rfl) (fun id known => .inl known) (fun _ _ => rfl)
    · simp [ByteRecord.received, ByteRecord.consumed, front]
    · cases impossible

/-- Every run keeps the account. -/
theorem run (events : List GateEvent) (last : GateState) (labels : List (List ByteRecord))
    (ran : gateClient.run .accepted events = some (last, labels)) :
    Accounted labels.flatten last := by
  refine Machine.run_always (fun labels state => Accounted labels.flatten state) ?_ events _ last
    labels accepted ran
  intro labels state event next label accounted taken
  rw [List.flatten_concat]
  exact accounted.step taken

end Accounted

/-- The packets among the records. -/
def yieldedPackets (record : List ByteRecord) : List Packet :=
  record.filterMap fun
    | .yielded packet => some packet
    | _ => none

/-- The packets of two stretches are those of the first and then those of the second. -/
theorem yielded_append (record more : List ByteRecord) :
    yieldedPackets (record ++ more) = yieldedPackets record ++ yieldedPackets more :=
  List.filterMap_append

/-- The state in which the inner loop ends. -/
def LeftBy (ending : Ending (Option UInt16) UInt8) (state : GateState) : Prop :=
  match ending with
  | .pending previousId rest => state = ⟨.reading, previousId, rest⟩
  | .failed rest => state.phase = .closed ∧ state.buffer = rest

/-- One attempt is two steps. -/
theorem attempt_steps (previousId : Option UInt16) (buffer : List UInt8) :
    ∃ aligned, ∃ dropped : List ByteRecord, yieldedPackets dropped = [] ∧
      gateClient.step ⟨.aligning, previousId, buffer⟩ .proceed = some (aligned, dropped) ∧
      gateClient.step aligned .proceed = some (splitBuffer aligned) ∧
      aligned.previousId = previousId ∧
      Packet.splitFrom aligned.buffer = Packet.splitFromAfter buffer previousId := by
  refine ⟨_, _, ?_, rfl, rfl, rfl, align_then_split ⟨.aligning, previousId, buffer⟩⟩
  apply List.filterMap_eq_nil_iff.mpr
  intro event member
  obtain ⟨padding, _, rfl⟩ := List.mem_map.mp member
  rfl

/-- The inner loop ends on every buffer, after at most two steps for every two
bytes and one more attempt, and it does what `gateLoop` does.

Induct on the buffer length: a frame that was taken leaves two bytes less. -/
theorem inner_loop_ends (previousId : Option UInt16) (buffer : List UInt8) :
    ∃ steps last labels, steps ≤ 2 * (buffer.length / 2 + 1) ∧
      gateClient.run ⟨.aligning, previousId, buffer⟩ (List.replicate steps .proceed) =
        some (last, labels) ∧
      yieldedPackets labels.flatten = (drain gateLoop previousId buffer).1 ∧
      LeftBy (drain gateLoop previousId buffer).2 last := by
  induction size : buffer.length using Nat.strongRecOn generalizing previousId buffer with
  | ind size inductionHypothesis =>
    obtain ⟨aligned, dropped, silent, first, second, remembered, same⟩ :=
      attempt_steps previousId buffer
    rw [drain_eq]
    rcases attempt : Packet.splitFromAfter buffer previousId with ⟨_ | _ | packet, rest⟩
    · have waited : gateLoop.split previousId buffer = .waiting rest :=
        (turn_waiting _ _ rest).mpr attempt
      refine ⟨2, ⟨.reading, previousId, rest⟩, [dropped, []], by omega, ?_, ?_, ?_⟩
      · rw [List.replicate_succ, Machine.run_step first, List.replicate_one,
          Machine.run_step second]
        simp [same, attempt, remembered, Machine.run]
      · simpa [waited] using silent
      · simp [waited, LeftBy]
    · next error =>
      have rejected : gateLoop.split previousId buffer = .rejected rest :=
        (turn_rejected _ _ rest).mpr ⟨error, attempt⟩
      refine ⟨2, ⟨.closed, previousId, rest⟩, [dropped, (splitBuffer aligned).2], by omega, ?_, ?_, ?_⟩
      · rw [List.replicate_succ, Machine.run_step first, List.replicate_one,
          Machine.run_step second]
        simp [splitBuffer, same, attempt, remembered, Machine.run]
      · simp only [splitBuffer, same, attempt, rejected]
        simpa [yieldedPackets] using silent
      · simp [rejected, LeftBy]
    · have taken : gateLoop.split previousId buffer =
          .yielded packet (rememberId previousId packet) rest :=
        (turn_yielded _ _ packet _ rest).mpr ⟨attempt, rfl⟩
      have consumed := split_from_after_consumes buffer rest previousId _ attempt
      obtain ⟨steps, last, labels, few, ran, packets, left⟩ := inductionHypothesis rest.length
        (by omega) (rememberId previousId packet) rest rfl
      refine ⟨steps + 2, last, dropped :: [.yielded packet] :: labels, by omega, ?_, ?_, ?_⟩
      · rw [List.replicate_succ, Machine.run_step first, List.replicate_succ,
          Machine.run_step second]
        simp [same, attempt, remembered, ran]
      · simp only [taken, prepend, ← packets]
        rw [List.flatten_cons, yielded_append, silent, List.nil_append]
        rfl
      · simpa [taken, prepend] using left

/-- No byte is lost, duplicated or reordered. At every point of every run, the bytes
read so far are those recorded as consumed, in order, followed by the buffer.
Wherever no packet was yielded at most one byte was dropped, a drop has a packet
with a nonzero id in front of it, and a rejected frame is the last record. The inner
loop ends on every buffer. -/
theorem gate_bytes_accounted (events : List GateEvent) (last : GateState)
    (labels : List (List ByteRecord))
    (ran : gateClient.run .accepted events = some (last, labels)) :
    labels.flatten.flatMap ByteRecord.received =
        labels.flatten.flatMap ByteRecord.consumed ++ last.buffer ∧
      (∀ before middle after, labels.flatten = before ++ middle ++ after →
        (∀ event ∈ middle, event.isPacket = false) → middle.countP ByteRecord.isDropped ≤ 1) ∧
      (∀ before padding after, labels.flatten = before ++ .dropped padding :: after →
        ∃ packet, .yielded packet ∈ before ∧ packet.id ≠ 0) ∧
      (∀ before frame after, labels.flatten = before ++ .rejected frame :: after → after = []) ∧
      ∀ previousId buffer, ∃ steps final tail, steps ≤ 2 * (buffer.length / 2 + 1) ∧
        gateClient.run ⟨.aligning, previousId, buffer⟩ (List.replicate steps .proceed) =
          some (final, tail) ∧
        (final.phase = .reading ∨ final.phase = .closed) := by
  have accounted := Accounted.run events last labels ran
  refine ⟨accounted.bytes, accounted.sparse, accounted.numbered, accounted.final, ?_⟩
  intro previousId buffer
  obtain ⟨steps, final, tail, few, ended, _, left⟩ := inner_loop_ends previousId buffer
  refine ⟨steps, final, tail, few, ended, ?_⟩
  unfold LeftBy at left
  split at left
  · exact .inl (by rw [left])
  · exact .inr left.1

/-- An empty frame, its padding byte, and a frame that arrives in two pieces. -/
theorem gate_bytes_accounted_padding :
    let events : List GateEvent :=
      [.read [0, 6, 0, 58, 160, 0, 22, 1, 0, 7, 0, 45], .proceed, .proceed, .proceed, .proceed,
        .read [202, 0, 23, 8, 93], .proceed, .proceed, .proceed, .proceed]
    let labels : List (List ByteRecord) :=
      [[.arrived [0, 6, 0, 58, 160, 0, 22, 1, 0, 7, 0, 45]], [],
        [.yielded ⟨6, 0, 15008, 22, [], [0, 6, 0, 58, 160, 0, 22]⟩], [], [],
        [.arrived [202, 0, 23, 8, 93]], [.dropped 1],
        [.yielded ⟨7, 0, 11722, 23, [8, 93], [0, 7, 0, 45, 202, 0, 23, 8, 93]⟩], [], []]
    gateClient.run .accepted events = some (⟨.reading, some 23, []⟩, labels) ∧
      labels.flatten.flatMap ByteRecord.received =
        labels.flatten.flatMap ByteRecord.consumed ++ [] := by
  intro events labels
  have ran : gateClient.run .accepted events = some (⟨.reading, some 23, []⟩, labels) := rfl
  exact ⟨ran, (gate_bytes_accounted events _ labels ran).1⟩

end CheshireLane
