import CheshireLane.ReadLoops

/-!
# Decoding a stream of encoded packets

The splitter undoes the encoder. A payload of one byte is the exception: its
length field 6 is read as a frame without payload. Payloads above 65530 bytes do
not fit the length field.
-/

namespace CheshireLane

open StreamSplitter

/-- What a sender puts into a packet. -/
structure Outgoing where
  cmdId : UInt16
  id : UInt16
  payload : List UInt8

namespace Outgoing

/-- The packet as `encode_raw` builds it. -/
def encoded (outgoing : Outgoing) : Packet :=
  Packet.encodeRaw outgoing.cmdId outgoing.id outgoing.payload

/-- The frame on the wire. -/
def frame (outgoing : Outgoing) : List UInt8 := outgoing.encoded.toBytes

/-- The same packet as its receiver holds it, with the frame's bytes. -/
def received (outgoing : Outgoing) : Packet := { outgoing.encoded with raw := outgoing.frame }

/-- The payload sizes that survive the round trip. -/
def Sendable (outgoing : Outgoing) : Prop :=
  outgoing.payload.length ≠ 1 ∧ outgoing.payload.length ≤ 65530

/-- A sendable payload fits the length field, so the cast keeps its value. -/
theorem encoded_length (outgoing : Outgoing) (sendable : outgoing.Sendable) :
    outgoing.encoded.length.toNat = 5 + outgoing.payload.length := by
  obtain ⟨_, fits⟩ := sendable
  simp only [encoded, Packet.encodeRaw, Packet.headerSize, UInt16.toNat_ofNat']
  omega

/-- Splitting takes exactly the frame in front, whatever follows it. -/
theorem split_frame (outgoing : Outgoing) (sendable : outgoing.Sendable) (rest : List UInt8) :
    Packet.splitFrom (outgoing.frame ++ rest) = (some (.ok outgoing.received), rest) := by
  apply Packet.split_to_bytes outgoing.encoded rest
  rw [encoded_length outgoing sendable, Packet.frame_total_eq]
  have data : outgoing.encoded.data = outgoing.payload := rfl
  obtain ⟨severalBytes, _⟩ := sendable
  rw [data]
  split <;> omega

end Outgoing

/-- Draining the frames of several packets, with fewer than two bytes behind them,
takes exactly these packets and leaves the bytes behind them.

Induct on the packets: each attempt takes the frame in front. What is left is too
short for a length field, so the last attempt waits. -/
theorem drain_frames (packets : List Outgoing) (tail : List UInt8)
    (sendable : ∀ outgoing ∈ packets, outgoing.Sendable) (short : tail.length < 2) :
    drain dispatchLoop () ((packets.map Outgoing.frame).flatten ++ tail) =
      (packets.map Outgoing.received, .pending () tail) := by
  induction packets with
  | nil =>
    have waits : Packet.splitFrom tail = (none, tail) := by
      rw [Packet.split_from_eq]
      match tail with
      | [] => rfl
      | [_] => rfl
      | _ :: _ :: rest =>
        simp only [List.length_cons] at short
        omega
    rw [List.map_nil, List.flatten_nil, List.nil_append, drain_eq,
      show dispatchLoop.split () tail = .waiting tail from (turn_waiting _ _ tail).mpr waits]
    rfl
  | cons outgoing packets inductionHypothesis =>
    have taken := outgoing.split_frame (sendable outgoing List.mem_cons_self)
      ((packets.map Outgoing.frame).flatten ++ tail)
    have onward := inductionHypothesis
      (fun later member => sendable later (List.mem_cons_of_mem _ member))
    rw [List.map_cons, List.flatten_cons, List.append_assoc, drain_eq,
      show dispatchLoop.split () _ = .yielded outgoing.received () _ from
        (turn_yielded _ _ _ _ _).mpr ⟨taken, rfl⟩]
    simp only [onward]
    rfl

/-- Splitting the concatenation of encoded packets, with fewer than two bytes behind them, yields
exactly these packets and leaves the tail.

By induction on the packets: the front frame is taken off whole, because its length field tells its
length, and what is left is the same stream without it. -/
theorem split_undoes_encode (packets : List Outgoing) (tail : List UInt8)
    (sendable : ∀ outgoing ∈ packets, outgoing.Sendable) (short : tail.length < 2) :
    drain dispatchLoop () ((packets.map Outgoing.frame).flatten ++ tail) =
        (packets.map Outgoing.received, .pending () tail) ∧
      ∀ outgoing ∈ packets,
        outgoing.received.length.toNat = 5 + outgoing.payload.length ∧
          outgoing.received.flag = 0 ∧ outgoing.received.cmdId = outgoing.cmdId ∧
          outgoing.received.id = outgoing.id ∧ outgoing.received.data = outgoing.payload ∧
          outgoing.received.raw =
            (Packet.encodeRaw outgoing.cmdId outgoing.id outgoing.payload).toBytes := by
  constructor
  · exact drain_frames packets tail sendable short
  · intro outgoing member
    exact ⟨outgoing.encoded_length (sendable outgoing member), rfl, rfl, rfl, rfl, rfl⟩

/-- An empty payload and a two-byte payload, with one byte of the next frame. -/
theorem split_undoes_encode_pair :
    drain dispatchLoop () [0, 5, 0, 247, 86, 0, 7, 0, 7, 0, 45, 202, 0, 8, 8, 93, 0] =
      ([⟨5, 0, 63318, 7, [], [0, 5, 0, 247, 86, 0, 7]⟩,
        ⟨7, 0, 11722, 8, [8, 93], [0, 7, 0, 45, 202, 0, 8, 8, 93]⟩], .pending () [0]) :=
  (split_undoes_encode [⟨63318, 7, []⟩, ⟨11722, 8, [8, 93]⟩] [0]
    (by simp [Outgoing.Sendable]) (by decide)).1

end CheshireLane
