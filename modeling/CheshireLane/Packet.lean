import Mathlib.Data.List.Basic

/-!
# Packets on the wire

A frame is a big-endian length, a flag byte, a command id, a packet id and the
payload. The length counts the five header bytes behind it and the payload,
with one exception: length 6 announces a frame without payload, seven bytes in
all. Clients may send one padding byte behind such a frame, and the splitter
drops it when a successor of the previous packet id starts one byte later.

Reads carry the proof that they stay inside the buffer, so indexing cannot fail
anywhere below.
-/

namespace CheshireLane

/-- The big-endian value of two bytes. -/
def ofBytes (high low : UInt8) : UInt16 := UInt16.ofNat (high.toNat * 256 + low.toNat)

/-- Two bytes are read with the high one first, as the network has them. -/
@[simp] theorem of_bytes_value (high low : UInt8) :
    (ofBytes high low).toNat = high.toNat * 256 + low.toNat := by
  have highBound := high.toNat_lt
  have lowBound := low.toNat_lt
  simp only [ofBytes, UInt16.toNat_ofNat']
  omega

/-- `BigEndian::read_u16` on the two bytes at an offset. -/
def readU16 (bytes : List UInt8) (offset : Nat) (inside : offset + 2 ≤ bytes.length) : UInt16 :=
  ofBytes bytes[offset] bytes[offset + 1]

/-- `BigEndian::write_u16`. -/
def writeU16 (value : UInt16) : List UInt8 :=
  [UInt8.ofNat (value.toNat / 256), UInt8.ofNat (value.toNat % 256)]

/-- The two bytes written are read back as the same value. -/
theorem of_bytes_write (value : UInt16) :
    ofBytes (UInt8.ofNat (value.toNat / 256)) (UInt8.ofNat (value.toNat % 256)) = value := by
  have bound := value.toNat_lt
  apply UInt16.toNat_inj.mp
  rw [of_bytes_value, UInt8.toNat_ofNat', UInt8.toNat_ofNat']
  omega

/-- The bytes of a checked range. -/
def slice (bytes : List UInt8) (start stop : Nat) (_inside : stop ≤ bytes.length) : List UInt8 :=
  (bytes.drop start).take (stop - start)

/-- `PacketError`. -/
inductive PacketError where
  | tooShort
  | invalidLength
  | lenMismatch
  deriving DecidableEq, Repr

/-- The texts of the errors. -/
def PacketError.message : PacketError → String
  | .tooShort => "packet too short"
  | .invalidLength => "invalid packet length"
  | .lenMismatch => "packet length mismatch"

/-- `Packet`: the fields of a frame, and the bytes it was split from. -/
structure Packet where
  length : UInt16
  flag : UInt8
  cmdId : UInt16
  id : UInt16
  data : List UInt8
  raw : List UInt8
  deriving DecidableEq, Repr

namespace Packet

/-- `LEN_SIZE`. -/
def lenSize : Nat := 2

/-- `HEADER_SIZE`, which the length field counts. -/
def headerSize : Nat := 5

/-- `FRAME_HEADER_SIZE`: the header with the length field in front. -/
def frameHeaderSize : Nat := lenSize + headerSize

/-- Length 6 on a seven-byte frame means that there is no payload. -/
def payloadLen (length size : Nat) : Nat :=
  if length = headerSize + 1 ∧ size = frameHeaderSize then 0 else length - headerSize

/-- The length guards of `new` keep the payload inside the frame. -/
theorem payload_inside {length size : Nat} (long : ¬ size < frameHeaderSize)
    (fits : ¬ (size ≠ length + lenSize ∧
      ¬ (length = headerSize + 1 ∧ size = frameHeaderSize))) :
    7 + payloadLen length size ≤ size := by
  unfold payloadLen
  split <;> simp only [frameHeaderSize, headerSize, lenSize] at * <;> omega

/-- Accept the bytes of one frame. It refuses what is shorter than a header,
then a length below that of a header, then data of another size than announced. -/
def new (data : List UInt8) : Except PacketError Packet :=
  if long : data.length < frameHeaderSize then .error .tooShort
  else
    have header : 7 ≤ data.length := Nat.le_of_not_lt long
    let length := readU16 data 0 (by omega)
    if length.toNat ≠ headerSize + 1 ∧ length.toNat < headerSize then
      .error .invalidLength
    else if fits : data.length ≠ length.toNat + lenSize ∧
        ¬ (length.toNat = headerSize + 1 ∧ data.length = frameHeaderSize) then
      .error .lenMismatch
    else
      .ok {
        length
        flag := data.get ⟨lenSize, Nat.lt_of_lt_of_le (by decide) header⟩
        cmdId := readU16 data 3 (by omega)
        id := readU16 data 5 (by omega)
        data := slice data 7 (7 + payloadLen length.toNat data.length)
          (payload_inside long fits)
        raw := data }

/-- The length is cast to sixteen bits, so a payload above 65530 bytes wraps it. -/
def encodeRaw (cmdId id : UInt16) (data : List UInt8) : Packet where
  length := UInt16.ofNat (headerSize + data.length)
  flag := 0
  cmdId := cmdId
  id := id
  data := data
  raw := []

/-- `to_bytes`, from the fields and not from the raw bytes. -/
def toBytes (packet : Packet) : List UInt8 :=
  writeU16 packet.length ++ [packet.flag] ++ writeU16 packet.cmdId ++ writeU16 packet.id ++
    packet.data

/-- `raw_len`: a packet that was built here has no raw bytes, so its length field says how long it
is. -/
def rawLen (packet : Packet) : Nat :=
  if packet.raw.isEmpty then packet.length.toNat + lenSize else packet.raw.length

/-- Does a header of the previous packet's successor start at this offset? -/
def looksLikeNextPacket (buffer : List UInt8) (offset : Nat) (previousId : UInt16) : Bool :=
  if short : buffer.length - offset < frameHeaderSize then false
  else
    have header : offset + 7 ≤ buffer.length := by
      simp only [frameHeaderSize, lenSize, headerSize] at short
      omega
    let length := readU16 buffer offset (by omega)
    let flag := buffer.get ⟨offset + lenSize, by simp only [lenSize]; omega⟩
    let cmdId := readU16 buffer (offset + 3) (by omega)
    let packetId := readU16 buffer (offset + 5) (by omega)
    decide (headerSize ≤ length.toNat) && decide (flag = 0) && decide (10000 ≤ cmdId.toNat) &&
      decide (packetId = previousId + 1)

/-- The buffer after the padding test. Only the byte at the front can go. -/
def dropPaddingBeforeNextPacket (buffer : List UInt8) (previousId : Option UInt16) : List UInt8 :=
  match previousId with
  | none => buffer
  | some previousId =>
    if !looksLikeNextPacket buffer 0 previousId && looksLikeNextPacket buffer 1 previousId then
      buffer.drop 1
    else buffer

/-- The bytes a frame with this length field occupies. -/
def frameTotal (length : Nat) : Nat :=
  if length = headerSize + 1 then frameHeaderSize else length + lenSize

/-- Take one frame off the front, if it is complete. The second component is
the buffer the call leaves. -/
def splitFromAfter (buffer : List UInt8) (previousId : Option UInt16) :
    Option (Except PacketError Packet) × List UInt8 :=
  let buffer := dropPaddingBeforeNextPacket buffer previousId
  if short : buffer.length < lenSize then (none, buffer)
  else
    let length := (readU16 buffer 0 (Nat.le_of_not_lt short)).toNat
    let total := frameTotal length
    if buffer.length < total then (none, buffer)
    else (some (new (buffer.take total)), buffer.drop total)

/-- `split_from`: without an id remembered no padding is recognised. -/
def splitFrom (buffer : List UInt8) : Option (Except PacketError Packet) × List UInt8 :=
  splitFromAfter buffer none

end Packet

end CheshireLane
