import Mathlib.Algebra.GroupWithZero.Nat
import Mathlib.Data.Nat.Log

/-!
# Sizes in the proto2 wire format

A message is a sequence of fields, each a key followed by a varint or by a
length and that many bytes. Sizes add up along the fields, so the size of a
message is known without building its bytes. `Message.bound` replaces every
integer by the largest one of 32 bits: it bounds the size of a message whose
shape is known and whose integers are not.
-/

namespace WireFormat

/-- The groups of seven bits of a value, lowest first, all but the last marked
as continued. Fuel counts the groups still allowed. -/
def varintGroups : Nat → Nat → List UInt8
  | 0, _ => []
  | fuel + 1, value =>
    if value < 128 then [UInt8.ofNat value]
    else UInt8.ofNat (value % 128 + 128) :: varintGroups fuel (value / 128)

/-- A value has no more groups than bits. -/
def encodeVarint (value : Nat) : List UInt8 := varintGroups (value.log2 + 1) value

/-- The number of groups of seven bits, at least one. -/
def varintLen (value : Nat) : Nat := Nat.log 128 value + 1

/-- The number of groups of seven bits, by induction on the fuel; each group takes away one factor
of 128. -/
theorem varint_groups_length (fuel value : Nat) (enough : value < 128 ^ fuel) (positive : 0 < fuel) :
    (varintGroups fuel value).length = varintLen value := by
  induction fuel generalizing value with
  | zero => omega
  | succ fuel inductionHypothesis =>
    by_cases small : value < 128
    · simp [varintGroups, varintLen, small, Nat.log_of_lt]
    · have quotient : value / 128 < 128 ^ fuel := by
        rw [Nat.pow_succ] at enough
        exact Nat.div_lt_of_lt_mul (by omega)
      have more : 0 < fuel := by
        rcases fuel with _ | fuel
        · simp at enough
          omega
        · omega
      have shorter := inductionHypothesis (value / 128) quotient more
      simp only [varintGroups, small, ↓reduceIte, List.length_cons, shorter, varintLen]
      rw [Nat.log_of_one_lt_of_le (by decide) (Nat.le_of_not_lt small)]

/-- The length of a varint is what `varintLen` computes without encoding. -/
theorem encode_varint_length (value : Nat) : (encodeVarint value).length = varintLen value := by
  apply varint_groups_length
  · calc value < 2 ^ (value.log2 + 1) := Nat.lt_log2_self
      _ ≤ 128 ^ (value.log2 + 1) := Nat.pow_le_pow_left (by decide) _
  · omega

/-- A larger number takes no fewer bytes. -/
theorem varint_len_mono {small large : Nat} (ordered : small ≤ large) :
    varintLen small ≤ varintLen large :=
  Nat.add_le_add_right (Nat.log_mono_right ordered) 1

/-- A varint has at least one byte, also that of zero. -/
theorem varint_len_positive (value : Nat) : 1 ≤ varintLen value := Nat.le_add_left _ _

/-- Values below 128 take one byte. -/
theorem varint_len_small {value : Nat} (small : value < 128) : varintLen value = 1 := by
  rw [varintLen, Nat.log_of_lt small]

/-- A 32-bit value takes at most five bytes. -/
theorem varint_len_uint32 (value : UInt32) : varintLen value.toNat ≤ 5 := by
  have bound := value.toNat_lt
  calc varintLen value.toNat ≤ varintLen 4294967295 := varint_len_mono (by omega)
    _ = 5 := by decide

/-- A field of a message, under its tag. -/
inductive Field where
  | uint32 (tag : Nat) (value : UInt32)
  | string (tag : Nat) (text : String)
  | message (tag : Nat) (fields : List Field)

/-- A message is its fields in the order of their tags. -/
abbrev Message := List Field

/-- The key of a varint field. -/
def varintKey (tag : Nat) : Nat := tag * 8

/-- The key of a field that starts with its length. -/
def delimitedKey (tag : Nat) : Nat := tag * 8 + 2

/-- The size of a field that starts with its length. -/
def delimitedSize (tag size : Nat) : Nat := varintLen (delimitedKey tag) + (varintLen size + size)

mutual

/-- The bytes a field takes. -/
def Field.size : Field → Nat
  | .uint32 tag value => varintLen (varintKey tag) + varintLen value.toNat
  | .string tag text => delimitedSize tag text.utf8ByteSize
  | .message tag fields => delimitedSize tag (Message.size fields)

/-- The bytes a message takes. -/
def Message.size : List Field → Nat
  | [] => 0
  | field :: fields => field.size + Message.size fields

end

/-- A length-delimited field. -/
def delimited (tag : Nat) (bytes : List UInt8) : List UInt8 :=
  encodeVarint (delimitedKey tag) ++ (encodeVarint bytes.length ++ bytes)

mutual

/-- The bytes of a field. -/
def Field.encode : Field → List UInt8
  | .uint32 tag value => encodeVarint (varintKey tag) ++ encodeVarint value.toNat
  | .string tag text => delimited tag text.toUTF8.data.toList
  | .message tag fields => delimited tag (Message.encode fields)

/-- The bytes of a message. -/
def Message.encode : List Field → List UInt8
  | [] => []
  | field :: fields => field.encode ++ Message.encode fields

end

/-- The length of a delimited field: its key, its length and its bytes. -/
theorem delimited_length (tag : Nat) (bytes : List UInt8) :
    (delimited tag bytes).length = delimitedSize tag bytes.length := by
  simp only [delimited, delimitedSize, List.length_append, encode_varint_length]

mutual

/-- The size is the number of bytes. -/
theorem Field.encode_length : ∀ field : Field, field.encode.length = field.size
  | .uint32 tag value => by
    simp only [Field.encode, Field.size, List.length_append, encode_varint_length]
  | .string tag text => by
    simp only [Field.encode, Field.size, delimited_length]
    rfl
  | .message tag fields => by
    simp only [Field.encode, Field.size, delimited_length, Message.encode_length fields]

/-- Length and size of a message agree, by induction on its fields, together with the lemma for one
field. -/
theorem Message.encode_length : ∀ fields : List Field,
    (Message.encode fields).length = Message.size fields
  | [] => rfl
  | field :: fields => by
    simp only [Message.encode, Message.size, List.length_append, Field.encode_length field,
      Message.encode_length fields]

end

/-- A message without fields takes no bytes. -/
@[simp] theorem Message.size_nil : Message.size [] = 0 := by rw [Message.size]

/-- Fields take their sizes one after the other. -/
@[simp] theorem Message.size_cons (field : Field) (fields : List Field) :
    Message.size (field :: fields) = field.size + Message.size fields := by rw [Message.size]

/-- Messages that are put together take the sum of their sizes. -/
@[simp] theorem Message.size_append (left right : List Field) :
    Message.size (left ++ right) = Message.size left + Message.size right := by
  induction left with
  | nil => simp
  | cons field fields inductionHypothesis =>
    simp only [List.cons_append, Message.size_cons, inductionHypothesis]
    omega

/-- A repeated field takes the sum of its elements. -/
theorem Message.size_map {α : Type} (encodeItem : α → Field) (items : List α) :
    Message.size (items.map encodeItem) = (items.map fun item => (encodeItem item).size).sum := by
  induction items with
  | nil => rfl
  | cons item items inductionHypothesis =>
    simp only [List.map_cons, Message.size_cons, List.sum_cons, inductionHypothesis]

/-- Tags below 16 have a one-byte key. -/
theorem varint_key_short {tag : Nat} (short : tag < 16) : varintLen (varintKey tag) = 1 :=
  varint_len_small (by simp only [varintKey]; omega)

/-- A small tag takes one byte. -/
theorem delimited_key_short {tag : Nat} (short : tag < 16) : varintLen (delimitedKey tag) = 1 :=
  varint_len_small (by simp only [delimitedKey]; omega)

/-- Values from 128 to below 2^14 take two bytes. -/
theorem varint_len_two {value : Nat} (large : 128 ≤ value) (small : value < 16384) :
    varintLen value = 2 := by
  have quotient : value / 128 < 128 := by omega
  rw [varintLen, Nat.log_of_one_lt_of_le (by decide) large, Nat.log_of_lt quotient]

/-- Tags from 16 to below 2048 have a two-byte key. -/
theorem varint_key_long {tag : Nat} (long : 16 ≤ tag) (bound : tag < 2048) :
    varintLen (varintKey tag) = 2 :=
  varint_len_two (by simp only [varintKey]; omega) (by simp only [varintKey]; omega)

/-- A larger tag takes two bytes. -/
theorem delimited_key_long {tag : Nat} (long : 16 ≤ tag) (bound : tag < 2047) :
    varintLen (delimitedKey tag) = 2 :=
  varint_len_two (by simp only [delimitedKey]; omega) (by simp only [delimitedKey]; omega)

/-- A field is a key and a value. Each takes one byte at least, so a message of one byte does not
exist. -/
theorem Field.size_two (field : Field) : 2 ≤ field.size := by
  cases field with
  | uint32 tag value =>
    have key := varint_len_positive (varintKey tag)
    have rest := varint_len_positive value.toNat
    simp only [Field.size]
    omega
  | string tag text =>
    have key := varint_len_positive (delimitedKey tag)
    have rest := varint_len_positive text.utf8ByteSize
    simp only [Field.size, delimitedSize]
    omega
  | message tag fields =>
    have key := varint_len_positive (delimitedKey tag)
    have rest := varint_len_positive (Message.size fields)
    simp only [Field.size, delimitedSize]
    omega

/-- No message is encoded in one byte. -/
theorem Message.size_ne_one (fields : List Field) : Message.size fields ≠ 1 := by
  cases fields with
  | nil => decide
  | cons field fields =>
    have two := field.size_two
    rw [Message.size_cons]
    omega

/-- A longer content makes a longer field, its length included. -/
theorem delimited_size_mono (tag : Nat) {small large : Nat} (ordered : small ≤ large) :
    delimitedSize tag small ≤ delimitedSize tag large := by
  have varint := varint_len_mono ordered
  simp only [delimitedSize]
  omega

mutual

/-- The size with every integer at its widest. -/
def Field.bound : Field → Nat
  | .uint32 tag _ => varintLen (varintKey tag) + 5
  | .string tag text => delimitedSize tag text.utf8ByteSize
  | .message tag fields => delimitedSize tag (Message.bound fields)

/-- The most that a message of this shape can take. -/
def Message.bound : List Field → Nat
  | [] => 0
  | field :: fields => field.bound + Message.bound fields

end

mutual

/-- No field exceeds its bound: numbers take five bytes at most, and nested messages are bounded in
turn. -/
theorem Field.size_le_bound : ∀ field : Field, field.size ≤ field.bound
  | .uint32 _ value => Nat.add_le_add_left (varint_len_uint32 value) _
  | .string _ _ => Nat.le_refl _
  | .message tag fields => delimited_size_mono tag (Message.size_le_bound fields)

/-- The bound holds whatever the integers are. -/
theorem Message.size_le_bound : ∀ fields : List Field, Message.size fields ≤ Message.bound fields
  | [] => Nat.le_refl _
  | field :: fields => Nat.add_le_add field.size_le_bound (Message.size_le_bound fields)

end

end WireFormat
