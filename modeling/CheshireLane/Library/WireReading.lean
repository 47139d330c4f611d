import CheshireLane.Library.WireFormat

/-!
# Reading the proto2 wire format

A reader knows from the schema of a message what stands under each tag and which tags
it must have. It reads a key, and a varint or as many bytes as the varint says; nested
messages are read by their own schemas. A message that a schema accepts is read back
from its bytes, field by field, so no two accepted messages share an encoding.
-/

namespace WireFormat

/-- The first varint of the bytes, and what is behind it. Seven bits come with each byte, the lowest
first, and the top bit says whether more follow. -/
def readVarint : List UInt8 → Option (Nat × List UInt8)
  | [] => none
  | byte :: rest =>
    if byte.toNat < 128 then some (byte.toNat, rest)
    else
      match readVarint rest with
      | some (value, rest) => some (byte.toNat - 128 + 128 * value, rest)
      | none => none

/-- What stands behind a key. -/
inductive Content where
  | varint (value : Nat)
  | bytes (content : List UInt8)

/-- A field before its schema is consulted. -/
structure Item where
  tag : Nat
  content : Content

/-- The first field of the bytes. The low three bits of its key tell a varint from a
length with that many bytes behind it. -/
def readItem (bytes : List UInt8) : Option (Item × List UInt8) :=
  (readVarint bytes).bind fun (key, rest) =>
    (readVarint rest).bind fun (value, rest) =>
      if key % 8 = 0 then some (⟨key / 8, .varint value⟩, rest)
      else if key % 8 = 2 ∧ value ≤ rest.length then
        some (⟨key / 8, .bytes (rest.take value)⟩, rest.drop value)
      else none

/-- All fields of the bytes. Fuel counts the fields still allowed. -/
def readItems : Nat → List UInt8 → Option (List Item)
  | _, [] => some []
  | 0, _ :: _ => none
  | fuel + 1, byte :: bytes =>
    (readItem (byte :: bytes)).bind fun (item, rest) =>
      (readItems fuel rest).map fun items => item :: items

/-- What a schema has under a tag. A nested message has tags that are required of it, and kinds of its
own. -/
inductive Kind where
  | integer
  | text
  | message (required : List Nat) (kinds : List (Nat × Kind))

/-- The definition of a message: the tags it must have and what stands under each tag. -/
structure Schema where
  required : List Nat
  kinds : List (Nat × Kind)

/-- Messages of a schema as the fields of another one. -/
def Schema.nested (schema : Schema) : Kind := .message schema.required schema.kinds

/-- The tag of a field, whatever its kind. -/
def Field.tag : Field → Nat
  | .uint32 tag _ | .string tag _ | .message tag _ => tag

/-- There is a field under each of some tags. -/
def Message.has (required : List Nat) (fields : Message) : Bool :=
  required.all fun tag => fields.any fun field => field.tag == tag

mutual

/-- A field is of the kind its tag has, and a nested message has what is required of it. -/
def Field.conforms (kinds : List (Nat × Kind)) : Field → Bool
  | .uint32 tag _ => match kinds.lookup tag with
    | some .integer => true
    | _ => false
  | .string tag _ => match kinds.lookup tag with
    | some .text => true
    | _ => false
  | .message tag fields => match kinds.lookup tag with
    | some (.message required inner) => Message.has required fields && Message.conforms inner fields
    | _ => false

/-- Every field is of the kind its tag has. -/
def Message.conforms (kinds : List (Nat × Kind)) : List Field → Bool
  | [] => true
  | field :: fields => field.conforms kinds && Message.conforms kinds fields

end

/-- A message is one of a schema if it has what is required and every field is of its kind. -/
def Schema.accepts (schema : Schema) (fields : Message) : Bool :=
  Message.has schema.required fields && Message.conforms schema.kinds fields

/-- The field an item is under the schema. Integers have 32 bits, texts are UTF-8, and
`inner` reads a nested message by its own schema. -/
def Item.field (kinds : List (Nat × Kind)) (inner : Schema → List UInt8 → Option Message)
    (item : Item) : Option Field :=
  match kinds.lookup item.tag, item.content with
  | some .integer, .varint value =>
    if value < 2 ^ 32 then some (.uint32 item.tag (UInt32.ofNat value)) else none
  | some .text, .bytes content =>
    (String.fromUTF8? ⟨content.toArray⟩).map (.string item.tag)
  | some (.message required nested), .bytes content =>
    (inner ⟨required, nested⟩ content).map (.message item.tag)
  | _, _ => none

/-- Read a message by its schema, with nested messages up to a depth. A message that lacks a field its
schema requires is refused, and so is one that holds such a message. -/
def readDepth : Nat → Schema → List UInt8 → Option Message
  | 0, _, _ => none
  | depth + 1, schema, bytes =>
    ((readItems bytes.length bytes).bind fun items =>
      items.mapM (Item.field schema.kinds (readDepth depth))).filter (Message.has schema.required)

/-- A nested message is shorter than the one around it, which bounds the depth. -/
def readMessage (schema : Schema) (bytes : List UInt8) : Option Message :=
  readDepth (bytes.length + 1) schema bytes

/-- A varint is read back, whatever is behind it. By induction on the fuel: the top bit says whether
another group follows, so reading stops where writing did. -/
theorem read_varint_groups (fuel value : Nat) (rest : List UInt8) (enough : value < 128 ^ fuel)
    (positive : 0 < fuel) : readVarint (varintGroups fuel value ++ rest) = some (value, rest) := by
  induction fuel generalizing value with
  | zero => omega
  | succ fuel inductionHypothesis =>
    by_cases small : value < 128
    · have byte : (UInt8.ofNat value).toNat = value := by
        rw [UInt8.toNat_ofNat']
        omega
      simp only [varintGroups, small, ↓reduceIte, List.singleton_append, readVarint, byte]
    · have quotient : value / 128 < 128 ^ fuel := by
        rw [Nat.pow_succ] at enough
        exact Nat.div_lt_of_lt_mul (by omega)
      have more : 0 < fuel := by
        rcases fuel with _ | fuel
        · simp at enough
          omega
        · omega
      have byte : (UInt8.ofNat (value % 128 + 128)).toNat = value % 128 + 128 := by
        rw [UInt8.toNat_ofNat']
        omega
      have later := inductionHypothesis (value / 128) quotient more
      have marked : ¬ value % 128 + 128 < 128 := by omega
      simp only [varintGroups, small, ↓reduceIte, List.cons_append, readVarint, byte, marked, later]
      congr 2
      omega

/-- A varint is read back, and the bytes behind it are left. By induction on its groups. -/
theorem read_varint_encode (value : Nat) (rest : List UInt8) :
    readVarint (encodeVarint value ++ rest) = some (value, rest) := by
  apply read_varint_groups
  · calc value < 2 ^ (value.log2 + 1) := Nat.lt_log2_self
      _ ≤ 128 ^ (value.log2 + 1) := Nat.pow_le_pow_left (by decide) _
  · omega

/-- The item a field is on the wire. -/
def Field.item : Field → Item
  | .uint32 tag value => ⟨tag, .varint value.toNat⟩
  | .string tag text => ⟨tag, .bytes text.toUTF8.data.toList⟩
  | .message tag fields => ⟨tag, .bytes (Message.encode fields)⟩

/-- A delimited field is read back with its content, and the bytes behind it are left. -/
theorem read_item_delimited (tag : Nat) (content rest : List UInt8) :
    readItem (delimited tag content ++ rest) = some (⟨tag, .bytes content⟩, rest) := by
  have wire : (tag * 8 + 2) % 8 = 2 := by omega
  have number : (tag * 8 + 2) / 8 = tag := by omega
  have inside : content.length ≤ (content ++ rest).length := by
    rw [List.length_append]
    omega
  simp [readItem, delimited, delimitedKey, read_varint_encode, wire, number]

/-- A field is read back, whatever is behind it. -/
theorem read_item_encode (field : Field) (rest : List UInt8) :
    readItem (field.encode ++ rest) = some (field.item, rest) := by
  cases field with
  | uint32 tag value =>
    have wire : tag * 8 % 8 = 0 := by omega
    have number : tag * 8 / 8 = tag := by omega
    simp [readItem, Field.encode, Field.item, varintKey, read_varint_encode, wire]
  | string tag text => rw [Field.encode, Field.item, read_item_delimited]
  | message tag fields => rw [Field.encode, Field.item, read_item_delimited]

/-- The fields are read back in order; each takes a byte at least, so the bytes are fuel enough. By
induction on the fields. The wire type in the key tells how far the value goes. -/
theorem read_items_encode (fields : Message) (fuel : Nat)
    (enough : (Message.encode fields).length ≤ fuel) :
    readItems fuel (Message.encode fields) = some (fields.map Field.item) := by
  induction fields generalizing fuel with
  | nil => cases fuel <;> simp [Message.encode, readItems]
  | cons field fields inductionHypothesis =>
    have size := field.encode_length
    have two := field.size_two
    rw [Message.encode, List.length_append] at enough
    have read := read_item_encode field (Message.encode fields)
    rw [Message.encode]
    cases bytes : field.encode with
    | nil =>
      rw [bytes] at size
      simp only [List.length_nil] at size
      omega
    | cons byte more =>
      rw [bytes, List.cons_append] at read
      rw [bytes, List.length_cons] at enough
      obtain ⟨fuel, rfl⟩ : ∃ smaller, fuel = smaller + 1 := ⟨fuel - 1, by omega⟩
      simp only [List.cons_append, readItems, read, Option.bind_some,
        inductionHypothesis fuel (by omega), Option.map_some, List.map_cons]

/-- A text is read back from its bytes. -/
theorem from_utf8_bytes (text : String) :
    String.fromUTF8? ⟨text.toUTF8.data.toList.toArray⟩ = some text := by
  have same : (⟨text.toUTF8.data.toList.toArray⟩ : ByteArray) = text.toUTF8 := by simp
  rw [same]
  exact dif_pos text.isValidUTF8

/-- A message nested in another is encoded in fewer bytes. -/
theorem nested_shorter (tag : Nat) (inner fields : Message)
    (member : Field.message tag inner ∈ fields) :
    (Message.encode inner).length < (Message.encode fields).length := by
  induction fields with
  | nil => cases member
  | cons field fields inductionHypothesis =>
    rw [Message.encode, List.length_append]
    rcases List.mem_cons.mp member with rfl | later
    · have key := varint_len_positive (delimitedKey tag)
      have whole := (Field.message tag inner).encode_length
      rw [Field.size, delimitedSize, ← Message.encode_length inner] at whole
      omega
    · have shorter := inductionHypothesis later
      omega

/-- A message conforms if each of its fields does. -/
theorem Message.conforms_iff (kinds : List (Nat × Kind)) (fields : Message) :
    Message.conforms kinds fields = true ↔ ∀ field ∈ fields, field.conforms kinds = true := by
  induction fields with
  | nil => simp [Message.conforms]
  | cons field fields inductionHypothesis =>
    simp [Message.conforms, inductionHypothesis]

/-- The kinds are checked field by field, so the parts of a message conform on their own. -/
theorem Message.conforms_append (kinds : List (Nat × Kind)) (left right : Message) :
    Message.conforms kinds (left ++ right) =
      (Message.conforms kinds left && Message.conforms kinds right) := by
  induction left with
  | nil => rfl
  | cons field fields inductionHypothesis =>
    rw [List.cons_append, Message.conforms, Message.conforms, inductionHypothesis, Bool.and_assoc]

/-- A repeated field conforms when its elements do. -/
theorem Message.conforms_map {α : Type} (kinds : List (Nat × Kind)) (encodeItem : α → Field)
    (items : List α) (each : ∀ item ∈ items, (encodeItem item).conforms kinds = true) :
    Message.conforms kinds (items.map encodeItem) = true := by
  rw [Message.conforms_iff]
  intro field member
  obtain ⟨item, present, rfl⟩ := List.mem_map.mp member
  exact each item present

/-- An accepted message has what is required of it, and its fields are of their kinds. -/
theorem Schema.accepts_iff (schema : Schema) (fields : Message) :
    schema.accepts fields = true ↔
      Message.has schema.required fields = true ∧ Message.conforms schema.kinds fields = true := by
  rw [Schema.accepts, Bool.and_eq_true]

/-- An accepted message is read back.

Induct on the depth. An integer has its 32 bits and a text its own bytes; a nested
message is shorter, so one level less is deep enough for it. -/
theorem read_depth_encode (depth : Nat) (schema : Schema) (fields : Message)
    (accepted : schema.accepts fields = true) (deep : (Message.encode fields).length < depth) :
    readDepth depth schema (Message.encode fields) = some fields := by
  induction depth generalizing schema fields with
  | zero => omega
  | succ depth inductionHypothesis =>
    obtain ⟨held, conforming⟩ := (schema.accepts_iff fields).mp accepted
    rw [readDepth, read_items_encode fields _ (Nat.le_refl _), Option.bind_some]
    have each : ∀ field ∈ fields,
        Item.field schema.kinds (readDepth depth) field.item = some field := by
      intro field member
      have conforms := (Message.conforms_iff schema.kinds fields).mp conforming field member
      cases field with
      | uint32 tag value =>
        have small : value.toNat < 2 ^ 32 := value.toNat_lt
        simp only [Field.conforms] at conforms
        split at conforms
        · next found =>
          simp only [Field.item, Item.field, found, small, ↓reduceIte, UInt32.ofNat_toNat]
        · cases conforms
      | string tag text =>
        simp only [Field.conforms] at conforms
        split at conforms
        · next found =>
          simp only [Field.item, Item.field, found, from_utf8_bytes, Option.map_some]
        · cases conforms
      | message tag inner =>
        simp only [Field.conforms] at conforms
        split at conforms
        · next required nested found =>
          have shorter := nested_shorter tag inner fields member
          have read := inductionHypothesis ⟨required, nested⟩ inner conforms (by omega)
          simp only [Field.item, Item.field, found, read, Option.map_some]
        · cases conforms
    have all : (fields.map Field.item).mapM (Item.field schema.kinds (readDepth depth)) =
        some fields := by
      clear conforming deep inductionHypothesis accepted held
      induction fields with
      | nil => rfl
      | cons field fields onward =>
        rw [List.map_cons, List.mapM_cons, each field List.mem_cons_self,
          onward fun later member => each later (List.mem_cons_of_mem _ member)]
        rfl
    rw [all, Option.filter_some, if_pos held]

/-- The bytes of an accepted message are enough to have it back. -/
theorem read_message_encode (schema : Schema) (fields : Message)
    (accepted : schema.accepts fields = true) :
    readMessage schema (Message.encode fields) = some fields :=
  read_depth_encode _ schema fields accepted (Nat.lt_succ_self _)

/-- The integers a message has under a tag, in order. -/
@[simp] def Message.numbers (tag : Nat) : Message → List UInt32
  | [] => []
  | .uint32 other value :: fields =>
    if other = tag then value :: Message.numbers tag fields else Message.numbers tag fields
  | _ :: fields => Message.numbers tag fields

/-- The texts a message has under a tag. -/
@[simp] def Message.words (tag : Nat) : Message → List String
  | [] => []
  | .string other text :: fields =>
    if other = tag then text :: Message.words tag fields else Message.words tag fields
  | _ :: fields => Message.words tag fields

/-- The messages a message has under a tag. -/
@[simp] def Message.nested (tag : Nat) : Message → List Message
  | [] => []
  | .message other inner :: fields =>
    if other = tag then inner :: Message.nested tag fields else Message.nested tag fields
  | _ :: fields => Message.nested tag fields

/-- A single integer. The last one counts. -/
@[simp] def Message.number (tag : Nat) (fields : Message) : UInt32 := (Message.numbers tag fields).getLastD 0

/-- A single text. -/
@[simp] def Message.word (tag : Nat) (fields : Message) : String := (Message.words tag fields).getLastD ""

/-- The numbers under a tag in a message that is put together stand in its parts, in order. -/
@[simp] theorem Message.numbers_append (tag : Nat) (left right : Message) :
    Message.numbers tag (left ++ right) = Message.numbers tag left ++ Message.numbers tag right := by
  induction left with
  | nil => rfl
  | cons field fields inductionHypothesis =>
    cases field <;> simp only [List.cons_append, Message.numbers, inductionHypothesis]
    split <;> rfl

/-- The texts under a tag, in the same way. -/
@[simp] theorem Message.words_append (tag : Nat) (left right : Message) :
    Message.words tag (left ++ right) = Message.words tag left ++ Message.words tag right := by
  induction left with
  | nil => rfl
  | cons field fields inductionHypothesis =>
    cases field <;> simp only [List.cons_append, Message.words, inductionHypothesis]
    split <;> rfl

/-- The messages under a tag, in the same way. -/
@[simp] theorem Message.nested_append (tag : Nat) (left right : Message) :
    Message.nested tag (left ++ right) = Message.nested tag left ++ Message.nested tag right := by
  induction left with
  | nil => rfl
  | cons field fields inductionHypothesis =>
    cases field <;> simp only [List.cons_append, Message.nested, inductionHypothesis]
    split <;> rfl

end WireFormat
