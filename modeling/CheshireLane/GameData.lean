import Mathlib.Data.List.Basic

/-!
# Game data

Four tables are read from JSON before any player is served and never change
afterwards. A table is a `HashMap` with string keys, which yields its entries in
an arbitrary but fixed order, so it is the list of its entries in that order
together with the proof that no key occurs twice.
-/

namespace CheshireLane

/-- A `HashMap<String, _>` that is no longer modified. -/
structure StringMap (α : Type) where
  entries : List (String × α)
  distinct : (entries.map Prod.fst).Nodup

namespace StringMap

variable {α : Type}

/-- `HashMap::get`, on the first entry of a key. -/
def get (map : StringMap α) (key : String) : Option α := map.entries.lookup key

/-- `HashMap::contains_key`. -/
def containsKey (map : StringMap α) (key : String) : Bool := (map.get key).isSome

/-- `HashMap::keys`, in the order of the entries. -/
def keys (map : StringMap α) : List String := map.entries.map Prod.fst

/-- `HashMap::values`, in the order of the entries. -/
def values (map : StringMap α) : List α := map.entries.map Prod.snd

/-- The entry of a key is the one listed with it. -/
theorem get_eq_some_iff (map : StringMap α) (key : String) (value : α) :
    map.get key = some value ↔ (key, value) ∈ map.entries := by
  obtain ⟨entries, distinct⟩ := map
  simp only [get]
  induction entries with
  | nil => simp
  | cons first entries inductionHypothesis =>
    obtain ⟨firstKey, firstValue⟩ := first
    obtain ⟨absent, later⟩ := List.nodup_cons.mp distinct
    by_cases same : key = firstKey
    · have others : (firstKey, value) ∉ entries := fun member =>
        absent (List.mem_map.mpr ⟨_, member, rfl⟩)
      simp [same, others, eq_comm]
    · have different : (key == firstKey) = false := beq_eq_false_iff_ne.mpr same
      simp [List.lookup_cons, different, same, inductionHypothesis later]

end StringMap

/-- The columns of a ship template that the game reads. -/
structure ShipDataTemplateEntity where
  buffList : List UInt32
  energy : UInt32
  equipId1 : UInt32
  equipId2 : UInt32
  equipId3 : UInt32
  groupType : UInt32
  id : UInt32
  star : UInt32
  starMax : UInt32
  deriving DecidableEq

/-- The columns of the ship statistics that the game reads. -/
structure ShipDataStatisticsEntity where
  skinId : UInt32
  deriving DecidableEq

/-- The columns of a skin template that the game reads. -/
structure ShipSkinTemplateEntity where
  id : UInt32
  shipGroup : UInt32
  deriving DecidableEq

/-- The four `DATA` cells. The ship tables are read with a fallback for an unset
cell; role creation unwraps the chapter cell. Nothing reads a chapter's value. -/
structure GameData where
  chapterTemplate : StringMap Unit
  shipDataTemplate : Option (StringMap ShipDataTemplateEntity)
  shipDataStatistics : Option (StringMap ShipDataStatisticsEntity)
  shipSkinTemplate : Option (StringMap ShipSkinTemplateEntity)

/-- `u32::to_string`. -/
def decimal (value : UInt32) : String := toString value.toNat

/-- The value of a run of decimal digits. -/
def digitsValue (digits : List Char) : Nat :=
  digits.foldl (fun value digit => value * 10 + (digit.toNat - '0'.toNat)) 0

/-- `str::parse::<u32>`: an optional plus sign and at least one decimal digit,
below 2^32. -/
def parseU32 (text : String) : Option UInt32 :=
  let digits := match text.toList with
    | '+' :: digits => digits
    | digits => digits
  if digits.isEmpty || !digits.all Char.isDigit then none
  else if digitsValue digits < 4294967296 then some (UInt32.ofNat (digitsValue digits))
  else none

/-- A run of digits is its value in base ten. -/
theorem digits_value_eq (digits : List Char) : digitsValue digits = Nat.ofDigitChars 10 digits 0 := by
  rw [Nat.ofDigitChars_eq_foldl]
  unfold digitsValue
  congr 1
  funext value digit
  rw [Nat.mul_comm]

/-- A run of digits is read as its value, unless it is too large. -/
theorem parse_digits (digits : List Char) (nonempty : digits ≠ [])
    (decimal : ∀ digit ∈ digits, digit.isDigit) :
    parseU32 (String.ofList digits) =
      if digitsValue digits < 4294967296 then some (UInt32.ofNat (digitsValue digits)) else none := by
  have wellFormed : (digits.isEmpty || !digits.all Char.isDigit) = false := by
    simpa [nonempty] using decimal
  have unsigned : ∀ rest, digits ≠ '+' :: rest := by
    intro rest signed
    have sign := decimal '+' (signed ▸ List.mem_cons_self)
    simp [Char.isDigit] at sign
  unfold parseU32
  rw [String.toList_ofList]
  split
  · next rest => exact absurd rfl (unsigned rest)
  · simp only [wellFormed, Bool.false_eq_true, ↓reduceIte]

/-- The characters of a decimal text are digits. -/
theorem decimal_digits (value : Nat) : ∀ digit ∈ Nat.toDigits 10 value, digit.isDigit :=
  fun _ => Nat.isDigit_of_mem_toDigits (by decide) (by decide)

/-- The digits of a number add up to it. -/
theorem decimal_value (value : Nat) : digitsValue (Nat.toDigits 10 value) = value := by
  rw [digits_value_eq, Nat.ofDigitChars_ten_toDigits]

/-- `toString` writes the digits of a number. -/
theorem decimal_text (value : Nat) : toString value = String.ofList (Nat.toDigits 10 value) := by
  rw [Nat.toString_eq_repr, ← Nat.toList_repr, String.ofList_toList]

/-- Numbers below 2^32 are read back from their decimal form, others are not read. -/
theorem parse_to_string (value : Nat) :
    parseU32 (toString value) =
      if value < 4294967296 then some (UInt32.ofNat value) else none := by
  rw [decimal_text, parse_digits _ Nat.toDigits_ne_nil (decimal_digits value), decimal_value]

/-- A number is read back from its decimal text. This is what joins the keys of the tables to ids.
-/
theorem parse_decimal (value : UInt32) : parseU32 (decimal value) = some value := by
  unfold decimal
  rw [parse_to_string, if_pos value.toNat_lt, UInt32.ofNat_toNat]

/-- Unicode white space. -/
def isWhitespace (char : Char) : Bool :=
  let code := char.toNat
  (9 ≤ code && code ≤ 13) || code == 32 || code == 133 || code == 160 || code == 5760 ||
    (8192 ≤ code && code ≤ 8202) || code == 8232 || code == 8233 || code == 8239 ||
    code == 8287 || code == 12288

/-- The pieces between white space, possibly empty. The first argument is the
piece read so far. -/
def splitWords : List Char → List Char → List (List Char)
  | word, [] => [word]
  | word, char :: rest =>
    if isWhitespace char then word :: splitWords [] rest else splitWords (word ++ [char]) rest

/-- `str::split_whitespace`: the nonempty words between white space. -/
def splitWhitespace (text : String) : List String :=
  ((splitWords [] text.toList).filter fun word => !word.isEmpty).map String.ofList

example : splitWhitespace " ship  all " = ["ship", "all"] := by decide

end CheshireLane
