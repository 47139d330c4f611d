import CheshireLane.GameData
import Mathlib.Data.List.DropRight
import Mathlib.Data.List.TakeWhile

/-!
# The texts of a configuration

White space around a text is ignored. Ports and IPv4 addresses are read back from
what they are printed as. Socket addresses, which may be of either version, are used
through this law alone.
-/

namespace CheshireLane

/-- `str::trim`. -/
def trim (text : String) : String :=
  String.ofList ((text.toList.dropWhile isWhitespace).rdropWhile isWhitespace)

/-- A text without white space around it is left alone. -/
theorem trim_trimmed (text : String) : trim (trim text) = trim text := by
  unfold trim
  rw [String.toList_ofList]
  generalize text.toList = chars
  have front : ((chars.dropWhile isWhitespace).rdropWhile isWhitespace).dropWhile isWhitespace =
      (chars.dropWhile isWhitespace).rdropWhile isWhitespace := by
    rw [List.dropWhile_eq_self_iff]
    intro some
    have kept := List.rdropWhile_prefix isWhitespace (chars.dropWhile isWhitespace)
    rw [kept.getElem some]
    exact List.dropWhile_get_zero_not isWhitespace chars (Nat.lt_of_lt_of_le some kept.length_le)
  rw [front, List.rdropWhile_idempotent]

/-- A text without white space is left alone. -/
theorem trim_visible (text : String) (visible : ∀ char ∈ text.toList, ¬ isWhitespace char) :
    trim text = text := by
  have front : text.toList.dropWhile isWhitespace = text.toList := by
    rw [List.dropWhile_eq_self_iff]
    exact fun some => visible _ (List.getElem_mem _)
  have back : text.toList.rdropWhile isWhitespace = text.toList := by
    rw [List.rdropWhile_eq_self_iff]
    exact fun some => visible _ (List.getLast_mem _)
  rw [trim, front, back, String.ofList_toList]

/-- A digit is no white space. -/
theorem digit_visible {char : Char} (digit : char.isDigit) : ¬ isWhitespace char := by
  have bounds : 48 ≤ char.toNat ∧ char.toNat ≤ 57 := Char.isDigit_iff_toNat.mp digit
  simp only [isWhitespace, Bool.or_eq_true, Bool.and_eq_true, decide_eq_true_eq, beq_iff_eq]
  omega

/-- The characters of a printed address are no white space. -/
theorem address_visible {char : Char} (known : char.isDigit ∨ char = '.') : ¬ isWhitespace char := by
  rcases known with digit | rfl
  · exact digit_visible digit
  · decide

/-- Pieces with a separator between them hold what the pieces hold and the separator. By induction
on the pieces; the separator stands in front of every piece but the first. -/
theorem intercalate_char {separator char : Char} {pieces : List (List Char)}
    (member : char ∈ [separator].intercalate pieces) :
    (∃ piece ∈ pieces, char ∈ piece) ∨ char = separator := by
  induction pieces with
  | nil => exact absurd member List.not_mem_nil
  | cons piece pieces inductionHypothesis =>
    cases pieces with
    | nil =>
      rw [List.intercalate_singleton] at member
      exact .inl ⟨piece, List.mem_cons_self, member⟩
    | cons next pieces =>
      rw [List.intercalate_cons_cons, List.append_assoc, List.mem_append, List.mem_append,
        List.mem_singleton] at member
      rcases member with within | same | later
      · exact .inl ⟨piece, List.mem_cons_self, within⟩
      · exact .inr same
      · rcases inductionHypothesis later with ⟨other, inside, within⟩ | same
        · exact .inl ⟨other, List.mem_cons_of_mem piece inside, within⟩
        · exact .inr same

/-- `str::parse::<u16>`. -/
def parseU16 (text : String) : Option UInt16 :=
  (parseU32 text).bind fun value =>
    if value.toNat < 65536 then some (UInt16.ofNat value.toNat) else none

/-- A port is read back from the decimal text it is printed as. -/
theorem parse_port_text (port : UInt16) : parseU16 (toString port.toNat) = some port := by
  have small := port.toNat_lt
  have same : (UInt32.ofNat port.toNat).toNat = port.toNat :=
    UInt32.toNat_ofNat_of_lt' (Nat.lt_trans small (by decide))
  rw [parseU16, parse_to_string, if_pos (Nat.lt_trans small (by decide)), Option.bind_some, same,
    if_pos small, UInt16.ofNat_toNat]

/-- `std::net::Ipv4Addr`: four octets. -/
structure Ipv4Addr where
  a : UInt8
  b : UInt8
  c : UInt8
  d : UInt8
  deriving DecidableEq

namespace Ipv4Addr

/-- `Ipv4Addr::is_unspecified`. -/
def isUnspecified (address : Ipv4Addr) : Bool := address = ⟨0, 0, 0, 0⟩

/-- `Ipv4Addr::is_broadcast`. -/
def isBroadcast (address : Ipv4Addr) : Bool := address = ⟨255, 255, 255, 255⟩

/-- One to three digits without a zero in front. -/
def parseOctet (digits : List Char) : Option UInt8 :=
  if digits.isEmpty || !digits.all Char.isDigit || (digits.head? = some '0' && digits ≠ ['0']) then none
  else if digitsValue digits < 256 then some (UInt8.ofNat (digitsValue digits)) else none

/-- `str::parse::<Ipv4Addr>`. -/
def parse (text : String) : Option Ipv4Addr :=
  match (text.toList.splitOn '.').map parseOctet with
  | [some a, some b, some c, some d] => some ⟨a, b, c, d⟩
  | _ => none

/-- The decimal digits of the octets, which stand between the dots. -/
def octets (address : Ipv4Addr) : List (List Char) :=
  [address.a, address.b, address.c, address.d].map fun octet => Nat.toDigits 10 octet.toNat

/-- `Ipv4Addr::to_string`. -/
def print (address : Ipv4Addr) : String := String.ofList (['.'].intercalate address.octets)

/-- A number is printed without a zero in front. -/
theorem leading_digit (value : Nat) (positive : 0 < value) :
    (Nat.toDigits 10 value).head? ≠ some '0' := by
  induction value using Nat.strongRecOn with
  | ind value inductionHypothesis =>
    rw [Nat.toDigits_eq_if (by decide)]
    split
    · simp only [List.head?_cons, ne_eq, Option.some.injEq, Nat.digitChar_eq_zero]
      omega
    · rw [List.head?_append_of_ne_nil _ Nat.toDigits_ne_nil]
      exact inductionHypothesis (value / 10) (by omega) (by omega)

/-- An octet is read back from its digits: there are at most three, without a leading zero. -/
theorem parse_octet (octet : UInt8) : parseOctet (Nat.toDigits 10 octet.toNat) = some octet := by
  have digits : (Nat.toDigits 10 octet.toNat).all Char.isDigit :=
    List.all_eq_true.mpr (decimal_digits _)
  have leading : ((Nat.toDigits 10 octet.toNat).head? = some '0' &&
      Nat.toDigits 10 octet.toNat ≠ ['0']) = false := by
    rcases Nat.eq_zero_or_pos octet.toNat with zero | positive
    · rw [zero]
      rfl
    · simp [leading_digit _ positive]
  rw [parseOctet, digits, leading, decimal_value, if_pos octet.toNat_lt, UInt8.ofNat_toNat]
  simp [Nat.toDigits_ne_nil]

/-- The octets are printed in digits only, so a dot is always a separator. -/
theorem octet_digits (address : Ipv4Addr) :
    ∀ digits ∈ address.octets, ∀ digit ∈ digits, digit.isDigit := by
  intro digits member
  obtain ⟨octet, _, rfl⟩ := List.mem_map.mp member
  exact decimal_digits octet.toNat

/-- An address is read back from its text, octet by octet. -/
theorem parse_print (address : Ipv4Addr) : parse address.print = some address := by
  have split : address.print.toList.splitOn '.' = address.octets := by
    rw [print, String.toList_ofList]
    refine List.splitOn_intercalate '.' (fun digits member dot => ?_) (List.cons_ne_nil _ _)
    exact absurd (address.octet_digits digits member '.' dot) (by decide)
  rw [parse, split]
  simp only [octets, List.map_cons, List.map_nil, parse_octet]

/-- A printed address has only digits and dots in it. -/
theorem print_chars (address : Ipv4Addr) :
    ∀ char ∈ address.print.toList, char.isDigit ∨ char = '.' := by
  intro char member
  rw [print, String.toList_ofList] at member
  rcases intercalate_char member with ⟨digits, octet, digit⟩ | dot
  · exact .inl (address.octet_digits digits octet char digit)
  · exact .inr dot

/-- Trimming leaves a printed address alone. -/
theorem trim_print (address : Ipv4Addr) : trim address.print = address.print :=
  trim_visible _ fun char member => address_visible (address.print_chars char member)

end Ipv4Addr

/-- The texts of socket addresses. -/
structure SocketTexts (SocketAddr : Type) where
  parse : String → Option SocketAddr
  print : SocketAddr → String
  port : SocketAddr → UInt16
  parse_print : ∀ address, parse (print address) = some address
  trim_print : ∀ address, trim (print address) = print address

/-- `std::net::SocketAddrV4`. -/
structure SocketAddrV4 where
  ip : Ipv4Addr
  port : UInt16
  deriving DecidableEq

namespace SocketAddrV4

/-- `str::parse::<SocketAddrV4>`. The port has no sign. -/
def parse (text : String) : Option SocketAddrV4 :=
  match text.toList.splitOn ':' with
  | [ip, port] =>
    (Ipv4Addr.parse (String.ofList ip)).bind fun ip =>
      if port.all Char.isDigit then (parseU16 (String.ofList port)).map (SocketAddrV4.mk ip) else none
  | _ => none

/-- The texts on both sides of the colon. -/
def pieces (address : SocketAddrV4) : List (List Char) :=
  [address.ip.print.toList, Nat.toDigits 10 address.port.toNat]

/-- `SocketAddrV4::to_string`. -/
def print (address : SocketAddrV4) : String := String.ofList ([':'].intercalate address.pieces)

/-- No piece holds white space or the colon between them. -/
theorem piece_chars (address : SocketAddrV4) :
    ∀ piece ∈ address.pieces, ∀ char ∈ piece, char.isDigit ∨ char = '.' := by
  intro piece member char within
  rcases List.mem_cons.mp member with rfl | member
  · exact address.ip.print_chars char within
  · rw [List.mem_singleton.mp member] at within
    exact .inl (decimal_digits _ char within)

/-- A socket address is read back from its text, which has one colon. -/
theorem parse_print (address : SocketAddrV4) : parse address.print = some address := by
  have split : address.print.toList.splitOn ':' = address.pieces := by
    rw [print, String.toList_ofList]
    refine List.splitOn_intercalate ':' (fun piece member colon => ?_) (List.cons_ne_nil _ _)
    exact absurd (address.piece_chars piece member ':' colon) (by decide)
  have digits : (Nat.toDigits 10 address.port.toNat).all Char.isDigit :=
    List.all_eq_true.mpr (decimal_digits _)
  have port : parseU16 (String.ofList (Nat.toDigits 10 address.port.toNat)) = some address.port := by
    rw [← decimal_text, parse_port_text]
  rw [parse, split]
  simp only [pieces, String.ofList_toList, address.ip.parse_print, Option.bind_some, digits, if_true,
    port, Option.map_some]

/-- Trimming leaves a printed socket address alone. -/
theorem trim_print (address : SocketAddrV4) : trim address.print = address.print := by
  refine trim_visible _ fun char member => ?_
  rw [print, String.toList_ofList] at member
  rcases intercalate_char member with ⟨piece, inside, within⟩ | rfl
  · exact address_visible (address.piece_chars piece inside char within)
  · decide

end SocketAddrV4

/-- The texts of version four addresses. -/
def socketTextsV4 : SocketTexts SocketAddrV4 where
  parse := SocketAddrV4.parse
  print := SocketAddrV4.print
  port := SocketAddrV4.port
  parse_print := SocketAddrV4.parse_print
  trim_print := SocketAddrV4.trim_print

end CheshireLane
