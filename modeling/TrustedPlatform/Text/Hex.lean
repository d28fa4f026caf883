import TrustedPlatform.Bytes

/-!
# Hexadecimal text

Lowercase digits are written; both cases are read. `Hex.number` writes a code in at least a
given number of digits, `Hex.encode` and `Hex.decode?` write and read octet strings.
-/

namespace TrustedPlatform.Hex

/-- The digits of `n`, padded with zeros on the left to at least `width` of them. -/
def number (width n : Nat) : String :=
  let digits := Nat.toDigits 16 n
  String.ofList (List.replicate (width - digits.length) '0' ++ digits)

/-- The digit that stands for the low four bits of `n`. -/
def digit (n : Nat) : Char :=
  Nat.digitChar (n % 16)

/-- Two digits per octet. -/
def encode (b : Bytes) : String :=
  String.ofList (b.flatMap fun x => [digit (x.toNat / 16), digit x.toNat])

/-- The value of a digit of either case. -/
def value? (c : Char) : Option Nat :=
  if '0' ≤ c ∧ c ≤ '9' then some (c.toNat - '0'.toNat)
  else if 'a' ≤ c ∧ c ≤ 'f' then some (c.toNat - 'a'.toNat + 10)
  else if 'A' ≤ c ∧ c ≤ 'F' then some (c.toNat - 'A'.toNat + 10)
  else none

/-- The octets that pairs of digits spell, put behind those already read; refuses an odd count. -/
def decodeOnto (read : Bytes) : List Char → Option Bytes
  | [] => some read.reverse
  | [_] => none
  | high :: low :: rest =>
    match value? high, value? low with
    | some h, some l => decodeOnto (UInt8.ofNat (16 * h + l) :: read) rest
    | _, _ => none

/-- The octets that pairs of digits spell; refuses an odd count and anything but digits. -/
def decode? (digits : List Char) : Option Bytes :=
  decodeOnto [] digits

end TrustedPlatform.Hex
