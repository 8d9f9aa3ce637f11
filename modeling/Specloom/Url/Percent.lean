import Specloom.Text.Hex
import Specloom.Text.Utf8

/-!
# Percent-encoding

Octets outside the unreserved characters are written as a percent sign and two digits. Reading
takes a percent sign that no two digits follow as itself.

## Main definitions

* `encode`: the encoding of a text
* `decodeOctets`: the octets that an encoded text stands for
* `decode?`: its text, if those octets are well-formed
-/

namespace Specloom.Url

open Text

/-- Whether an octet stands for itself: an ASCII letter or digit, or one of `-`, `_`, `.`, `~`. -/
def isUnreserved (b : UInt8) : Bool :=
  (0x61 ≤ b && b ≤ 0x7a) || (0x41 ≤ b && b ≤ 0x5a) || (0x30 ≤ b && b ≤ 0x39) ||
    b == 0x2d || b == 0x5f || b == 0x2e || b == 0x7e

/-- An octet in an encoded text. -/
def encodeOctet (b : UInt8) : List Char :=
  if isUnreserved b then [Char.ofNat b.toNat] else '%' :: upperHex 2 b.toNat

/-- The percent-encoding of a text, octet by octet of its UTF-8 form. -/
def encode (cs : List Char) : List Char :=
  (Utf8.encode cs).flatMap encodeOctet

/-- The value of an octet that is a hexadecimal digit. -/
def digitValue? (b : UInt8) : Option Nat :=
  hexValue? (Char.ofNat b.toNat)

/-- Replaces each percent sign and two digits by the octet they stand for. -/
def unescape : List UInt8 → List UInt8
  | [] => []
  | [a] => [a]
  | [a, b] => [a, b]
  | a :: b :: c :: rest =>
    match a == 0x25, digitValue? b, digitValue? c with
    | true, some hi, some lo => (16 * hi + lo).toUInt8 :: unescape rest
    | _, _, _ => a :: unescape (b :: c :: rest)

/-- The octets that an encoded text stands for. -/
def decodeOctets (cs : List Char) : List UInt8 :=
  unescape (Utf8.encode cs)

/-- The text that an encoded text stands for, if there is one. -/
def decode? (cs : List Char) : Option (List Char) :=
  Utf8.decode? (decodeOctets cs)

example : encode "a b/é".toList = "a%20b%2F%C3%A9".toList := by decide +kernel
example : decode? "%C3%A9%zz%4".toList = some "é%zz%4".toList := by decide +kernel

end Specloom.Url
