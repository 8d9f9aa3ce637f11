/-!
# UTF-8

Characters as octets and back. Reading marks every longest piece that can begin no character, so
that one reading serves the strict and the lenient decoder.

## Main definitions

* `Utf8.encode`: the octets of a text
* `Utf8.scalars`: the characters of octets, with a mark for each malformed piece
* `Utf8.decode?`: the text of well-formed octets
* `Utf8.decodeLossy`: the text with U+FFFD for each malformed piece
-/

namespace Specloom.Text.Utf8

/-- The octets of one character. -/
def encodeChar (c : Char) : List UInt8 :=
  let n := c.toNat
  if n < 0x80 then [n.toUInt8]
  else if n < 0x800 then [(0xc0 + n / 0x40).toUInt8, (0x80 + n % 0x40).toUInt8]
  else if n < 0x10000 then
    [(0xe0 + n / 0x1000).toUInt8, (0x80 + n / 0x40 % 0x40).toUInt8, (0x80 + n % 0x40).toUInt8]
  else
    [(0xf0 + n / 0x40000).toUInt8, (0x80 + n / 0x1000 % 0x40).toUInt8,
      (0x80 + n / 0x40 % 0x40).toUInt8, (0x80 + n % 0x40).toUInt8]

/-- The octets of a text. -/
def encode (cs : List Char) : List UInt8 :=
  cs.flatMap encodeChar

/-- A character that is being read: the octets it still needs, its bits so far, and the bounds of
the next octet. Nothing is needed between characters. -/
structure Pending where
  need : Nat
  bits : Nat
  lo : UInt8
  hi : UInt8

/-- The state between characters. -/
def Pending.idle : Pending :=
  ⟨0, 0, 0, 0⟩

/-- Reads an octet between characters: a character or a malformed piece of its own, or the begin
of a character. The bounds exclude overlong forms, surrogates and numbers above U+10FFFF. -/
def start (b : UInt8) : List (Option Char) × Pending :=
  let n := b.toNat
  if b < 0x80 then ([some (Char.ofNat n)], .idle)
  else if b < 0xc2 ∨ 0xf4 < b then ([none], .idle)
  else if b < 0xe0 then ([], ⟨1, n - 0xc0, 0x80, 0xbf⟩)
  else if b < 0xf0 then
    ([], ⟨2, n - 0xe0, if b = 0xe0 then 0xa0 else 0x80, if b = 0xed then 0x9f else 0xbf⟩)
  else ([], ⟨3, n - 0xf0, if b = 0xf0 then 0x90 else 0x80, if b = 0xf4 then 0x8f else 0xbf⟩)

/-- The characters of the octets to come. An octet out of bounds ends the piece before it and is
read again as a first octet. -/
def scalarsFrom (p : Pending) : List UInt8 → List (Option Char)
  | [] => if p.need = 0 then [] else [none]
  | b :: rest =>
    if p.need = 0 then (start b).1 ++ scalarsFrom (start b).2 rest
    else if p.lo ≤ b ∧ b ≤ p.hi then
      let bits := p.bits * 0x40 + b.toNat % 0x40
      if p.need = 1 then some (Char.ofNat bits) :: scalarsFrom .idle rest
      else scalarsFrom ⟨p.need - 1, bits, 0x80, 0xbf⟩ rest
    else none :: ((start b).1 ++ scalarsFrom (start b).2 rest)

/-- The characters of octets; `none` marks a longest piece that begins no character. -/
def scalars (octets : List UInt8) : List (Option Char) :=
  scalarsFrom .idle octets

/-- The text of octets, if all of them are well-formed. -/
def decode? (octets : List UInt8) : Option (List Char) :=
  (scalars octets).mapM id

/-- The text of octets, with U+FFFD for each malformed piece. -/
def decodeLossy (octets : List UInt8) : List Char :=
  (scalars octets).map (·.getD '\ufffd')

example : decode? (encode "aé€😀".toList) = some "aé€😀".toList := by decide +kernel
example : decodeLossy [0x61, 0xf0, 0x9f, 0x98, 0x62, 0xff] = "a\ufffdb\ufffd".toList := by
  decide +kernel

end Specloom.Text.Utf8
