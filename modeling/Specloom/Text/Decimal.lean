/-!
# The shortest decimal of a binary number

A finite double is written with the fewest decimal digits that read back as the same double. It is
an integer times a power of two, and the numbers that round to it form an interval with exact ends,
so that the search runs in natural numbers.

## Main definitions

* `Binary`: a positive double as integer and power of two
* `shortestDigits`: its digits and the power of ten of the last of them
* `decimal`: a double as text
-/

namespace Specloom.Text

/-- A positive number `mantissa · 2 ^ exponent`; `lowest` says that the next smaller double is only
half as far away as the next larger one. -/
structure Binary where
  mantissa : Nat
  exponent : Int
  lowest : Bool

/-- The parts of a positive finite double. -/
def Binary.ofBits (bits : Nat) : Binary :=
  let fraction : Nat := bits % Nat.pow 2 52
  let biased : Nat := bits / Nat.pow 2 52 % 2048
  if biased = 0 then ⟨fraction, -1074, false⟩
  else ⟨fraction + Nat.pow 2 52, Int.ofNat biased - 1075, fraction = 0 ∧ 1 < biased⟩

/-- Powers of two and ten that make a number of the form `n · 2 ^ e / 10 ^ p` a fraction of natural
numbers: the factors of numerator and denominator. -/
def scale (e p : Int) : Nat × Nat :=
  (Nat.pow 2 e.toNat * Nat.pow 10 (-p).toNat, Nat.pow 2 (-e).toNat * Nat.pow 10 p.toNat)

/-- The multiples of `10 ^ p` next to the number that round to it, as multipliers. -/
def neighbours (b : Binary) (p : Int) : List Nat :=
  -- four units are the distance of two doubles above the number
  let (up, down) := scale (b.exponent - 2) p
  let value := 4 * b.mantissa * up
  let low := (4 * b.mantissa - (if b.lowest then 1 else 2)) * up
  let high := (4 * b.mantissa + 2) * up
  let inside (n : Nat) : Bool :=
    if b.mantissa % 2 = 0 then low ≤ n * down && n * down ≤ high
    else low < n * down && n * down < high
  let below := value / down
  let nearerAbove := 2 * (value - below * down) > down ||
    (2 * (value - below * down) == down && below % 2 == 1)
  (if nearerAbove then [below + 1, below] else [below, below + 1]).filter fun n => 0 < n && inside n

/-- Searches from coarse powers of ten to fine ones. -/
def searchDigits (b : Binary) : Nat → Int → Nat × Int
  | 0, p => (b.mantissa, p)
  | fuel + 1, p =>
    match neighbours b p with
    | n :: _ => (n, p)
    | [] => searchDigits b fuel (p - 1)

/-- The power of ten to begin with: no double is above `10 ^ 309`, and sixteen powers below the
order of magnitude of the number a multiple is found. -/
def shortestDigits (b : Binary) : Nat × Int :=
  searchDigits b 660 310

/-- A positive finite double as text: positional from `10 ^ -5` up to `10 ^ 16`, and with a power
of ten otherwise. -/
def decimalOfBits (bits : Nat) : String :=
  let (n, p) := shortestDigits (Binary.ofBits bits)
  let digits := Nat.toDigits 10 n
  let point : Int := digits.length + p
  let text : List Char :=
    if 0 ≤ p ∧ point ≤ 16 then digits ++ List.replicate p.toNat '0' ++ ['.', '0']
    else if 0 < point ∧ point ≤ 16 then
      digits.take point.toNat ++ '.' :: digits.drop point.toNat
    else if -5 < point ∧ point ≤ 0 then
      ['0', '.'] ++ List.replicate (-point).toNat '0' ++ digits
    else
      let power := point - 1
      let sign := if power < 0 then '-' else '+'
      (match digits with
        | [d] => [d]
        | d :: rest => d :: '.' :: rest
        | [] => []) ++ 'e' :: sign :: Nat.toDigits 10 power.natAbs
  String.ofList text

/-- The finite double with the given bits as text. -/
def decimal (bits : UInt64) : String :=
  let magnitude := bits.toNat % Nat.pow 2 63
  let text := if magnitude = 0 then "0.0" else decimalOfBits magnitude
  if Nat.pow 2 63 ≤ bits.toNat then "-" ++ text else text

example : decimal 0x3ff8000000000000 = "1.5" := by decide +kernel

end Specloom.Text
