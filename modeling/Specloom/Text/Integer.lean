/-!
# Integers as text

A 64-bit signed integer is written as decimal digits after an optional sign.

## Main definitions

* `integer?`: the integer that a text stands for
-/

namespace Specloom.Text

/-- The number that decimal digits stand for; there must be at least one. -/
def natural? (cs : List Char) : Option Nat :=
  if cs ≠ [] ∧ cs.all Char.isDigit then
    some (cs.foldl (fun n c => 10 * n + (c.toNat - '0'.toNat)) 0)
  else none

/-- Whether an integer fits into 64 bits. -/
def fits64 (n : Int) : Bool :=
  -9223372036854775808 ≤ n && n ≤ 9223372036854775807

/-- The 64-bit integer that a text stands for: a sign is allowed, blanks are not. -/
def integer? (cs : List Char) : Option Int :=
  let read : Option Int := match cs with
    | '+' :: digits => (natural? digits).map Int.ofNat
    | '-' :: digits => (natural? digits).map fun n => -Int.ofNat n
    | digits => (natural? digits).map Int.ofNat
  read.filter fits64

example : integer? "-9223372036854775808".toList = some (-9223372036854775808) := by
  decide +kernel
example : integer? "+".toList = none := by decide +kernel

end Specloom.Text
