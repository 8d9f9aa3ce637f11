import Specloom.Json.Fault

/-!
# JSON numbers

An integer of 64 bits is kept exactly; any other number is a double. Its digits are read into a
64-bit integer as far as they fit, and that integer is multiplied or divided by a power of ten.

## Main definitions

* `Number`: an integer or a double
* `scanNumber`: reads a number, with the count of characters read
-/

namespace Specloom.Json

/-- A number: an integer that fits into 64 bits, with or without a sign, or the bits of a
double. -/
inductive Number where
  | integer (n : Int)
  | double (bits : UInt64)
deriving DecidableEq, Repr

/-- The number of a double, negated if asked for. -/
def Number.ofFloat (negative : Bool) (x : Float) : Number :=
  .double (if negative then -x else x).toBits

/-- The value of a decimal digit. -/
def digitValue (c : Char) : Nat :=
  c.toNat - '0'.toNat

/-- Reads digits into a number of 64 bits, up to the first that does not fit. The digits that are
left over are returned too. -/
def readDigits (n : Nat) : List Char → Nat × List Char
  | [] => (n, [])
  | c :: rest =>
    if 10 * n + digitValue c < 2 ^ 64 then readDigits (10 * n + digitValue c) rest
    else (n, c :: rest)

/-- Multiplies a double by a power of ten, in steps that a double can hold. Zero stays zero, and a
product that is not finite is out of range. -/
def scaleDouble : Nat → Float → Int → Except Fault Float
  | 0, x, _ => .ok x
  | fuel + 1, x, power =>
    if power.natAbs ≤ 308 then
      let factor := Float.ofScientific (10 ^ power.natAbs) false 0
      if 0 ≤ power then
        let y := x * factor
        if y.isInf then .error .numberOutOfRange else .ok y
      else .ok (x / factor)
    else if x == 0.0 then .ok x
    else if 0 ≤ power then .error .numberOutOfRange
    else scaleDouble fuel (x / 1e308) (power + 308)

/-- The double with given sign, digits and power of ten. After three steps a double is zero. -/
def makeDouble (negative : Bool) (digits : Nat) (power : Int) : Except Fault Number :=
  (scaleDouble 4 (Float.ofNat digits) power).map (Number.ofFloat negative)

/-- An integer, or a double if it does not fit; minus zero is a double. -/
def makeInteger (negative : Bool) (n : Nat) : Number :=
  if !negative then .integer n
  else if 0 < n ∧ n ≤ Nat.pow 2 63 then .integer (-(n : Int))
  else .ofFloat true (Float.ofNat n)

/-- Reads the power of ten after the letter `e`, for a number with the given digits. -/
def scanPower (negative : Bool) (digits : Nat) (power : Int) (text : List Char) :
    Except Fault (Number × Nat) :=
  let (sign, unsigned) := match text with
    | '+' :: rest => ((1 : Int), rest)
    | '-' :: rest => (-1, rest)
    | rest => (1, rest)
  let figures := unsigned.takeWhile Char.isDigit
  let count := text.length - unsigned.length + figures.length
  match figures, unsigned with
  | [], [] => .error .endInValue
  | [], _ => .error .invalidNumber
  | _, _ =>
    let n := figures.foldl (fun n c => 10 * n + digitValue c) 0
    if n < Nat.pow 2 31 then (makeDouble negative digits (power + sign * n)).map (·, count)
    else if digits ≠ 0 ∧ sign = 1 then .error .numberOutOfRange
    else .ok (.ofFloat negative 0.0, count)

/-- Reads what follows the digits before the point: a fraction, a power of ten, or neither. Digits
that did not fit count as powers of ten. -/
def scanTail (negative : Bool) (digits : Nat) (leftOver : List Char) (text : List Char) :
    Except Fault (Number × Nat) :=
  let power : Int := leftOver.length
  match text with
  | '.' :: fraction =>
    let figures := fraction.takeWhile Char.isDigit
    let after := fraction.drop figures.length
    if figures = [] then .error (if fraction = [] then .endInValue else .invalidNumber)
    else
      let (digits, unread) := readDigits digits figures
      let power := power - (figures.length - unread.length : Nat)
      match after with
      | 'e' :: rest | 'E' :: rest =>
        (scanPower negative digits power rest).map fun (n, k) => (n, figures.length + 2 + k)
      | _ => (makeDouble negative digits power).map (·, figures.length + 1)
  | 'e' :: rest | 'E' :: rest =>
    (scanPower negative digits power rest).map fun (n, k) => (n, k + 1)
  | _ =>
    if leftOver = [] then .ok (makeInteger negative digits, 0)
    else (makeDouble negative digits power).map (·, 0)

/-- Reads a number without its sign. -/
def scanUnsigned (negative : Bool) (text : List Char) : Except Fault (Number × Nat) :=
  match text with
  | [] => .error .endInValue
  | '0' :: rest =>
    if (rest.head?.map Char.isDigit).getD false then .error .invalidNumber
    else (scanTail negative 0 [] rest).map fun (n, k) => (n, k + 1)
  | text =>
    match text.takeWhile Char.isDigit with
    | [] => .error .invalidNumber
    | figures =>
      let (digits, leftOver) := readDigits 0 figures
      (scanTail negative digits leftOver (text.drop figures.length)).map fun (n, k) =>
        (n, k + figures.length)

/-- Reads a number: its value and how many characters it takes. -/
def scanNumber (text : List Char) : Except Fault (Number × Nat) :=
  match text with
  | '-' :: rest => (scanUnsigned true rest).map fun (n, k) => (n, k + 1)
  | rest => scanUnsigned false rest

end Specloom.Json
