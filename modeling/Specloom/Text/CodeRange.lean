import Specloom.Text.Hex
import Specloom.Text.Split

/-!
# Runs of code points

A property of characters is a list of runs of code points. Long lists are written as text, a run
being its first and last code point in hexadecimal, or one code point alone.

## Main definitions

* `CodeRange`: a run of code points
* `CodeRange.listOfText`: the runs written in a text
* `CodeRange.anyContains`: membership in a list of runs
-/

namespace Specloom.Text

/-- A run of code points, both ends included. -/
structure CodeRange where
  lo : Nat
  hi : Nat
deriving DecidableEq, Repr, Inhabited

namespace CodeRange

/-- Whether the run holds a code point. -/
def contains (r : CodeRange) (n : Nat) : Bool :=
  r.lo ≤ n && n ≤ r.hi

/-- Whether one of the runs holds a code point. -/
def anyContains (rs : List CodeRange) (n : Nat) : Bool :=
  rs.any (·.contains n)

/-- The number written by hexadecimal digits. -/
def number (digits : List Char) : Nat :=
  digits.foldl (fun n c => 16 * n + (hexValue? c).getD 0) 0

/-- The run written `lo-hi`, or as one number. -/
def ofWord (word : List Char) : CodeRange :=
  match splitFirst? '-' word with
  | some (lo, hi) => ⟨number lo, number hi⟩
  | none => ⟨number word, number word⟩

/-- The runs of a text such as `aa b5 c0-d6`, which blanks and line ends keep apart. -/
def listOfText (text : String) : List CodeRange :=
  ((splitWhere (fun c => c == ' ' || c == '\n') text.toList).filter (· ≠ [])).map ofWord

example : listOfText "aa\n c0-d6" = [⟨0xaa, 0xaa⟩, ⟨0xc0, 0xd6⟩] := by decide +kernel

end CodeRange

end Specloom.Text
