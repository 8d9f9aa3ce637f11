import Specloom.Regex.Pattern

/-!
# Matching

A pattern is run on marks: one for each place in a text, between characters and at both ends. It
moves every mark from where a match may begin to all places where that match may end, so a text
matches if a mark is left after a run that starts everywhere.

## Main definitions

* `Pattern.run`: moves marks over a match
* `Pattern.isMatch`: whether a pattern matches somewhere in a text

## Main results

* `Pattern.length_run`: after a run there is still one mark for each place
-/

namespace Specloom.Regex

/-- A place in a text: the characters around it. -/
structure Place where
  before : Option Char
  after : Option Char

/-- The places of a text that follows a given character. -/
def placesFrom (before : Option Char) : List Char → List Place
  | [] => [⟨before, none⟩]
  | c :: rest => ⟨before, some c⟩ :: placesFrom (some c) rest

/-- Whether a character is part of a word. -/
def isWord (unicode : Bool) (c : Option Char) : Bool :=
  c.any fun c => (perlSet unicode .word).contains c.toNat

/-- Whether a condition holds at a place. -/
def Look.holds (l : Look) (p : Place) : Bool :=
  match l with
  | .start => p.before.isNone
  | .stop => p.after.isNone
  | .lineStart => p.before.all (· == '\n')
  | .lineEnd => p.after.all (· == '\n')
  | .lineStartCrlf => p.before.all fun c => c == '\n' || (c == '\r' && p.after != some '\n')
  | .lineEndCrlf => p.after.all fun c => c == '\r' || (c == '\n' && p.before != some '\r')
  | .boundary u => isWord u p.before != isWord u p.after
  | .notBoundary u => isWord u p.before == isWord u p.after
  | .wordStart u => !isWord u p.before && isWord u p.after
  | .wordEnd u => isWord u p.before && !isWord u p.after
  | .notAfterWord u => !isWord u p.before
  | .notBeforeWord u => !isWord u p.after

/-- The marks of either list. -/
def joinMarks (a b : List Bool) : List Bool :=
  List.zipWith (· || ·) a b

/-- Applies a step a number of times. -/
def iterate (step : List Bool → List Bool) : Nat → List Bool → List Bool
  | 0, marks => marks
  | count + 1, marks => iterate step count (step marks)

/-- The marks after any number of steps up to `count`, until a step adds none. -/
def accumulate (step : List Bool → List Bool) : Nat → List Bool → List Bool → List Bool
  | 0, reached, _ => reached
  | count + 1, reached, marks =>
    let next := step marks
    let more := joinMarks reached next
    if more = reached then reached else accumulate step count more next

namespace Pattern

/-- Moves marks over a match of the pattern in a text. A mark that moves at every step has left the
text after one step for each place, so that many repetitions show all there is. -/
def run (text : List Char) : Pattern → List Bool → List Bool
  | .empty, marks => marks
  | .set s, marks => false :: List.zipWith (fun m c => m && s.contains c.toNat) marks text
  | .look l, marks => List.zipWith (fun m p => m && l.holds p) marks (placesFrom none text)
  | .seq a b, marks => b.run text (a.run text marks)
  | .alt a b, marks => joinMarks (a.run text marks) (b.run text marks)
  | .repeated a min max _, marks =>
    let all := text.length + 1
    let start := iterate (a.run text) (Nat.min min all) marks
    let rest := match max with
      | some max => Nat.min (max - min) all
      | none => all
    accumulate (a.run text) rest start start
  | .group a, marks => a.run text marks

/-- Whether the pattern matches somewhere in a text. -/
def isMatch (p : Pattern) (text : String) : Bool :=
  let cs := text.toList
  (p.run cs (List.replicate (cs.length + 1) true)).any id

/-- Every place keeps its mark. -/
theorem length_run (text : List Char) (p : Pattern) (marks : List Bool)
    (h : marks.length = text.length + 1) : (p.run text marks).length = text.length + 1 := by
  have hplaces (before : Option Char) (cs : List Char) :
      (placesFrom before cs).length = cs.length + 1 := by
    induction cs generalizing before with
    | nil => rfl
    | cons c cs ih => simp [placesFrom, ih]
  have hiterate (step : List Bool → List Bool)
      (hstep : ∀ m, m.length = text.length + 1 → (step m).length = text.length + 1)
      (count : Nat) (m : List Bool) (hm : m.length = text.length + 1) :
      (iterate step count m).length = text.length + 1 := by
    induction count generalizing m with
    | zero => exact hm
    | succ count ih => exact ih _ (hstep m hm)
  have haccumulate (step : List Bool → List Bool)
      (hstep : ∀ m, m.length = text.length + 1 → (step m).length = text.length + 1)
      (count : Nat) (r m : List Bool) (hr : r.length = text.length + 1)
      (hm : m.length = text.length + 1) :
      (accumulate step count r m).length = text.length + 1 := by
    induction count generalizing r m with
    | zero => exact hr
    | succ count ih =>
      simp only [accumulate]
      split
      · exact hr
      · exact ih _ _ (by simp [joinMarks, hr, hstep m hm]) (hstep m hm)
  induction p generalizing marks with
  | empty => exact h
  | set s => simp [run, h]
  | look l => simp [run, h, hplaces]
  | seq a b iha ihb => exact ihb _ (iha _ h)
  | alt a b iha ihb => simp [run, joinMarks, iha _ h, ihb _ h]
  | repeated a min max greedy ih =>
    exact haccumulate _ ih _ _ _ (hiterate _ ih _ _ h) (hiterate _ ih _ _ h)
  | group a ih => exact ih _ h

end Pattern

end Specloom.Regex
