import Specloom.Regex.Match

/-!
# Captures

A search lists the ways in which a pattern matches, preferred ways first: a match further left, the
first of two branches, and more repetitions, or fewer if they are lazy. The first way decides what
each group captures. Groups are numbered from one, in the order in which they open.

## Main definitions

* `Cursor`: a place in a text with what has been captured before it
* `Pattern.ways`: the ways in which a pattern matches from a place on
* `Pattern.captures?`: what the groups of a pattern capture in a text
-/

namespace Specloom.Regex

/-- A place in a text during a match, and what groups have captured so far, the last first. -/
structure Cursor where
  before : Option Char
  rest : List Char
  groups : List (Nat × List Char)
deriving DecidableEq, Repr

namespace Cursor

/-- The place of a cursor. -/
def place (s : Cursor) : Place :=
  ⟨s.before, s.rest.head?⟩

/-- The way over one character of a set. -/
def step (members : CharSet) (s : Cursor) : List Cursor :=
  match s.rest with
  | [] => []
  | c :: rest => if members.contains c.toNat then [⟨some c, rest, s.groups⟩] else []

theorem step_cons (members : CharSet) (before : Option Char) (c : Char) (rest : List Char)
    (groups : List (Nat × List Char)) : step members ⟨before, c :: rest, groups⟩ =
      if members.contains c.toNat then [⟨some c, rest, groups⟩] else [] := rfl

/-- Notes what a group has matched that began where `rest` was left. -/
def capture (group : Nat) (rest : List Char) (s : Cursor) : Cursor :=
  { s with groups := (group, rest.take (rest.length - s.rest.length)) :: s.groups }

end Cursor

/-- The cursors at the places of a text that follows a given character. -/
def cursorsFrom (before : Option Char) : List Char → List Cursor
  | [] => [⟨before, [], []⟩]
  | c :: rest => ⟨before, c :: rest, []⟩ :: cursorsFrom (some c) rest

/-- The ways over a number of steps. -/
def waysExactly (step : Cursor → List Cursor) : Nat → Cursor → List Cursor
  | 0, s => [s]
  | count + 1, s => (step s).flatMap (waysExactly step count)

/-- The ways over at most a number of steps. A step that takes nothing is the last. -/
def waysUpTo (step : Cursor → List Cursor) (greedy : Bool) : Nat → Cursor → List Cursor
  | 0, s => [s]
  | count + 1, s =>
    let more := (step s).flatMap fun next =>
      if next.rest.length < s.rest.length then waysUpTo step greedy count next else [next]
    if greedy then more ++ [s] else s :: more

namespace Pattern

/-- The number of groups. -/
def groupCount : Pattern → Nat
  | .empty | .set _ | .look _ => 0
  | .seq a b | .alt a b => a.groupCount + b.groupCount
  | .repeated a _ _ _ => a.groupCount
  | .group a => a.groupCount + 1

/-- The ways in which a pattern matches from a place on, preferred ways first; `first` is the number
of its first group. Repetitions without a bound end with the text, for each but the last takes
something. -/
def ways : Pattern → Nat → Cursor → List Cursor
  | .empty, _, s => [s]
  | .set members, _, s => s.step members
  | .look l, _, s => if l.holds s.place then [s] else []
  | .seq a b, first, s => (a.ways first s).flatMap (b.ways (first + a.groupCount))
  | .alt a b, first, s => a.ways first s ++ b.ways (first + a.groupCount) s
  | .repeated a min max greedy, first, s =>
    (waysExactly (a.ways first) min s).flatMap fun s =>
      waysUpTo (a.ways first) greedy ((max.map (· - min)).getD (s.rest.length + 1)) s
  | .group a, first, s => (a.ways (first + 1) s).map (Cursor.capture first s.rest)

/-- What the groups of a pattern capture in a text, if it matches somewhere. -/
def captures? (p : Pattern) (text : String) : Option (List (Option (List Char))) :=
  ((cursorsFrom none text.toList).flatMap (p.ways 1)).head?.map fun s =>
    (List.range' 1 p.groupCount).map fun group => s.groups.lookup group

end Pattern

end Specloom.Regex
