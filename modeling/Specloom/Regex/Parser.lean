import Specloom.Regex.Scan

/-!
# Reading regular expressions

Open groups and classes are kept on a stack, with what stands before them.

## Main definitions

* `parseClass`: reads a class after its opening bracket
* `parse`: reads a regular expression
-/

namespace Specloom.Regex

open Text

/-! ### Classes -/

/-- A class that is still open, or the left side of an operation. -/
inductive ClassFrame where
  | bracket (before : List ClassItem) (negated : Bool)
  | op (kind : ClassOp) (left : ClassItem)

/-- The item that some items make up, last first. -/
def unionOf : List ClassItem → ClassItem
  | [] => .empty
  | [item] => item
  | items => .union items.reverse

/-- The names of the ASCII classes. -/
def asciiNames : List String :=
  ["alnum", "alpha", "ascii", "blank", "cntrl", "digit", "graph", "lower", "print", "punct",
    "space", "upper", "word", "xdigit"]

/-- Reads an ASCII class such as `[:alpha:]` after its bracket; another text is no such class. -/
def scanAsciiClass? : List Char → Option (ClassItem × List Char)
  | ':' :: text =>
    let (negated, text) := match text with
      | '^' :: rest => (true, rest)
      | rest => (false, rest)
    let name := text.takeWhile (· ≠ ':')
    match text.drop name.length with
    | ':' :: ']' :: rest =>
      if asciiNames.contains (String.ofList name) then
        some (.ascii negated (String.ofList name), rest)
      else none
    | _ => none
  | _ => none

/-- Reads the opening of a class after its bracket: the negation, and hyphens or a closing bracket
that stand for themselves. -/
def scanClassOpen (verbose : Bool) (text : List Char) :
    Except Fault (Scanned (Bool × List ClassItem)) := do
  let (negated, text) := match skipBlanks verbose text with
    | '^' :: rest => (true, skipBlanks verbose rest)
    | text => (false, text)
  let (hyphens, text) := takeHyphens text.length text
  match text with
  | [] => .error .classUnclosed
  | c :: rest =>
    if hyphens = [] ∧ c = ']' then
      match skipBlanks verbose rest with
      | [] => .error .classUnclosed
      | rest => .ok ((negated, [.literal ']' false]), rest)
    else .ok ((negated, hyphens), c :: rest)
where
  /-- Takes hyphens from the front. -/
  takeHyphens : Nat → List Char → List ClassItem × List Char
    | fuel + 1, '-' :: rest =>
      let (items, rest) := takeHyphens fuel (skipBlanks verbose rest)
      (.literal '-' false :: items, rest)
    | _, text => ([], text)

/-- Reads a character or an escape inside a class. -/
def scanClassPrimitive (verbose : Bool) : List Char → Except Fault (Scanned Expr)
  | [] => .error .classUnclosed
  | '\\' :: rest => scanEscape verbose rest
  | c :: rest => .ok (.literal c false, rest)

/-- An expression that may stand in a class as an item. -/
def itemOf : Expr → Except Fault ClassItem
  | .literal c octet => .ok (.literal c octet)
  | .perl negated kind => .ok (.perl negated kind)
  | .property negated name => .ok (.property negated name)
  | _ => .error .classEscapeInvalid

/-- A range between two literals. -/
def rangeOf : Expr → Expr → Except Fault ClassItem
  | .literal a octetA, .literal b octetB =>
    if a ≤ b then .ok (.range a b (octetA || octetB)) else .error .classRangeInvalid
  | _, _ => .error .classRangeLiteral

/-- Reads an item of a class: a range, or what may begin one. -/
def scanClassRange (verbose : Bool) (text : List Char) : Except Fault (Scanned ClassItem) := do
  let (first, rest) ← scanClassPrimitive verbose text
  match skipBlanks verbose rest with
  | [] => .error .classUnclosed
  | '-' :: after =>
    match skipBlanks verbose after with
    | ']' :: _ | '-' :: _ => return (← itemOf first, '-' :: after)
    | [] => .error .classUnclosed
    | after =>
      let (last, rest) ← scanClassPrimitive verbose after
      return (← rangeOf first last, rest)
  | rest => return (← itemOf first, rest)

/-- Joins an item to the left side of an open operation, if there is one. -/
def closeOp (item : ClassItem) : List ClassFrame → ClassItem × List ClassFrame
  | .op kind left :: frames => (.op kind left item, frames)
  | frames => (item, frames)

/-- Reads a class with its open classes on a stack; `items` are the items so far, last first. -/
def parseClassFrom (verbose : Bool) :
    Nat → List ClassFrame → List ClassItem → List Char → Except Fault (Scanned Expr)
  | 0, _, _, _ => .error .classUnclosed
  | fuel + 1, frames, items, text =>
    let openOp (kind : ClassOp) (rest : List Char) : Except Fault (Scanned Expr) :=
      let (left, frames) := closeOp (unionOf items) frames
      parseClassFrom verbose fuel (.op kind left :: frames) [] rest
    match skipBlanks verbose text with
    | [] => .error .classUnclosed
    | '[' :: rest =>
      match scanAsciiClass? rest with
      | some (item, rest) => parseClassFrom verbose fuel frames (item :: items) rest
      | none => do
        let ((negated, first), rest) ← scanClassOpen verbose rest
        parseClassFrom verbose fuel (.bracket items negated :: frames) first.reverse rest
    | ']' :: rest =>
      match closeOp (unionOf items) frames with
      | (item, [.bracket _ negated]) => .ok (.class negated item, rest)
      | (item, .bracket before negated :: frames) =>
        parseClassFrom verbose fuel frames (.bracketed negated item :: before) rest
      | _ => .error .classUnclosed
    | '&' :: '&' :: rest => openOp .intersection rest
    | '-' :: '-' :: rest => openOp .difference rest
    | '~' :: '~' :: rest => openOp .symmetricDifference rest
    | text => do
      let (item, rest) ← scanClassRange verbose text
      parseClassFrom verbose fuel frames (item :: items) rest

/-- Reads a class after its opening bracket. -/
def parseClass (verbose : Bool) (text : List Char) : Except Fault (Scanned Expr) := do
  let ((negated, first), rest) ← scanClassOpen verbose text
  parseClassFrom verbose (rest.length + 1) [.bracket [] negated] first.reverse rest

/-! ### Groups -/

/-- A group that is still open, or an alternation with its branches so far, last first. -/
inductive GroupFrame where
  | group (before : List Expr) (captures : Bool) (flags : List FlagItem) (verbose : Bool)
  | alternation (branches : List Expr)

/-- The expression that some parts make up, last first. -/
def concatOf : List Expr → Expr
  | [] => .empty
  | [e] => e
  | parts => .concat parts.reverse

/-- The alternation of branches, last first. -/
def alternationOf : List Expr → Expr
  | [] => .empty
  | [e] => e
  | branches => .alternation branches.reverse

/-- The state that a list of flags gives to one of them, if it names it. -/
def flagState? (letter : Char) (enable : Bool) : List FlagItem → Option Bool
  | [] => none
  | .negation :: rest => flagState? letter false rest
  | .flag c :: rest => if c = letter then some enable else flagState? letter enable rest

/-- The opening of a group: flags that hold from here on, or a group, which either captures what it
matches, perhaps under a name, or has flags of its own. -/
inductive GroupOpen where
  | setFlags (items : List FlagItem)
  | group (captures : Bool) (flags : List FlagItem) (name : Option (List Char))

/-- Reads the opening of a group after its parenthesis. -/
def scanGroupOpen (verbose : Bool) (text : List Char) : Except Fault (Scanned GroupOpen) :=
  match skipBlanks verbose text with
  | '?' :: '=' :: _ | '?' :: '!' :: _ | '?' :: '<' :: '=' :: _ | '?' :: '<' :: '!' :: _ =>
    .error .lookAround
  | '?' :: 'P' :: '<' :: rest | '?' :: '<' :: rest =>
    (scanGroupName rest).map fun (name, rest) => (.group true [] (some name), rest)
  | ['?'] => .error .groupUnclosed
  | '?' :: rest => do
    match ← scanFlags [] false rest with
    | ([], ')' :: _) => .error .repetitionMissing
    | (items, ')' :: rest) => return (.setFlags items, rest)
    | (items, rest) => return (.group false items none, rest.drop 1)
  | text => .ok (.group true [] none, text)

/-- Whether an operator may repeat an expression. -/
def isRepeatable : Expr → Bool
  | .empty | .flags _ => false
  | _ => true

/-- Repeats the last part. -/
def repeatLast (parts : List Expr) (min : Nat) (max : Option Nat) (greedy : Bool) :
    Except Fault (List Expr) :=
  match parts with
  | e :: before =>
    if isRepeatable e then .ok (.repetition e min max greedy :: before)
    else .error .repetitionMissing
  | [] => .error .repetitionMissing

/-- Closes a group at its parenthesis: the parts before it with the group, and the blanks rule
outside. -/
def closeGroup (parts : List Expr) :
    List GroupFrame → Except Fault (List Expr × Bool × List GroupFrame)
  | .group before captures flags verbose :: frames =>
    .ok (.group captures flags (concatOf parts) :: before, verbose, frames)
  | .alternation branches :: .group before captures flags verbose :: frames =>
    .ok (.group captures flags (alternationOf (concatOf parts :: branches)) :: before, verbose,
      frames)
  | _ => .error .groupUnopened

/-- Closes the whole expression at the end of the text. -/
def closeAll (parts : List Expr) : List GroupFrame → Except Fault Expr
  | [] => .ok (concatOf parts)
  | [.alternation branches] => .ok (alternationOf (concatOf parts :: branches))
  | _ => .error .groupUnclosed

/-- Reads an expression with its open groups on a stack; `parts` are the parts so far, last first,
and `names` the names of groups met so far. -/
def parseFrom : Nat → Bool → List (List Char) → List GroupFrame → List Expr → List Char →
    Except Fault Expr
  | 0, _, _, _, _, _ => .error .groupUnclosed
  | fuel + 1, verbose, names, frames, parts, text =>
    match skipBlanks verbose text with
    | [] => closeAll parts frames
    | '(' :: rest => do
      match ← scanGroupOpen verbose rest with
      | (.setFlags items, rest) =>
        parseFrom fuel ((flagState? 'x' true items).getD verbose) names frames
          (.flags items :: parts) rest
      | (.group captures flags name, rest) =>
        if name.any names.contains then .error .groupNameDuplicate
        else
          parseFrom fuel ((flagState? 'x' true flags).getD verbose) (name.toList ++ names)
            (.group parts captures flags verbose :: frames) [] rest
    | ')' :: rest => do
      let (parts, verbose, frames) ← closeGroup parts frames
      parseFrom fuel verbose names frames parts rest
    | '|' :: rest =>
      match frames with
      | .alternation branches :: frames =>
        parseFrom fuel verbose names (.alternation (concatOf parts :: branches) :: frames) [] rest
      | frames => parseFrom fuel verbose names (.alternation [concatOf parts] :: frames) [] rest
    | '[' :: rest => do
      let (e, rest) ← parseClass verbose rest
      parseFrom fuel verbose names frames (e :: parts) rest
    | '?' :: rest => do
      let (greedy, rest) := scanGreed rest
      parseFrom fuel verbose names frames (← repeatLast parts 0 (some 1) greedy) rest
    | '*' :: rest => do
      let (greedy, rest) := scanGreed rest
      parseFrom fuel verbose names frames (← repeatLast parts 0 none greedy) rest
    | '+' :: rest => do
      let (greedy, rest) := scanGreed rest
      parseFrom fuel verbose names frames (← repeatLast parts 1 none greedy) rest
    | '\x7b' :: rest => do
      -- the operand is inspected before the count
      let _ ← repeatLast parts 0 none true
      let ((min, max, greedy), rest) ← scanCount verbose rest
      parseFrom fuel verbose names frames (← repeatLast parts min max greedy) rest
    | '\\' :: rest => do
      let (e, rest) ← scanEscape verbose rest
      parseFrom fuel verbose names frames (e :: parts) rest
    | '.' :: rest => parseFrom fuel verbose names frames (.dot :: parts) rest
    | '^' :: rest => parseFrom fuel verbose names frames (.anchor .lineStart :: parts) rest
    | '$' :: rest => parseFrom fuel verbose names frames (.anchor .lineEnd :: parts) rest
    | c :: rest => parseFrom fuel verbose names frames (.literal c false :: parts) rest

/-- How deep an expression may be nested. -/
def maxNesting : Nat := 250

/-- Reads a regular expression. -/
def parse (text : List Char) : Except Fault Expr := do
  let e ← parseFrom (text.length + 1) false [] [] [] text
  if e.nesting ≤ maxNesting then return e else .error .nestedTooDeep

end Specloom.Regex
