import Specloom.Regex.Fault
import Specloom.Regex.Property
import Specloom.Regex.Syntax
import Specloom.Text.Blank
import Specloom.Text.Hex

/-!
# Pieces of a regular expression

The scanners for the pieces of a regular expression that hold no other expressions: escapes,
properties, counts, flags and group names. Where blanks are insignificant, they are passed over
inside these pieces too.

## Main definitions

* `Scanned`: a piece and what follows it
* `skipBlanks`: passes over blanks and comments
* `scanEscape`, `scanCount`, `scanFlags`, `scanGroupName`: the scanners
-/

namespace Specloom.Regex

open Text

/-- A piece of an expression and what follows it. -/
abbrev Scanned (α : Type) := α × List Char

/-- Passes over blanks and over comments, which reach to the end of their line. -/
def skipFrom (inComment : Bool) : List Char → List Char
  | [] => []
  | c :: rest =>
    if inComment then skipFrom (c ≠ '\n') rest
    else if isBlank c then skipFrom false rest
    else if c = '#' then skipFrom true rest
    else c :: rest

/-- Passes over blanks and comments if they are insignificant. -/
def skipBlanks (verbose : Bool) (text : List Char) : List Char :=
  if verbose then skipFrom false text else text

/-- Whether a character has a meaning of its own in an expression. -/
def isMeta (c : Char) : Bool :=
  "\\.+*?()|[]\x7b\x7d^$#&-~".toList.contains c

/-- Whether a character may follow a backslash to stand for itself: any ASCII character but letters,
digits and angle brackets. -/
def isEscapable (c : Char) : Bool :=
  c.toNat < 0x80 && !c.isAlphanum && c != '<' && c != '>'

/-- The character with a code point, if it has one. -/
def charOf? (n : Nat) : Option Char :=
  if h : n.isValidChar then some (Char.ofNatAux n h) else none

/-- The character that hexadecimal digits stand for. -/
def charOfHex (digits : List Char) : Except Fault Char :=
  match charOf? (digits.foldl (fun n c => 16 * n + (hexValue? c).getD 0) 0) with
  | some c => .ok c
  | none => .error .escapeHexInvalid

/-- Reads `count` hexadecimal digits. -/
def scanHexDigits (verbose : Bool) : Nat → List Char → Except Fault (Scanned (List Char))
  | 0, text => .ok ([], text)
  | _ + 1, [] => .error .escapeUnexpectedEnd
  | count + 1, c :: rest =>
    if isHexDigit c then do
      let (digits, rest) ← scanHexDigits verbose count (skipBlanks verbose rest)
      return (c :: digits, rest)
    else .error .escapeHexInvalidDigit

/-- Reads hexadecimal digits up to a closing brace; `digits` are those before. -/
def scanHexBraced (verbose : Bool) (digits : List Char) :
    Nat → List Char → Except Fault (Scanned (List Char))
  | 0, _ => .error .escapeUnexpectedEnd
  | fuel + 1, text =>
    match skipBlanks verbose text with
    | [] => .error .escapeUnexpectedEnd
    | c :: rest =>
      if c = '\x7d' then
        if digits = [] then .error .escapeHexEmpty else .ok (digits, skipBlanks verbose rest)
      else if isHexDigit c then scanHexBraced verbose (digits ++ [c]) fuel rest
      else .error .escapeHexInvalidDigit

/-- Reads a code point after `\x`, `\u` or `\U`. -/
def scanHex (verbose : Bool) (letter : Char) (text : List Char) : Except Fault (Scanned Expr) :=
  match skipBlanks verbose text with
  | [] => .error .escapeUnexpectedEnd
  | '\x7b' :: rest => do
    let (digits, rest) ← scanHexBraced verbose [] (rest.length + 1) rest
    return (.literal (← charOfHex digits) false, rest)
  | text => do
    let count := if letter = 'x' then 2 else if letter = 'u' then 4 else 8
    let (digits, rest) ← scanHexDigits verbose count text
    return (.literal (← charOfHex digits) (letter = 'x'), rest)

/-- Reads the characters before a closing brace. -/
def scanToBrace (verbose : Bool) : Nat → List Char → Except Fault (Scanned (List Char))
  | 0, _ => .error .escapeUnexpectedEnd
  | fuel + 1, text =>
    match skipBlanks verbose text with
    | [] => .error .escapeUnexpectedEnd
    | c :: rest =>
      if c = '\x7d' then .ok ([], rest)
      else (scanToBrace verbose fuel rest).map fun (cs, rest) => (c :: cs, rest)

/-- The parts around the first `!=` of a text. -/
def splitUnequal? : List Char → Option (List Char × List Char)
  | '!' :: '=' :: rest => some ([], rest)
  | [] => none
  | c :: rest => (splitUnequal? rest).map fun (a, b) => (c :: a, b)

/-- The property named between braces: with `!=`, else with a colon, else with an equals sign, else
alone. -/
def propertyOf (name : List Char) : PropertyName :=
  let valued (negated : Bool) (parts : List Char × List Char) : PropertyName :=
    .valued negated (String.ofList parts.1) (String.ofList parts.2)
  match splitUnequal? name, splitFirst? ':' name, splitFirst? '=' name with
  | some parts, _, _ => valued true parts
  | none, some parts, _ => valued false parts
  | none, none, some parts => valued false parts
  | none, none, none => .single (String.ofList name)

/-- Reads a property after `\p` or `\P`. -/
def scanProperty (verbose : Bool) (negated : Bool) (text : List Char) :
    Except Fault (Scanned Expr) :=
  match skipBlanks verbose text with
  | [] => .error .escapeUnexpectedEnd
  | '\x7b' :: rest => do
    let (name, rest) ← scanToBrace verbose (rest.length + 1) rest
    return (.property negated (propertyOf name), rest)
  | '\\' :: _ => .error .propertyInvalid
  | c :: rest => .ok (.property negated (.single (String.ofList [c])), skipBlanks verbose rest)

/-- Whether a character may stand in the name of a special word boundary. -/
def isBoundaryChar (c : Char) : Bool :=
  c.isAlpha || c == '-'

/-- Reads the name of a special word boundary. -/
def scanBoundaryName (verbose : Bool) : Nat → List Char → List Char × List Char
  | 0, text => ([], text)
  | _ + 1, [] => ([], [])
  | fuel + 1, c :: rest =>
    if isBoundaryChar c then
      let (name, rest) := scanBoundaryName verbose fuel (skipBlanks verbose rest)
      (c :: name, rest)
    else ([], c :: rest)

/-- Reads what follows `\b`: a special word boundary in braces, or nothing. A brace that holds
something else is left to be read as a count. -/
def scanBoundary (verbose : Bool) (text : List Char) : Except Fault (Scanned Expr) :=
  match text with
  | '\x7b' :: inner =>
    match skipBlanks verbose inner with
    | [] => .error .wordBoundaryUnexpectedEnd
    | c :: rest =>
      if !isBoundaryChar c then .ok (.anchor .wordBoundary, text)
      else
        match scanBoundaryName verbose (rest.length + 2) (c :: rest) with
        | (name, '\x7d' :: after) =>
          if name = "start".toList then .ok (.anchor .wordStart, after)
          else if name = "end".toList then .ok (.anchor .wordEnd, after)
          else if name = "start-half".toList then .ok (.anchor .wordStartHalf, after)
          else if name = "end-half".toList then .ok (.anchor .wordEndHalf, after)
          else .error .wordBoundaryUnrecognized
        | _ => .error .wordBoundaryUnclosed
  | text => .ok (.anchor .wordBoundary, text)

/-- Reads what follows a backslash. -/
def scanEscape (verbose : Bool) : List Char → Except Fault (Scanned Expr)
  | [] => .error .escapeUnexpectedEnd
  | c :: rest =>
    if c.isDigit then .error .backreference
    else if c = 'x' ∨ c = 'u' ∨ c = 'U' then scanHex verbose c rest
    else if c = 'p' ∨ c = 'P' then scanProperty verbose (c = 'P') rest
    else if c = 'd' ∨ c = 'D' then .ok (.perl (c = 'D') .digit, rest)
    else if c = 's' ∨ c = 'S' then .ok (.perl (c = 'S') .space, rest)
    else if c = 'w' ∨ c = 'W' then .ok (.perl (c = 'W') .word, rest)
    else if isMeta c ∨ isEscapable c then .ok (.literal c false, rest)
    else
      match c with
      | 'a' => .ok (.literal '\x07' false, rest)
      | 'f' => .ok (.literal '\x0c' false, rest)
      | 't' => .ok (.literal '\t' false, rest)
      | 'n' => .ok (.literal '\n' false, rest)
      | 'r' => .ok (.literal '\r' false, rest)
      | 'v' => .ok (.literal '\x0b' false, rest)
      | 'A' => .ok (.anchor .textStart, rest)
      | 'z' => .ok (.anchor .textEnd, rest)
      | 'b' => scanBoundary verbose rest
      | 'B' => .ok (.anchor .notWordBoundary, rest)
      | '<' => .ok (.anchor .wordStart, rest)
      | '>' => .ok (.anchor .wordEnd, rest)
      | _ => .error .escapeUnrecognized

/-- Reads decimal digits, passing over blanks between them where they are insignificant. -/
def scanDigits (verbose : Bool) : Nat → List Char → List Char × List Char
  | 0, text => ([], text)
  | _ + 1, [] => ([], [])
  | fuel + 1, c :: rest =>
    if c.isDigit then
      let (digits, rest) := scanDigits verbose fuel (skipBlanks verbose rest)
      (c :: digits, rest)
    else ([], c :: rest)

/-- Reads a number of 32 bits with blanks around it. The fault, if there is one, is returned beside
the rest, since the rest is inspected first. -/
def scanDecimal (verbose : Bool) (text : List Char) : Except Fault Nat × List Char :=
  let (digits, rest) := scanDigits verbose (text.length + 1) (text.dropWhile isBlank)
  let rest := skipBlanks verbose (rest.dropWhile isBlank)
  let n := digits.foldl (fun n c => 10 * n + (c.toNat - '0'.toNat)) 0
  if digits = [] then (.error .countMissing, rest)
  else if n < Nat.pow 2 32 then (.ok n, rest)
  else (.error .decimalInvalid, rest)

/-- Reads a question mark after an operator, which makes it lazy. -/
def scanGreed : List Char → Bool × List Char
  | '?' :: rest => (false, rest)
  | rest => (true, rest)

/-- Reads a count after its opening brace: `n`, `n,` or `n,m`, each up to the closing brace. A
question mark after it makes it lazy. -/
def scanCount (verbose : Bool) (text : List Char) :
    Except Fault (Scanned (Nat × Option Nat × Bool)) :=
  match skipBlanks verbose text with
  | [] => .error .countUnclosed
  | text =>
    let (first, rest) := scanDecimal verbose text
    let close (min : Nat) (max : Option Nat) (rest : List Char) :
        Except Fault (Scanned (Nat × Option Nat × Bool)) :=
      match rest with
      | '\x7d' :: rest =>
        let (greedy, rest) := scanGreed (skipBlanks verbose rest)
        if max.all (min ≤ ·) then .ok ((min, max, greedy), rest) else .error .countInvalid
      | _ => .error .countUnclosed
    match rest with
    | [] => .error .countUnclosed
    | ',' :: rest =>
      match skipBlanks verbose rest with
      | [] => .error .countUnclosed
      | '\x7d' :: rest => do close (← first) none ('\x7d' :: rest)
      | rest => do
        let min ← first
        let (second, rest) := scanDecimal verbose rest
        close min (some (← second)) rest
    | rest => do
      let n ← first
      close n (some n) rest

/-- Reads flags up to a colon or a closing parenthesis, which is left. -/
def scanFlags (items : List FlagItem) (negated : Bool) :
    List Char → Except Fault (Scanned (List FlagItem))
  | [] => .error .flagUnexpectedEnd
  | c :: rest =>
    if c = ':' ∨ c = ')' then
      if negated then .error .flagDanglingNegation else .ok (items, c :: rest)
    else if c = '-' then
      if items.contains .negation then .error .flagRepeatedNegation
      else scanFlags (items ++ [.negation]) true rest
    else if !"imsUuRx".toList.contains c then .error .flagUnrecognized
    else if items.contains (.flag c) then .error .flagDuplicate
    else scanFlags (items ++ [.flag c]) false rest

/-- Whether a character may stand in the name of a group. -/
def isNameChar (first : Bool) (c : Char) : Bool :=
  let alphabetic := CodeRange.anyContains alphabeticRuns c.toNat
  if first then c == '_' || alphabetic
  else c == '_' || c == '.' || c == '[' || c == ']' || alphabetic ||
    CodeRange.anyContains numericRuns c.toNat

/-- Reads the name of a group up to its closing angle bracket. -/
def scanNameFrom (name : List Char) : List Char → Except Fault (Scanned (List Char))
  | [] => .error .groupNameUnexpectedEnd
  | c :: rest =>
    if c = '>' then if name = [] then .error .groupNameEmpty else .ok (name, rest)
    else if isNameChar name.isEmpty c then scanNameFrom (name ++ [c]) rest
    else .error .groupNameInvalid

/-- Reads the name of a group. -/
def scanGroupName (text : List Char) : Except Fault (Scanned (List Char)) :=
  scanNameFrom [] text

end Specloom.Regex
