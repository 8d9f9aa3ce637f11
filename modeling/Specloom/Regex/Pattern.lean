import Specloom.Regex.CharSet
import Specloom.Regex.Parser

/-!
# Regular expressions with flags applied

An expression as written becomes a pattern: flags are applied where they hold, and classes become
sets of characters. Of groups, those that capture what they match are kept.

## Main definitions

* `Pattern`: a pattern
* `Pattern.compile`: the pattern of a source text
-/

namespace Specloom.Regex

/-- A condition on the characters before and after a place. -/
inductive Look where
  | start | stop
  | lineStart | lineEnd
  | lineStartCrlf | lineEndCrlf
  | boundary (unicode : Bool) | notBoundary (unicode : Bool)
  | wordStart (unicode : Bool) | wordEnd (unicode : Bool)
  | notAfterWord (unicode : Bool) | notBeforeWord (unicode : Bool)
deriving DecidableEq, Repr

/-- A regular expression. -/
inductive Pattern where
  | empty
  | set (s : CharSet)
  | look (l : Look)
  | seq (a b : Pattern)
  | alt (a b : Pattern)
  | repeated (a : Pattern) (min : Nat) (max : Option Nat) (greedy : Bool)
  | group (a : Pattern)
deriving Repr

/-- The flags that hold at a place. -/
structure Flags where
  caseless : Bool := false
  multiLine : Bool := false
  dotAll : Bool := false
  crlf : Bool := false
  unicode : Bool := true
  swapGreed : Bool := false
deriving DecidableEq, Repr

namespace Flags

/-- Sets or clears the flag with a letter. -/
def set (flags : Flags) (letter : Char) (on : Bool) : Flags :=
  match letter with
  | 'i' => { flags with caseless := on }
  | 'm' => { flags with multiLine := on }
  | 's' => { flags with dotAll := on }
  | 'R' => { flags with crlf := on }
  | 'u' => { flags with unicode := on }
  | 'U' => { flags with swapGreed := on }
  | _ => flags

/-- Applies a list of flags: those after the minus sign are cleared. -/
def applyFrom (flags : Flags) (on : Bool) : List FlagItem → Flags
  | [] => flags
  | .negation :: rest => flags.applyFrom false rest
  | .flag letter :: rest => (flags.set letter on).applyFrom on rest

/-- Applies a list of flags. -/
def apply (flags : Flags) (items : List FlagItem) : Flags :=
  flags.applyFrom true items

/-- A set, made caseless if the flags say so. -/
def fold (flags : Flags) (s : CharSet) : CharSet :=
  if !flags.caseless then s else if flags.unicode then .caseless s else .asciiCaseless s

/-- A class with its negation: case comes first. Outside of Unicode, a class must not leave
ASCII. -/
def foldAndNegate (flags : Flags) (negated : Bool) (s : CharSet) : Except Fault CharSet :=
  if negated ∧ !flags.unicode then .error .invalidUtf8
  else .ok (.negateIf negated (flags.fold s))

/-- The condition that an anchor states. -/
def look (flags : Flags) : Anchor → Look
  | .lineStart =>
    if !flags.multiLine then .start else if flags.crlf then .lineStartCrlf else .lineStart
  | .lineEnd =>
    if !flags.multiLine then .stop else if flags.crlf then .lineEndCrlf else .lineEnd
  | .textStart => .start
  | .textEnd => .stop
  | .wordBoundary => .boundary flags.unicode
  | .notWordBoundary => .notBoundary flags.unicode
  | .wordStart => .wordStart flags.unicode
  | .wordEnd => .wordEnd flags.unicode
  | .wordStartHalf => .notAfterWord flags.unicode
  | .wordEndHalf => .notBeforeWord flags.unicode

/-- The set of the dot: all characters, or all but line ends. -/
def dot (flags : Flags) : Except Fault CharSet :=
  if !flags.unicode then .error .invalidUtf8
  else if flags.dotAll then .ok .all
  else if flags.crlf then .ok (.compl (.runs [⟨0x0a, 0x0a⟩, ⟨0x0d, 0x0d⟩]))
  else .ok (.compl (.runs [⟨0x0a, 0x0a⟩]))

/-- The set of one literal outside a class. -/
def literal (flags : Flags) (c : Char) (octet : Bool) : Except Fault CharSet :=
  if !flags.unicode ∧ octet ∧ 0x80 ≤ c.toNat then .error .invalidUtf8
  else .ok (flags.fold (.between c c))

/-- Refuses a literal in a class that is not of Unicode, unless it is of ASCII. -/
def checkMember (flags : Flags) (c : Char) (octet : Bool) : Except Fault Unit :=
  if flags.unicode ∨ c.toNat < 0x80 then .ok ()
  else if octet then .error .invalidUtf8
  else .error .unicodeNotAllowed

/-- The set of a class such as `\w`. -/
def perl (flags : Flags) (negated : Bool) (kind : PerlClass) : Except Fault CharSet :=
  if negated ∧ !flags.unicode then .error .invalidUtf8
  else .ok (.negateIf negated (perlSet flags.unicode kind))

/-- The set of a property. -/
def property (flags : Flags) (negated : Bool) (name : PropertyName) : Except Fault CharSet := do
  if !flags.unicode then throw .unicodeNotAllowed
  flags.foldAndNegate negated (← propertySet name)

mutual

/-- The set of an item of a class. -/
def item (flags : Flags) : ClassItem → Except Fault CharSet
  | .empty => .ok .empty
  | .literal c octet => do
    flags.checkMember c octet
    return .between c c
  | .range first last octets => do
    flags.checkMember first octets
    flags.checkMember last octets
    return .between first last
  | .ascii negated name => flags.foldAndNegate negated (asciiSet name)
  | .perl negated kind => flags.perl negated kind
  | .property negated name => flags.property negated name
  | .bracketed negated inner => do flags.foldAndNegate negated (← flags.item inner)
  | .union parts => flags.items parts
  | .op kind left right => do
    let a ← flags.item left
    let b ← flags.item right
    return .combine kind (flags.fold a) (flags.fold b)

/-- The union of the items of a class. -/
def items (flags : Flags) : List ClassItem → Except Fault CharSet
  | [] => .ok .empty
  | part :: rest => do return .union (← flags.item part) (← flags.items rest)

end

mutual

/-- The pattern of an expression, and the flags that hold after it. -/
def pattern (flags : Flags) : Expr → Except Fault (Pattern × Flags)
  | .empty => .ok (.empty, flags)
  | .flags entries => .ok (.empty, flags.apply entries)
  | .literal c octet => (flags.literal c octet).map fun s => (.set s, flags)
  | .dot => flags.dot.map fun s => (.set s, flags)
  | .anchor a => .ok (.look (flags.look a), flags)
  | .perl negated kind => (flags.perl negated kind).map fun s => (.set s, flags)
  | .property negated name => (flags.property negated name).map fun s => (.set s, flags)
  | .class negated inner => do
    return (.set (← flags.foldAndNegate negated (← flags.item inner)), flags)
  | .repetition e min max greedy =>
    (flags.pattern e).map fun (p, after) =>
      (.repeated p min max (greedy != flags.swapGreed), after)
  | .group captures entries e =>
    ((flags.apply entries).pattern e).map fun (p, _) => (if captures then .group p else p, flags)
  | .alternation branches => flags.branches branches
  | .concat parts => flags.parts parts

/-- The pattern of branches, of which there is at least one; flags set in one hold in the next. -/
def branches (flags : Flags) : List Expr → Except Fault (Pattern × Flags)
  | [] => .ok (.set .empty, flags)
  | e :: rest => do
    let (a, flags) ← flags.pattern e
    let (b, flags) ← flags.branches rest
    return (.alt a b, flags)

/-- The pattern of parts that follow each other. -/
def parts (flags : Flags) : List Expr → Except Fault (Pattern × Flags)
  | [] => .ok (.empty, flags)
  | e :: rest => do
    let (a, flags) ← flags.pattern e
    let (b, flags) ← flags.parts rest
    return (.seq a b, flags)

end

end Flags

/-- The pattern of a source text. -/
def Pattern.compile (source : String) : Except Fault Pattern := do
  return (← ({} : Flags).pattern (← parse source.toList)).1

end Specloom.Regex
