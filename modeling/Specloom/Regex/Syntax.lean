/-!
# Regular expressions as written

The syntax tree of a regular expression, before flags are applied and classes are looked up.

## Main definitions

* `Expr`: an expression as written
* `ClassItem`: what stands between brackets
* `Expr.nesting`: how deep an expression is nested
-/

namespace Specloom.Regex

/-- An entry in a list of flags, as in `(?i-s)`: a letter or the minus sign. -/
inductive FlagItem where
  | negation
  | flag (letter : Char)
deriving DecidableEq, Repr

/-- A condition on a place between characters. -/
inductive Anchor where
  | lineStart | lineEnd | textStart | textEnd
  | wordBoundary | notWordBoundary
  | wordStart | wordEnd | wordStartHalf | wordEndHalf
deriving DecidableEq, Repr

/-- The classes `\d`, `\s` and `\w`. -/
inductive PerlClass where
  | digit | space | word
deriving DecidableEq, Repr

/-- The name of a character property: alone, or a property with a value, perhaps negated. -/
inductive PropertyName where
  | single (name : String)
  | valued (negated : Bool) (name value : String)
deriving DecidableEq, Repr

/-- An operation on two classes. -/
inductive ClassOp where
  | intersection | difference | symmetricDifference
deriving DecidableEq, Repr

/-- What stands between the brackets of a class. A literal written as `\x` and two digits is marked,
for it can stand for an octet. -/
inductive ClassItem where
  | empty
  | literal (c : Char) (octet : Bool)
  | range (first last : Char) (octets : Bool)
  | ascii (negated : Bool) (name : String)
  | perl (negated : Bool) (kind : PerlClass)
  | property (negated : Bool) (name : PropertyName)
  | bracketed (negated : Bool) (item : ClassItem)
  | union (items : List ClassItem)
  | op (kind : ClassOp) (left right : ClassItem)
deriving Repr

/-- A regular expression as written. -/
inductive Expr where
  | empty
  | flags (items : List FlagItem)
  | literal (c : Char) (octet : Bool)
  | dot
  | anchor (a : Anchor)
  | perl (negated : Bool) (kind : PerlClass)
  | property (negated : Bool) (name : PropertyName)
  | class (negated : Bool) (item : ClassItem)
  | repetition (e : Expr) (min : Nat) (max : Option Nat) (greedy : Bool)
  | group (captures : Bool) (flags : List FlagItem) (e : Expr)
  | alternation (branches : List Expr)
  | concat (parts : List Expr)
deriving Repr

mutual

/-- How deep the brackets and operations of a class are nested. -/
def ClassItem.nesting : ClassItem → Nat
  | .bracketed _ item => item.nesting + 1
  | .union items => nestingOfItems items + 1
  | .op _ left right => max left.nesting right.nesting + 1
  | _ => 0

/-- The greatest nesting among the items of a class. -/
def nestingOfItems : List ClassItem → Nat
  | [] => 0
  | item :: rest => max item.nesting (nestingOfItems rest)

end

mutual

/-- How deep an expression is nested. -/
def Expr.nesting : Expr → Nat
  | .class _ item => item.nesting + 1
  | .repetition e _ _ _ | .group _ _ e => e.nesting + 1
  | .alternation es | .concat es => nestingOfParts es + 1
  | _ => 0

/-- The greatest nesting among parts. -/
def nestingOfParts : List Expr → Nat
  | [] => 0
  | e :: rest => max e.nesting (nestingOfParts rest)

end

end Specloom.Regex
