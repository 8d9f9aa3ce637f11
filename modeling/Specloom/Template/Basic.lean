import Specloom.Template.Value

/-!
# Templates

A template is text with places to fill in. An expression refers to the values at hand, and may pass
them through filters; conditions and loops choose and repeat parts. Every part that evaluates an
expression knows the line it stands on.

## Main definitions

* `Expr`: an expression
* `Node`: a part of a template
* `Template`: the parts of a template
-/

namespace Specloom.Template

/-- An expression. A choice without a second alternative gives nothing. -/
inductive Expr where
  | name (n : String)
  | literal (v : Value)
  | field (e : Expr) (key : String)
  | filter (e : Expr) (filter : String)
  | not (e : Expr)
  | cond (c yes no : Expr)
deriving Repr

/-- A part of a template. The second branch of a loop is taken if there is nothing to repeat. -/
inductive Node where
  | text (s : String)
  | print (line : Nat) (e : Expr)
  | cond (line : Nat) (c : Expr) (yes no : List Node)
  | loop (line : Nat) (name : String) (e : Expr) (body otherwise : List Node)
deriving Repr

/-- A field of a field, and so on, of a name. -/
def Expr.path (n : String) (keys : List String) : Expr :=
  keys.foldl .field (.name n)

/-- Whole lines. -/
def Node.lines (lines : List String) : Node :=
  .text ("".intercalate (lines.map (· ++ "\n")))

end Specloom.Template

namespace Specloom

/-- A template. -/
abbrev Template := List Template.Node

end Specloom
