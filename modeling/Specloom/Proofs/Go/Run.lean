import Mathlib.Data.List.Forall2
import Specloom.Command.Rule
import Specloom.Proofs.Go.Statement
import Specloom.Regex.Match
import Specloom.Text.Integer

/-!
# Runs of checks

Checks run on a receiver `x`, a struct, one after the other: the first whose condition holds ends
the run with the fault that it returns. What has no value, such as a member that the struct lacks or
a comparison of a text with a number, has no run.

## Main definitions

* `Value`: a value, and `Scope`: what names stand for
* `Expr.eval?`: the value of an expression
* `Statement.run?`, `run?`: what a check finds, and how checks end

## Main results

* `run?_flatMap`: checks that are made for every element of a list
-/

namespace Specloom.Go

open Text

/-- A value. Of a pointer only matters whether it is `nil`. -/
inductive Value where
  | nil
  | pointer
  | text (s : String)
  | number (n : Nat)
  | truth (b : Bool)
  /-- A result of the functions for faults of fields. -/
  | fault (f : FieldFault)
  /-- A value that checks do not look into. -/
  | other
deriving DecidableEq, Repr

/-- What names stand for in a check. -/
structure Scope where
  /-- The members of the receiver. -/
  member? : String → Option Value
  /-- The variables of regular expressions. -/
  pattern? : String → Option Regex.Pattern

/-- The value of a comparison. -/
def Comparison.apply? : Comparison → Value → Value → Option Value
  | .equal, .text a, .text b => some (.truth (a = b))
  | .differs, .text a, .text b => some (.truth (a ≠ b))
  | .equal, .nil, .nil => some (.truth true)
  | .equal, .pointer, .nil => some (.truth false)
  | .greater, .number a, .number b => some (.truth (a > b))
  | _, _, _ => none

/-- The value of a call: of a function of the standard library, of a regular expression, or of one
of the functions for faults. -/
def Scope.call? (scope : Scope) : Expr → List Value → Option Value
  | .member of name, [.text s] =>
    if name = "MatchString" then
      (scope.pattern? of).map fun pattern => .truth (pattern.isMatch s)
    else if of = "utf8" ∧ name = "RuneCountInString" then some (.number s.length)
    else none
  | .member of name, [.text s, .text cs] =>
    if of = "strings" ∧ name = "ContainsAny" then some (.truth (s.toList.any cs.toList.contains))
    else none
  | .word name, [.text key] =>
    if name = "fieldEmptyValidationError" then some (.fault (.empty key))
    else if name = "noNewlinesValidationError" then some (.fault (.newlines key))
    else none
  | .word name, [.text key, .number limit, .number length] =>
    if name = "fieldLengthValidationError" then some (.fault (.tooLong key limit length)) else none
  | .word name, [.text key, .text pattern] =>
    if name = "fieldPatternValidationError" then some (.fault (.patternMismatch key pattern))
    else none
  | _, _ => none

mutual

/-- The value of an expression. -/
def Expr.eval? (scope : Scope) : Expr → Option Value
  | .text s => some (.text s)
  | .word s =>
    match natural? s.toList with
    | some n => some (.number n)
    | none => if s = "nil" then some .nil else none
  | .member of name => if of = "x" then scope.member? name else none
  | .call function args => do scope.call? function (← evalAll? scope args)
  | .not e => do
    let .truth b ← e.eval? scope | none
    return .truth !b
  | .compare c left right => do c.apply? (← left.eval? scope) (← right.eval? scope)
  | .and left right => do
    let .truth b ← left.eval? scope | none
    if b then right.eval? scope else return .truth false

/-- The values of expressions. -/
def evalAll? (scope : Scope) : List Expr → Option (List Value)
  | [] => some []
  | e :: es => do return (← e.eval? scope) :: (← evalAll? scope es)

end

/-- What a check finds. -/
def Statement.run? (scope : Scope) (s : Statement) : Option (Except FieldFault Unit) := do
  let .truth holds ← s.condition.eval? scope | none
  if holds then
    let .fault f ← s.result.eval? scope | none
    return .error f
  else return .ok ()

/-- How checks end: with the first fault that one of them finds, or without one. -/
def run? (scope : Scope) : List Statement → Option (Except FieldFault Unit)
  | [] => some (.ok ())
  | s :: rest => do
    match ← s.run? scope with
    | .ok () => run? scope rest
    | .error f => return .error f

variable {scope : Scope}

theorem natural?_toString (n : Nat) : natural? (toString n).toList = some n := by
  rw [Nat.toString_eq_ofList_toDigits, String.toList_ofList]
  have hdigits : (Nat.toDigits 10 n).all Char.isDigit = true :=
    List.all_eq_true.mpr fun c hc => Nat.isDigit_of_mem_toDigits (by decide) (by decide) hc
  have hvalue : Nat.ofDigitChars 10 (Nat.toDigits 10 n) 0 = n := Nat.ofDigitChars_ten_toDigits
  rw [Nat.ofDigitChars_eq_foldl] at hvalue
  rw [natural?, if_pos ⟨Nat.toDigits_ne_nil, hdigits⟩]
  exact congrArg some hvalue

/-- A number is the value of its digits. -/
theorem eval?_toString (n : Nat) :
    (Expr.word (toString n)).eval? scope = some (.number n) := by
  rw [Expr.eval?, natural?_toString]

theorem eval?_not {e : Expr} {b : Bool} (h : e.eval? scope = some (.truth b)) :
    (Expr.not e).eval? scope = some (.truth !b) := by
  rw [Expr.eval?, h]
  rfl

theorem eval?_and {left right : Expr} {b c : Bool} (hleft : left.eval? scope = some (.truth b))
    (hright : right.eval? scope = some (.truth c)) :
    (Expr.and left right).eval? scope = some (.truth (b && c)) := by
  rw [Expr.eval?, hleft]
  cases b with
  | false => rfl
  | true => exact hright

theorem eval?_compare {left right : Expr} {a b : Value} (c : Comparison)
    (hleft : left.eval? scope = some a) (hright : right.eval? scope = some b) :
    (Expr.compare c left right).eval? scope = c.apply? a b := by
  rw [Expr.eval?, hleft, hright]
  rfl

theorem eval?_call {function : Expr} {args : List Expr} {values : List Value}
    (hargs : List.Forall₂ (fun e v => e.eval? scope = some v) args values) :
    (Expr.call function args).eval? scope = scope.call? function values := by
  have hall : evalAll? scope args = some values := by
    induction hargs with
    | nil => rfl
    | cons h _ ih =>
      rw [evalAll?, h, ih]
      rfl
  rw [Expr.eval?, hall]
  rfl

/-- A check finds a fault exactly if its condition holds. -/
theorem Statement.run?_eq {s : Statement} {b : Bool} {f : FieldFault}
    (hcondition : s.condition.eval? scope = some (.truth b))
    (hresult : s.result.eval? scope = some (.fault f)) :
    s.run? scope = some (if b then .error f else .ok ()) := by
  rw [Statement.run?, hcondition]
  cases b with
  | false => rfl
  | true =>
    show (s.result.eval? scope).bind _ = _
    rw [hresult]
    rfl

/-! ## Runs of several checks -/

theorem run?_passed {s : Statement} {rest : List Statement} (h : s.run? scope = some (.ok ())) :
    run? scope (s :: rest) = run? scope rest := by
  rw [run?, h]
  rfl

theorem run?_failed {s : Statement} {rest : List Statement} {f : FieldFault}
    (h : s.run? scope = some (.error f)) : run? scope (s :: rest) = some (.error f) := by
  rw [run?, h]
  rfl

/-- A check alone ends with what it finds. -/
theorem run?_singleton {s : Statement} {r : Except FieldFault Unit} (h : s.run? scope = some r) :
    run? scope [s] = some r := by
  cases r with
  | error f => exact run?_failed h
  | ok u => exact run?_passed h

/-- What runs after checks counts only if they find no fault. -/
theorem run?_append {first rest : List Statement} {r r' : Except FieldFault Unit}
    (hfirst : run? scope first = some r) (hrest : run? scope rest = some r') :
    run? scope (first ++ rest) = some (r >>= fun _ => r') := by
  induction first with
  | nil =>
    cases hfirst
    exact hrest
  | cons s first ih =>
    -- a first check without an outcome has no run; with a fault it ends both runs
    cases hs : s.run? scope with
    | none =>
      rw [run?, hs] at hfirst
      cases hfirst
    | some found =>
      cases found with
      | error f =>
        rw [run?_failed hs] at hfirst
        cases hfirst
        exact run?_failed hs
      | ok u =>
        rw [run?_passed hs] at hfirst
        rw [List.cons_append, run?_passed hs, ih hfirst]

/-- **Checks for every element of a list** end as the elements do, one after the other. -/
theorem run?_flatMap {α : Type} {xs : List α} {checks : α → List Statement}
    {result : α → Except FieldFault Unit}
    (h : ∀ a ∈ xs, run? scope (checks a) = some (result a)) :
    run? scope (xs.flatMap checks) = some (xs.forM result) := by
  induction xs with
  | nil => rfl
  | cons a xs ih =>
    rw [List.forall_mem_cons] at h
    exact run?_append h.1 (ih h.2)

end Specloom.Go
