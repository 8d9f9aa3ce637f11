import Mathlib.Data.List.Forall2
import Specloom.Proofs.Go.Token

/-!
# Statements of Go that check

A check is an `if` statement whose body returns the result of a call. Such statements are read from
tokens, one after the other.

Every reader has a budget for the depth of what it reads; the number of tokens is always enough.

## Main definitions

* `Expr`, `Statement`: an expression and a statement
* `operand?`, `condition?`: what is read as an expression
* `statements?`: the statements of a text
* `IsStatement`: a text that is read as a statement

## Main results

* `statements?_intercalate`: statements are read one by one
-/

namespace Specloom.Go

/-- A comparison. -/
inductive Comparison where
  | equal | differs | greater
deriving DecidableEq, Repr

/-- An expression. -/
inductive Expr where
  | text (s : String)
  /-- A number, or a name such as `nil`. -/
  | word (s : String)
  /-- A member of what a name stands for, such as `x.Name`. -/
  | member (of name : String)
  | call (function : Expr) (args : List Expr)
  | not (e : Expr)
  | compare (c : Comparison) (left right : Expr)
  /-- Both hold; the second counts only if the first does. -/
  | and (left right : Expr)

/-- An `if` statement: what it returns if its condition holds. -/
structure Statement where
  condition : Expr
  result : Expr

mutual

/-- Reads an operand: what operators stand between. -/
def operand? : Nat → List Token → Option (Expr × List Token)
  | depth + 1, .symbol '!' :: rest => do
    let (e, rest) ← operand? depth rest
    return (.not e, rest)
  | _ + 1, .text s :: rest => some (.text s, rest)
  | depth + 1, .word a :: .symbol '.' :: .word b :: rest => called? depth (.member a b) rest
  | depth + 1, .word a :: rest => called? depth (.word a) rest
  | _, _ => none

/-- Reads the arguments of a function, if it is called. -/
def called? : Nat → Expr → List Token → Option (Expr × List Token)
  | depth + 1, function, .symbol '(' :: rest => do
    let (args, rest) ← arguments? depth rest
    return (.call function args, rest)
  | _, e, rest => some (e, rest)

/-- Reads arguments, at least one, and the closing bracket. -/
def arguments? : Nat → List Token → Option (List Expr × List Token)
  | depth + 1, tokens => do
    let (e, rest) ← operand? depth tokens
    match rest with
    | .symbol ')' :: rest => return ([e], rest)
    | .symbol ',' :: rest =>
      let (more, rest) ← arguments? depth rest
      return (e :: more, rest)
    | _ => none
  | 0, _ => none

end

/-- Reads an operand, or two of them that are compared. -/
def comparison? (depth : Nat) (tokens : List Token) : Option (Expr × List Token) := do
  let (left, rest) ← operand? depth tokens
  let compared (c : Comparison) (rest : List Token) : Option (Expr × List Token) := do
    let (right, rest) ← operand? depth rest
    return (.compare c left right, rest)
  match rest with
  | .symbol '=' :: .symbol '=' :: rest => compared .equal rest
  | .symbol '!' :: .symbol '=' :: rest => compared .differs rest
  | .symbol '>' :: rest => compared .greater rest
  | _ => return (left, rest)

/-- Reads comparisons of which all must hold. -/
def condition? : Nat → List Token → Option (Expr × List Token)
  | depth + 1, tokens => do
    let (left, rest) ← comparison? depth tokens
    match rest with
    | .symbol '&' :: .symbol '&' :: rest =>
      let (right, rest) ← condition? depth rest
      return (.and left right, rest)
    | _ => return (left, rest)
  | 0, _ => none

/-- Reads a statement. -/
def statement? (depth : Nat) : List Token → Option (Statement × List Token)
  | .word "if" :: tokens => do
    let (condition, rest) ← condition? depth tokens
    match rest with
    | .symbol '{' :: .word "return" :: rest =>
      let (result, rest) ← operand? depth rest
      match rest with
      | .lineEnd :: .symbol '}' :: rest => return (⟨condition, result⟩, rest)
      | _ => none
    | _ => none
  | _ => none

/-- Reads statements, which line ends keep apart. -/
def statementsFrom? : Nat → List Token → Option (List Statement)
  | _, [] => some []
  | 0, _ :: _ => none
  | budget + 1, tokens => do
    let (s, rest) ← statement? tokens.length tokens
    match rest with
    | .lineEnd :: rest => return s :: (← statementsFrom? budget rest)
    | [] => return [s]
    | _ => none

/-- The statements of a text. -/
def statements? (text : String) : Option (List Statement) := do
  let tokens ← tokens? text
  statementsFrom? tokens.length tokens

/-- A text is a statement: whatever follows it, it is read up to its end. -/
def IsStatement (text : String) (s : Statement) : Prop :=
  ∃ tokens, Reads (.between false) text tokens (.between true) ∧
    ∀ rest, statement? (tokens ++ rest).length (tokens ++ rest) = some (s, rest)

/-! ## Statements one after the other -/

theorem statementsFrom?_last {tokens : List Token} {s : Statement} {budget : Nat}
    (h : statement? tokens.length tokens = some (s, [])) :
    statementsFrom? (budget + 1) tokens = some [s] := by
  cases tokens with
  | nil => cases h
  | cons t tokens =>
    rw [statementsFrom?, h]
    · rfl
    · exact List.cons_ne_nil t tokens

theorem statementsFrom?_lineEnd {tokens rest : List Token} {s : Statement} {budget : Nat}
    (h : statement? tokens.length tokens = some (s, .lineEnd :: rest)) :
    statementsFrom? (budget + 1) tokens = (statementsFrom? budget rest).map (s :: ·) := by
  cases tokens with
  | nil => cases h
  | cons t tokens =>
    rw [statementsFrom?, h]
    · show (statementsFrom? budget rest).bind _ = _
      cases statementsFrom? budget rest <;> rfl
    · exact List.cons_ne_nil t tokens

theorem exists_reads_statements {texts : List String} {ss : List Statement}
    (h : List.Forall₂ IsStatement texts ss) :
    ∃ tokens ends, Reads (.between false) ("\n\t".intercalate texts) tokens (.between ends) ∧
      ss.length ≤ tokens.length ∧
      ∀ budget, ss.length ≤ budget → statementsFrom? budget tokens = some ss := by
  induction h with
  | nil =>
    refine ⟨[], false, rfl, Nat.le_refl 0, fun budget _ => ?_⟩
    cases budget <;> rfl
  | @cons text s texts ss hs hss ih =>
    obtain ⟨tokens, hreads, hstatement⟩ := hs
    have hne : tokens ≠ [] := by
      rintro rfl
      cases hstatement []
    have hpos := List.length_pos_iff.mpr hne
    -- the last statement has no line end behind it
    rcases eq_or_ne texts [] with rfl | htexts
    · cases hss
      refine ⟨tokens, true, ?_, hpos, fun budget hbudget => ?_⟩
      · rwa [String.intercalate_singleton]
      · obtain ⟨budget, rfl⟩ := Nat.exists_eq_succ_of_ne_zero (Nat.ne_of_gt hbudget)
        apply statementsFrom?_last
        simpa using hstatement []
    · obtain ⟨more, ends, hmore, hlength, hstatements⟩ := ih
      -- the line end of the separator ends the statement; the tab counts for nothing
      have hline : Reads (.between true) "\n\t" [.lineEnd] (.between false) := rfl
      refine ⟨tokens ++ .lineEnd :: more, ends, ?_, ?_, fun budget hbudget => ?_⟩
      · rw [String.intercalate_cons_of_ne_nil htexts]
        simpa using (hreads.append hline).append hmore
      · simp only [List.length_cons, List.length_append]
        omega
      · obtain ⟨budget, rfl⟩ := Nat.exists_eq_succ_of_ne_zero (Nat.ne_zero_of_lt hbudget)
        rw [statementsFrom?_lineEnd (hstatement (.lineEnd :: more)),
          hstatements budget (Nat.le_of_succ_le_succ hbudget), Option.map_some]

/-- **Statements are read one by one**, if line ends keep them apart. -/
theorem statements?_intercalate {texts : List String} {ss : List Statement}
    (h : List.Forall₂ IsStatement texts ss) :
    statements? ("\n\t".intercalate texts) = some ss := by
  obtain ⟨tokens, ends, hreads, hlength, hstatements⟩ := exists_reads_statements h
  rw [statements?, tokens?_of_reads hreads]
  exact hstatements _ hlength

end Specloom.Go
