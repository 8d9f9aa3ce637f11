import Specloom.Path.Segment
import Specloom.Proofs.Text.Split

/-!
# Names in a text

Generated text mentions names, which may have dots. A name ends where another character stands, so
the names of a text are its longest runs of such characters. Both target languages take letters
beyond ASCII in names, so no character beyond ASCII ends one.

The signature of a function is a list of parameters, each with a type behind a colon.

## Main definitions

* `isNamePart`, `isPathPart`: the characters of names, and of names with dots
* `namesIn`: the names of a text
* `typeNames`: the names in the types of a signature
* `qualifier?`: what stands before the last dot of a name

## Main results

* `namesIn_append_cons`, `namesIn_of_isPathText`: a name before another character, and on its own
* `typeNames_intercalate`: the names in a signature are those in the types of its parameters
-/

namespace Specloom.Text

open Specloom.Path

/-- Whether a character may stand in a name. -/
def isNamePart (c : Char) : Bool :=
  isIdentPart c || 128 ≤ c.toNat

/-- Whether a character may stand in a name with dots. -/
def isPathPart (c : Char) : Bool :=
  isNamePart c || c == '.'

/-- Characters of names only. -/
def IsNameText (s : String) : Prop :=
  ∀ c ∈ s.toList, isNamePart c = true

/-- Characters of names and dots only. -/
def IsPathText (s : String) : Prop :=
  ∀ c ∈ s.toList, isPathPart c = true

instance (s : String) : Decidable (IsNameText s) :=
  List.decidableBAll (fun c => isNamePart c = true) s.toList

instance (s : String) : Decidable (IsPathText s) :=
  List.decidableBAll (fun c => isPathPart c = true) s.toList

/-- The names of a text, in order. -/
def namesIn (cs : List Char) : List String :=
  ((splitWhere (fun c => !isPathPart c) cs).filter (· ≠ [])).map String.ofList

/-- The names in the type of a parameter. -/
def paramNames (param : List Char) : List String :=
  match splitFirst? ':' param with
  | some (_, type) => namesIn type
  | none => []

/-- The names in the types of a signature, in order. -/
def typeNames (signature : List Char) : List String :=
  (splitOn ',' signature).flatMap paramNames

/-- What stands before the last dot of a name. -/
def qualifier? (name : String) : Option String :=
  (splitLast? '.' name.toList).map fun cut => String.ofList cut.1

theorem IsNameText.isPathText {s : String} (h : IsNameText s) : IsPathText s := fun c hc => by
  rw [isPathPart, h c hc, Bool.true_or]

theorem IsNameText.append {a b : String} (ha : IsNameText a) (hb : IsNameText b) :
    IsNameText (a ++ b) := by
  intro c hc
  rw [String.toList_append, List.mem_append] at hc
  exact hc.elim (ha c) (hb c)

/-- A character that is none of names is not in them. -/
theorem IsPathText.not_mem {s : String} (h : IsPathText s) {c : Char} (hc : isPathPart c = false) :
    c ∉ s.toList := fun hmem => by
  rw [h c hmem] at hc
  cases hc

/-! ## Runs -/

theorem splitWhere_append_cons {p : Char → Bool} {run rest : List Char} {c : Char}
    (hrun : ∀ d ∈ run, p d = false) (hc : p c = true) :
    splitWhere p (run ++ c :: rest) = run :: splitWhere p rest := by
  rw [splitWhere_eq_splitOnP, splitWhere_eq_splitOnP]
  exact List.splitOnP_append_cons_of_forall_mem hrun c hc rest

theorem splitWhere_of_forall {p : Char → Bool} {run : List Char} (hrun : ∀ d ∈ run, p d = false) :
    splitWhere p run = [run] := by
  rw [splitWhere_eq_splitOnP]
  exact List.splitOnP_eq_singleton hrun

/-- A character of no name is skipped. -/
theorem namesIn_cons {c : Char} (hc : isPathPart c = false) (cs : List Char) :
    namesIn (c :: cs) = namesIn cs := by
  simp [namesIn, splitWhere, hc]

/-- A name before a character of no name. -/
theorem namesIn_append_cons {s : String} (h : IsPathText s) (hne : s ≠ "") {c : Char}
    (hc : isPathPart c = false) (cs : List Char) :
    namesIn (s.toList ++ c :: cs) = s :: namesIn cs := by
  have hrun : ∀ d ∈ s.toList, (!isPathPart d) = false := fun d hd => by rw [h d hd]; rfl
  rw [namesIn, splitWhere_append_cons hrun (by rw [hc]; rfl)]
  simp [namesIn, hne]

/-- A name on its own. -/
theorem namesIn_of_isPathText {s : String} (h : IsPathText s) (hne : s ≠ "") :
    namesIn s.toList = [s] := by
  have hrun : ∀ d ∈ s.toList, (!isPathPart d) = false := fun d hd => by rw [h d hd]; rfl
  rw [namesIn, splitWhere_of_forall hrun]
  simp [hne]

/-! ## Signatures -/

/-- A parameter and its type may stand in a signature. -/
structure IsParam (param : String × String) : Prop where
  not_mem_name : ',' ∉ param.1.toList ∧ ':' ∉ param.1.toList
  not_mem_type : ',' ∉ param.2.toList

section Signatures

variable {lead : List Char} (hlead : ',' ∉ lead ∧ ':' ∉ lead)

include hlead

theorem not_mem_param {param : String × String} (h : IsParam param) :
    ',' ∉ lead ++ (param.1 ++ ": " ++ param.2).toList := by
  simp [hlead.1, h.not_mem_name.1, h.not_mem_type]

theorem paramNames_append {param : String × String} (h : IsParam param) :
    paramNames (lead ++ (param.1 ++ ": " ++ param.2).toList) = namesIn param.2.toList := by
  have hcolon : splitFirst? ':' (lead ++ (param.1 ++ ": " ++ param.2).toList) =
      some (lead ++ param.1.toList, ' ' :: param.2.toList) :=
    splitFirst?_eq_some_iff.mpr ⟨by simp, by simp [hlead.2, h.not_mem_name.2]⟩
  rw [paramNames, hcolon]
  exact namesIn_cons (by decide) _

/-- Induction on the parameters: the comma behind a parameter divides the signature, and the blank
behind the comma leads the rest. -/
theorem typeNames_append_intercalate {params : List (String × String)}
    (h : ∀ param ∈ params, IsParam param) :
    typeNames (lead ++ (", ".intercalate (params.map fun p => p.1 ++ ": " ++ p.2)).toList) =
      params.flatMap fun p => namesIn p.2.toList := by
  induction params generalizing lead with
  | nil =>
    have hcolon : splitFirst? ':' lead = none := splitFirst?_eq_none_iff.mpr hlead.2
    simp [typeNames, splitOn_of_not_mem hlead.1, paramNames, hcolon]
  | cons param params ih =>
    rw [List.forall_mem_cons] at h
    have hcomma := not_mem_param hlead h.1
    have hparam := paramNames_append hlead h.1
    rw [List.flatMap_cons, ← hparam]
    rcases eq_or_ne params [] with rfl | hne
    · rw [List.map_singleton, String.intercalate_singleton, typeNames, splitOn_of_not_mem hcomma]
      rfl
    · have hblank : ',' ∉ [' '] ∧ ':' ∉ [' '] := by decide
      have hrest := ih hblank h.2
      rw [List.map_cons, String.intercalate_cons_of_ne_nil (by simpa using hne),
        String.toList_append, String.toList_append, List.append_assoc, ← List.append_assoc lead]
      show typeNames (_ ++ ',' :: (' ' :: _)) = _
      rw [typeNames, splitOn_append_cons, List.flatMap_append, splitOn_of_not_mem hcomma,
        List.flatMap_singleton]
      exact congrArg (_ ++ ·) hrest

end Signatures

/-- **The names in a signature** are those in the types of its parameters. -/
theorem typeNames_intercalate {params : List (String × String)}
    (h : ∀ param ∈ params, IsParam param) :
    typeNames (", ".intercalate (params.map fun p => p.1 ++ ": " ++ p.2)).toList =
      params.flatMap fun p => namesIn p.2.toList := by
  have hnone : ',' ∉ [] ∧ ':' ∉ [] := by simp
  exact typeNames_append_intercalate hnone h

example : typeNames "id: string, due: a.Due | null".toList = ["string", "a.Due", "null"] := by
  decide +kernel

end Specloom.Text
