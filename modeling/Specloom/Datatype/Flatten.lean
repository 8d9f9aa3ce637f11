import Specloom.Datatype.Basic

/-!
# The datatypes inside a datatype

A datatype is flattened to the list of all datatypes in it, itself first and parts before later
parts, of which the first with each name is kept. References are not followed. The list is made by a
walk with a stack of the datatypes that are still to be visited.

## Main definitions

* `Datatype.nodes`: all datatypes inside one, in order
* `Walk`, `Walk.run`: a walk over datatypes, until its stack is empty
* `flatten`: the first of each name
* `ImportNeeds`: what a file that mentions the datatypes has to import

## Main results

* `nodes_eq`: a datatype, and then what is inside its children
* `Walk.run_eq`: a walk visits what is pending on its stack, in order
* `flatten_eq`: flattening keeps the first of each name
-/

namespace Specloom

namespace Datatype

mutual

/-- All datatypes inside one, itself first. -/
def nodes (t : Datatype) : List Datatype :=
  match t with
  | .scalar s n => [.scalar s n]
  | .object fields n => .object fields n :: nodesOfFields fields
  | .array element n => .array element n :: nodesOfElement element
  | .reference ref n => [.reference ref n]

/-- All datatypes inside the fields of an object. -/
def nodesOfFields : List (String × Datatype) → List Datatype
  | [] => []
  | (_, t) :: rest => t.nodes ++ nodesOfFields rest

/-- All datatypes inside the element of an array. -/
def nodesOfElement : Option Datatype → List Datatype
  | none => []
  | some t => t.nodes

end

/-- The datatypes directly inside one: the element of an array, or the fields of an object in
order. -/
def children (t : Datatype) : List Datatype :=
  t.element?.toList ++ t.fields.map (·.2)

theorem nodesOfFields_eq (fields : List (String × Datatype)) :
    nodesOfFields fields = fields.flatMap (·.2.nodes) := by
  induction fields with
  | nil => rfl
  | cons field fields ih => rw [nodesOfFields, ih, List.flatMap_cons]

theorem nodes_eq (t : Datatype) : t.nodes = t :: t.children.flatMap nodes := by
  cases t with
  | scalar s n => rfl
  | object fields n =>
    rw [nodes, nodesOfFields_eq]
    simp [children, element?, Datatype.fields, List.flatMap_map]
  | array element n =>
    cases element <;> simp [children, element?, Datatype.fields, nodes, nodesOfElement]
  | reference ref n => rfl

/-- Keeps the first datatype of each name that is not among `seen`. -/
def firstByName (seen : List String) : List Datatype → List Datatype
  | [] => []
  | t :: rest =>
    if t.name ∈ seen then firstByName seen rest else t :: firstByName (t.name :: seen) rest

end Datatype

/-! ### Walks -/

/-- A walk over datatypes: those still to be visited, the next one first, the names that were seen,
and the datatypes that were kept. -/
structure Walk where
  stack : List Datatype
  seen : List String
  kept : List Datatype

namespace Walk

/-- Puts a datatype on the stack. -/
def push (w : Walk) (t : Datatype) : Walk :=
  { w with stack := t :: w.stack }

/-- Keeps a datatype if its name is new. -/
def note (w : Walk) (t : Datatype) : Walk :=
  if t.name ∈ w.seen then w else { w with seen := t.name :: w.seen, kept := w.kept ++ [t] }

/-- A round of the walk: the datatype on top of the stack is noted, whether its name is new or not,
and its children are pushed, the last of them first. -/
def step (w : Walk) : Walk :=
  match w.stack with
  | [] => w
  | t :: rest => t.children.reverse.foldl push (({ w with stack := rest } : Walk).note t)

/-- The datatypes that the walk has still to visit, in order. -/
def pending (w : Walk) : List Datatype :=
  w.stack.flatMap Datatype.nodes

@[simp] theorem stack_note (w : Walk) (t : Datatype) : (w.note t).stack = w.stack := by
  rw [note]
  split <;> rfl

/-- What is pushed in reverse lies on the stack in order. -/
theorem foldl_push (w : Walk) (ts : List Datatype) :
    ts.reverse.foldl push w = { w with stack := ts ++ w.stack } := by
  rw [List.foldl_reverse]
  induction ts with
  | nil => rfl
  | cons t ts ih =>
    rw [List.foldr_cons, ih]
    rfl

theorem step_eq {w : Walk} {t : Datatype} {rest : List Datatype} (h : w.stack = t :: rest) :
    w.step = { w.note t with stack := t.children ++ rest } := by
  rw [step]
  simp only [h]
  rw [foldl_push, stack_note, note, note]
  split <;> rfl

/-- **A round visits the first datatype that is pending.** -/
theorem pending_eq {w : Walk} {t : Datatype} {rest : List Datatype} (h : w.stack = t :: rest) :
    w.pending = t :: w.step.pending := by
  rw [pending, h, List.flatMap_cons, Datatype.nodes_eq, List.cons_append, ← List.flatMap_append,
    pending, step_eq h]

/-- Walks until the stack is empty. -/
def run (w : Walk) : Walk :=
  match _h : w.stack with
  | [] => w
  | _ :: _ => w.step.run
termination_by w.pending.length
decreasing_by simp [pending_eq _h]

theorem run_of_nil {w : Walk} (h : w.stack = []) : w.run = w := by
  rw [run]
  split
  · rfl
  · rename_i hcons
    rw [h] at hcons
    cases hcons

theorem run_of_cons {w : Walk} {t : Datatype} {rest : List Datatype} (h : w.stack = t :: rest) :
    w.run = w.step.run := by
  rw [run]
  split
  · rename_i hnil
    rw [h] at hnil
    cases hnil
  · rfl

/-- **A walk notes what is pending**, in order. -/
theorem run_eq (w : Walk) : w.run = w.pending.foldl note { w with stack := [] } := by
  -- along the rounds: what a round leaves pending is the rest of what was pending before
  induction w using run.induct with
  | case1 w h =>
    rw [run_of_nil h, pending, h]
    exact congrArg (Walk.mk · w.seen w.kept) h
  | case2 w t rest h ih =>
    have hstep : ({ w.step with stack := [] } : Walk) = ({ w with stack := [] } : Walk).note t := by
      rw [step_eq h, note, note]
      split <;> rfl
    rw [run_of_cons h, ih, hstep, pending_eq h, List.foldl_cons]

theorem stack_foldl_note (w : Walk) (ts : List Datatype) :
    (ts.foldl note w).stack = w.stack := by
  induction ts generalizing w with
  | nil => rfl
  | cons t ts ih => rw [List.foldl_cons, ih, stack_note]

/-- A walk that is over goes through one more datatype. -/
theorem run_push {w : Walk} (h : w.stack = []) (t : Datatype) :
    (w.push t).run = t.nodes.foldl note w := by
  obtain ⟨stack, seen, kept⟩ := w
  obtain rfl : stack = [] := h
  rw [run_eq, pending, push, List.flatMap_singleton]

/-- What is noted is kept, the first of each name. -/
theorem kept_foldl_note (w : Walk) (ts : List Datatype) :
    (ts.foldl note w).kept = w.kept ++ Datatype.firstByName w.seen ts := by
  induction ts generalizing w with
  | nil => simp [Datatype.firstByName]
  | cons t ts ih =>
    rw [List.foldl_cons, ih, Datatype.firstByName, note]
    split <;> simp

end Walk

/-- The datatypes inside some datatypes, the first of each name: one root after the other is pushed
and walked through, and a name that was seen in one is not new in another. -/
def flatten (roots : List Datatype) : List Datatype :=
  (roots.foldl (fun (w : Walk) root => (w.push root).run) ⟨[], [], []⟩).kept

/-- **Flattening keeps the first of each name** among the datatypes inside the roots. -/
theorem flatten_eq (roots : List Datatype) :
    flatten roots = Datatype.firstByName [] (roots.flatMap Datatype.nodes) := by
  -- each walk ends with an empty stack, so the next one visits its root and nothing else
  have hwalks (w : Walk) (hw : w.stack = []) :
      roots.foldl (fun (w : Walk) root => (w.push root).run) w =
        (roots.flatMap Datatype.nodes).foldl Walk.note w := by
    induction roots generalizing w with
    | nil => rfl
    | cons root roots ih =>
      rw [List.foldl_cons, Walk.run_push hw, ih _ (by rw [Walk.stack_foldl_note, hw]),
        List.flatMap_cons, List.foldl_append]
  rw [flatten, hwalks _ rfl, Walk.kept_foldl_note, List.nil_append]

/-- The fields of an object are visited although an object was seen before. -/
example : (flatten [.object [("a", .object [("b", .scalar .date false)] false)] false]).map
    (·.name) = ["object", "date"] := by
  decide +kernel

/-- The distinct texts of a list, in the order of their code points. -/
def sortedTexts (texts : List String) : List String :=
  texts.eraseDups.mergeSort fun a b => decide (a ≤ b)

/-- What a file that mentions datatypes has to import: helpers for three of the built-in types,
other modules, and types of the own module. -/
structure ImportNeeds where
  date : Bool
  datetime : Bool
  binary : Bool
  /-- The other modules, in order. -/
  modules : List String
  /-- The names in the own module, in order. -/
  localTypes : List String
deriving DecidableEq, Repr

/-- Whether one of the datatypes is a given scalar. -/
def usesScalar (s : Scalar) (types : List Datatype) : Bool :=
  types.any fun t => t.kind == .primitive (.scalar s)

/-- The references among datatypes. -/
def references (types : List Datatype) : List TypeRef :=
  types.filterMap Datatype.reference?

/-- What a file that mentions the datatypes has to import. -/
def ImportNeeds.ofTypes (types : List Datatype) : ImportNeeds where
  date := usesScalar .date types
  datetime := usesScalar .datetime types
  binary := usesScalar .binary types
  modules := sortedTexts ((references types).filterMap (·.owner))
  localTypes := sortedTexts (((references types).filter (·.owner.isNone)).map (·.name))

end Specloom
