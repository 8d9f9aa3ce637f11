import Specloom.Template.Render
import Specloom.Proofs.Checked

/-!
# Shapes of values

Rendering fails where a name or a field is undefined, where something that is no list is repeated,
or where a filter refuses. Whether that can happen is decided from the shapes of the values at hand,
before any value is known: a template that is well shaped is rendered, whatever the values are.

An optional value has no fields, since it may be absent. A condition on a field of a name tells that
the field is present, so in the branch that is taken the field counts as present.

## Main definitions

* `Shape`, `Shape.Admits`: the shape of a value, and the values that have it
* `Shapes`, `Shapes.Admits`: the shapes of the names at hand
* `Expr.shape?`: the shape of an expression, if it is defined
* `Node.isWellShaped`, `areWellShaped`: whether a template is rendered for all values

## Main results

* `Expr.eval_of_shape?`: an expression with a shape has a value of that shape
* `render_of_areWellShaped`: a well-shaped template is rendered
-/

namespace Specloom.Template

/-- The shape of a value. Of a value of the shape `any` nothing is known; it can be printed. -/
inductive Shape where
  | any
  | optional (s : Shape)
  | list (item : Shape)
  | record (fields : List (String × Shape))
deriving Repr

/-- The shapes of names, inner ones first, or of the fields of a record. -/
abbrev Shapes := List (String × Shape)

/-! ## Values with a shape -/

mutual

/-- Whether a value has a shape. -/
def Shape.Admits : Shape → Value → Prop
  | .any, _ => True
  | .optional _, .null => True
  | .optional s, v => s.Admits v
  | .list s, .list items => ∀ v ∈ items, s.Admits v
  | .record shapes, .record fields => admitsFields shapes fields
  | _, _ => False

/-- Whether the fields of a record have the given names and shapes, in order. -/
def admitsFields : List (String × Shape) → List (String × Value) → Prop
  | [], [] => True
  | (key, s) :: shapes, (key', v) :: fields => key = key' ∧ s.Admits v ∧ admitsFields shapes fields
  | _, _ => False

end

theorem Shape.Admits.optional {s : Shape} {v : Value} (h : s.Admits v) :
    (Shape.optional s).Admits v := by
  cases v with
  | null => trivial
  | _ => exact h

theorem Shape.Admits.exists_items {s : Shape} {v : Value} (h : (Shape.list s).Admits v) :
    ∃ items, v = .list items ∧ ∀ item ∈ items, s.Admits item := by
  cases v with
  | list items => exact ⟨items, rfl, h⟩
  | _ => cases h

theorem Shape.Admits.exists_fields {shapes : Shapes} {v : Value}
    (h : (Shape.record shapes).Admits v) :
    ∃ fields, v = .record fields ∧ admitsFields shapes fields := by
  cases v with
  | record fields => exact ⟨fields, rfl, h⟩
  | _ => cases h

/-- A field that has a shape is there, and has that shape. -/
theorem admitsFields.lookup {shapes : Shapes} {fields : List (String × Value)}
    (h : admitsFields shapes fields) {key : String} {s : Shape}
    (hs : shapes.lookup key = some s) : ∃ v, fields.lookup key = some v ∧ s.Admits v := by
  induction shapes generalizing fields with
  | nil => cases hs
  | cons shape shapes ih =>
    obtain ⟨key', s'⟩ := shape
    cases fields with
    | nil => cases h
    | cons field fields =>
      -- shapes and fields are in the same order, so the first key decides where to look
      obtain ⟨rfl, hv, hrest⟩ := h
      rw [List.lookup_cons] at hs ⊢
      split
      · rename_i hkey
        rw [hkey] at hs
        cases hs
        exact ⟨_, rfl, hv⟩
      · rename_i hkey
        rw [hkey] at hs
        exact ih hrest hs

/-! ## Present fields -/

/-- The shape of a value that is known to be present. -/
def Shape.assumed : Shape → Shape
  | .optional s => s
  | s => s

/-- Changes the shape of a name. -/
def Shapes.update (name : String) (change : Shape → Shape) : Shapes → Shapes
  | [] => []
  | (n, s) :: rest =>
    if n = name then (n, change s) :: rest else (n, s) :: update name change rest

/-- The shape of a record of which one field is known to be present. -/
def Shape.withPresent (key : String) : Shape → Shape
  | .record shapes => .record (Shapes.update key assumed shapes)
  | s => s

/-- The shapes where a condition holds: a condition on a field of a name makes it present. -/
def Shapes.assume (env : Shapes) : Expr → Shapes
  | .field (.name n) key => Shapes.update n (Shape.withPresent key) env
  | _ => env

/-- The names at hand have values of their shapes. -/
def Shapes.Admits (env : Shapes) (scope : Scope) : Prop :=
  ∀ n s, env.lookup n = some s → ∃ v, scope.lookup n = some v ∧ s.Admits v

theorem Shape.Admits.assumed {s : Shape} {v : Value} (h : s.Admits v) (hv : v.isTruthy = true) :
    s.assumed.Admits v := by
  cases s with
  | optional s =>
    cases v with
    | null => cases hv
    | _ => exact h
  | _ => exact h

theorem admitsFields.update {shapes : Shapes} {fields : List (String × Value)} {key : String}
    {change : Shape → Shape} (h : admitsFields shapes fields)
    (hchange : ∀ s v, fields.lookup key = some v → s.Admits v → (change s).Admits v) :
    admitsFields (Shapes.update key change shapes) fields := by
  induction shapes generalizing fields with
  | nil => exact h
  | cons shape shapes ih =>
    obtain ⟨key', s⟩ := shape
    cases fields with
    | nil => cases h
    | cons field fields =>
      obtain ⟨key'', v⟩ := field
      obtain ⟨rfl, hv, hrest⟩ := h
      rw [Shapes.update]
      by_cases hkey : key' = key
      · rw [if_pos hkey]
        exact ⟨rfl, hchange s v (by simp [hkey]) hv, hrest⟩
      · rw [if_neg hkey]
        refine ⟨rfl, hv, ih hrest fun s v hlookup => hchange s v ?_⟩
        have hbeq : (key == key') = false := by simpa using Ne.symm hkey
        rw [List.lookup_cons, hbeq, hlookup]

theorem Shapes.lookup_update {env : Shapes} {name n : String} {change : Shape → Shape} :
    (update name change env).lookup n =
      if n = name then (env.lookup n).map change else env.lookup n := by
  induction env with
  | nil => simp [update]
  | cons e env ih =>
    obtain ⟨n', s⟩ := e
    rw [update]
    by_cases hn : n = n'
    · subst hn
      by_cases hname : n = name <;> simp [hname]
    · have hbeq : (n == n') = false := by simpa using hn
      -- a name of another entry: what changes is not looked up
      by_cases hname : n' = name
      · rw [if_pos hname, if_neg (hname ▸ hn), List.lookup_cons, List.lookup_cons, hbeq]
      · rw [if_neg hname, List.lookup_cons, List.lookup_cons, hbeq, ih]

/-- **A condition that holds makes its field present.** -/
theorem Shapes.Admits.assume {h : Helpers} {env : Shapes} {scope : Scope} (henv : env.Admits scope)
    {c : Expr} {v : Value} (hc : c.eval h scope = .ok (some v)) (hv : v.isTruthy = true) :
    (env.assume c).Admits scope := by
  unfold Shapes.assume
  split
  -- the condition is a field of a name: only the shape of that name changes
  · rename_i n key
    intro n' s' hs'
    rw [lookup_update] at hs'
    by_cases hn : n' = n
    · rw [if_pos hn] at hs'
      obtain ⟨s, hs, rfl⟩ := Option.map_eq_some_iff.mp hs'
      obtain ⟨v', hlookup, hadmits⟩ := henv n' s hs
      refine ⟨v', hlookup, ?_⟩
      cases s with
      | record shapes =>
        obtain ⟨fields, rfl, hfields⟩ := hadmits.exists_fields
        show admitsFields (update key Shape.assumed shapes) fields
        refine hfields.update fun s v' hv' hs => hs.assumed ?_
        -- the value of the condition is the value of the field
        have heval : Expr.eval h scope (.field (.name n) key) = .ok (fields.lookup key) := by
          simp [Expr.eval, defined, ← hn, hlookup, Value.field?, bind, Except.bind, pure,
            Except.pure]
        rw [heval, hv'] at hc
        cases hc
        exact hv
      | _ => exact hadmits
    · rw [if_neg hn] at hs'
      exact henv n' s' hs'
  · exact henv

/-! ## Expressions -/

/-- The filters that refuse no text. -/
def totalFilters : List String :=
  ["js_quote", "strip_query", "go_quote"]

/-- The shape of an expression, if it is defined for all values at hand. -/
def Expr.shape? (env : Shapes) : Expr → Option Shape
  | .name n => env.lookup n
  | .literal _ => some .any
  | .field e key =>
    match e.shape? env with
    | some (.record shapes) => shapes.lookup key
    | _ => none
  | .filter e key => if key ∈ totalFilters then (e.shape? env).map fun _ => .any else none
  | .not e => (e.shape? env).map fun _ => .any
  | .cond c yes no =>
    match c.shape? env, yes.shape? (env.assume c), no.shape? env with
    | some _, some _, some _ => some .any
    | _, _, _ => none

theorem Helpers.exists_of_mem_totalFilters {key : String} (h : key ∈ totalFilters) :
    ∃ f, Helpers.standard.named? key = some f ∧ ∀ s, ∃ t, f s = .ok t := by
  simp only [totalFilters, List.mem_cons, List.not_mem_nil, or_false] at h
  rcases h with rfl | rfl | rfl
  · exact ⟨_, rfl, fun s => ⟨_, rfl⟩⟩
  · exact ⟨_, rfl, fun s => ⟨_, rfl⟩⟩
  · exact ⟨_, rfl, fun s => ⟨_, rfl⟩⟩

theorem eval_defined {x : Except Cause (Option Value)} {v : Value} (h : x = .ok (some v)) :
    x >>= defined = .ok v := by
  rw [h]
  rfl

/-- **An expression with a shape has a value of that shape.** -/
theorem Expr.eval_of_shape? {env : Shapes} {scope : Scope} (henv : env.Admits scope) {e : Expr}
    {s : Shape} (h : e.shape? env = some s) :
    ∃ v, e.eval .standard scope = .ok (some v) ∧ s.Admits v := by
  induction e generalizing env s with
  | name n =>
    obtain ⟨v, hlookup, hv⟩ := henv n s h
    exact ⟨v, by rw [eval, hlookup], hv⟩
  | literal v =>
    cases h
    exact ⟨v, rfl, trivial⟩
  | field e key ih =>
    rw [shape?] at h
    split at h
    · rename_i shapes hshape
      obtain ⟨v, heval, hv⟩ := ih henv hshape
      obtain ⟨fields, rfl, hfields⟩ := hv.exists_fields
      obtain ⟨v, hlookup, hv⟩ := hfields.lookup h
      refine ⟨v, ?_, hv⟩
      rw [eval, heval]
      show Except.ok (fields.lookup key) = _
      -- the field that has a shape is there
      rw [hlookup]
    · cases h
  | filter e key ih =>
    rw [shape?] at h
    split at h
    · rename_i hkey
      obtain ⟨s', hs', rfl⟩ := Option.map_eq_some_iff.mp h
      obtain ⟨v, heval, -⟩ := ih henv hs'
      obtain ⟨f, hf, htotal⟩ := Helpers.exists_of_mem_totalFilters hkey
      obtain ⟨t, ht⟩ := htotal v.print
      refine ⟨.text t, ?_, trivial⟩
      simp only [eval, hf, heval, defined, bind, Except.bind, ht]
      rfl
    · cases h
  | not e ih =>
    obtain ⟨s', hs', rfl⟩ := Option.map_eq_some_iff.mp h
    obtain ⟨v, heval, -⟩ := ih henv hs'
    refine ⟨.bool !v.isTruthy, ?_, trivial⟩
    rw [eval, heval]
    rfl
  | cond c yes no ihc ihyes ihno =>
    rw [shape?] at h
    split at h
    · rename_i hc hyes hno
      cases h
      obtain ⟨v, heval, -⟩ := ihc henv hc
      -- a choice is evaluated by its condition alone
      have hchoice : Expr.eval .standard scope (.cond c yes no) =
          if v.isTruthy then yes.eval .standard scope else no.eval .standard scope := by
        rw [eval, heval]
        rfl
      rw [hchoice]
      by_cases hv : v.isTruthy = true
      · rw [if_pos hv]
        obtain ⟨v', heval', -⟩ := ihyes (henv.assume heval hv) hyes
        exact ⟨v', heval', trivial⟩
      · rw [if_neg hv]
        obtain ⟨v', heval', -⟩ := ihno henv hno
        exact ⟨v', heval', trivial⟩
    · cases h

theorem evalAt_of_shape? {env : Shapes} {scope : Scope} (henv : env.Admits scope) {line : Nat}
    {e : Expr} {s : Shape} (h : e.shape? env = some s) :
    ∃ v, evalAt .standard scope line e = .ok v ∧ e.eval .standard scope = .ok (some v) ∧
      s.Admits v := by
  obtain ⟨v, heval, hv⟩ := Expr.eval_of_shape? henv h
  refine ⟨v, ?_, heval, hv⟩
  rw [evalAt, eval_defined heval]

/-! ## Templates -/

/-- The shape of what a body can ask about its loop. -/
def loopShape : Shape :=
  .record [("first", .any), ("last", .any), ("index", .any), ("index0", .any), ("length", .any)]

theorem admits_loopValue (count index : Nat) : loopShape.Admits (loopValue count index) :=
  ⟨rfl, trivial, rfl, trivial, rfl, trivial, rfl, trivial, rfl, trivial, trivial⟩

/-- The shapes inside the body of a loop. -/
def Shapes.inLoop (env : Shapes) (name : String) (item : Shape) : Shapes :=
  (name, item) :: ("loop", loopShape) :: env

theorem Shapes.Admits.cons {env : Shapes} {scope : Scope} (henv : env.Admits scope) {name : String}
    {s : Shape} {v : Value} (hv : s.Admits v) : Shapes.Admits ((name, s) :: env)
      ((name, v) :: scope) := by
  intro n s' hs'
  rw [List.lookup_cons] at hs' ⊢
  split at hs'
  · cases hs'
    exact ⟨v, rfl, hv⟩
  · exact henv n s' hs'

mutual

/-- Whether a part of a template is rendered for all values at hand. -/
def Node.isWellShaped (env : Shapes) : Node → Bool
  | .text _ => true
  | .print _ e => (e.shape? env).isSome
  | .cond _ c yes no =>
    (c.shape? env).isSome && areWellShaped (env.assume c) yes && areWellShaped env no
  | .loop _ name e body otherwise =>
    match e.shape? env with
    | some (.list s) => areWellShaped (env.inLoop name s) body && areWellShaped env otherwise
    | _ => false

/-- Whether some parts of a template are rendered for all values at hand. -/
def areWellShaped (env : Shapes) : List Node → Bool
  | [] => true
  | node :: rest => node.isWellShaped env && areWellShaped env rest

end

mutual

theorem Node.render_of_isWellShaped {env : Shapes} {scope : Scope} (henv : env.Admits scope) :
    (node : Node) → node.isWellShaped env = true → ∃ text, node.render .standard scope = .ok text
  | .text s, _ => ⟨s, rfl⟩
  | .print line e, h => by
    obtain ⟨s, hs⟩ := Option.isSome_iff_exists.mp h
    obtain ⟨v, heval, -⟩ := evalAt_of_shape? henv hs
    exact ⟨v.print, by rw [Node.render, heval]; rfl⟩
  | .cond line c yes no, h => by
    simp only [Node.isWellShaped, Bool.and_eq_true] at h
    obtain ⟨⟨hc, hyes⟩, hno⟩ := h
    obtain ⟨s, hs⟩ := Option.isSome_iff_exists.mp hc
    obtain ⟨v, heval, hvalue, -⟩ := evalAt_of_shape? henv hs
    -- a condition is rendered by the value of its expression alone
    have hrender : Node.render .standard scope (.cond line c yes no) =
        if v.isTruthy then renderNodes .standard scope yes
        else renderNodes .standard scope no := by
      rw [Node.render, heval]
      rfl
    rw [hrender]
    by_cases hv : v.isTruthy = true
    · rw [if_pos hv]
      exact render_of_areWellShaped (henv.assume hvalue hv) yes hyes
    · rw [if_neg hv]
      exact render_of_areWellShaped henv no hno
  | .loop line name e body otherwise, h => by
    rw [Node.isWellShaped] at h
    split at h
    · rename_i s hs
      simp only [Bool.and_eq_true] at h
      obtain ⟨v, heval, -, hv⟩ := evalAt_of_shape? henv hs
      obtain ⟨items, rfl, hitems⟩ := hv.exists_items
      -- for each item the body is rendered with the shapes of the item and of the loop at hand
      have hbody : ∀ item ∈ items.zipIdx, ∃ text, renderNodes .standard
          ((name, item.1) :: ("loop", loopValue items.length item.2) :: scope) body = .ok text := by
        intro item hitem
        have hitem' := hitems item.1 (List.fst_mem_of_mem_zipIdx hitem)
        exact render_of_areWellShaped ((henv.cons (admits_loopValue _ _)).cons hitem') body h.1
      rw [Node.render, heval]
      cases items with
      | nil => exact render_of_areWellShaped henv otherwise h.2
      | cons item items =>
        obtain ⟨texts, htexts⟩ := exists_mapM_eq_ok hbody
        exact ⟨"".intercalate texts,
          bind_eq_ok.mpr ⟨_, rfl, bind_eq_ok.mpr ⟨texts, htexts, rfl⟩⟩⟩
    · cases h

/-- **A well-shaped template is rendered**, whatever the values at hand are. -/
theorem render_of_areWellShaped {env : Shapes} {scope : Scope} (henv : env.Admits scope) :
    (nodes : List Node) → areWellShaped env nodes = true →
      ∃ text, renderNodes .standard scope nodes = .ok text
  | [], _ => ⟨"", rfl⟩
  | node :: rest, h => by
    rw [areWellShaped, Bool.and_eq_true] at h
    obtain ⟨text, htext⟩ := node.render_of_isWellShaped henv h.1
    obtain ⟨texts, htexts⟩ := render_of_areWellShaped henv rest h.2
    exact ⟨text ++ texts, by rw [renderNodes, htext, htexts]; rfl⟩

end

end Specloom.Template
