import Specloom.Proofs.Text.Split
import Specloom.Template.Render

/-!
# Rendering part by part

The text of a template is the text of its parts, one after the other. A condition gives the text of
a branch or nothing, and a loop the text of its body for every item.

## Main results

* `renderNodes_append_eq_ok`: a template in two parts
* `renderNodes_lines`, `renderNodes_between`, `renderNodes_between₂`: lines, and values among texts
* `renderNodes_cond`, `renderNodes_loop`: conditions and loops without a second branch
-/

namespace Specloom.Template

variable {h : Helpers} {scope : Scope}

/-- A template in two parts is rendered exactly if both are. -/
theorem renderNodes_append_eq_ok {first last : List Node} {text : String} :
    renderNodes h scope (first ++ last) = .ok text ↔
      ∃ a b, renderNodes h scope first = .ok a ∧ renderNodes h scope last = .ok b ∧
        text = a ++ b := by
  induction first generalizing text with
  | nil =>
    show renderNodes h scope last = _ ↔ ∃ a b, Except.ok "" = Except.ok a ∧ _
    simp
  | cons node first ih =>
    have hcons (nodes : List Node) (text : String) :
        renderNodes h scope (node :: nodes) = .ok text ↔
          ∃ a b, node.render h scope = .ok a ∧ renderNodes h scope nodes = .ok b ∧
            text = a ++ b := by
      rw [renderNodes]
      cases node.render h scope with
      | error fault => simp [bind, Except.bind]
      | ok a =>
        cases renderNodes h scope nodes <;>
          simp [bind, Except.bind, pure, Except.pure, eq_comm]
    rw [List.cons_append, hcons]
    simp only [ih, hcons]
    constructor
    · rintro ⟨a, _, ha, ⟨b, c, hb, hc, rfl⟩, rfl⟩
      exact ⟨_, c, ⟨a, b, ha, hb, rfl⟩, hc, (String.append_assoc ..).symm⟩
    · rintro ⟨_, c, ⟨a, b, ha, hb, rfl⟩, hc, rfl⟩
      exact ⟨a, _, ha, ⟨b, c, hb, hc, rfl⟩, String.append_assoc ..⟩

theorem renderNodes_append {first last : List Node} {a b : String}
    (ha : renderNodes h scope first = .ok a) (hb : renderNodes h scope last = .ok b) :
    renderNodes h scope (first ++ last) = .ok (a ++ b) :=
  renderNodes_append_eq_ok.mpr ⟨a, b, ha, hb, rfl⟩

theorem renderNodes_singleton {node : Node} {text : String} (ht : node.render h scope = .ok text) :
    renderNodes h scope [node] = .ok text := by
  rw [renderNodes, ht]
  show Except.ok (text ++ "") = _
  rw [String.append_empty]

theorem renderNodes_lines (lines : List String) :
    renderNodes h scope [.lines lines] = .ok (String.join (lines.map (· ++ "\n"))) :=
  renderNodes_singleton (congrArg Except.ok (Text.intercalate_empty _))

theorem renderNodes_text (text : String) : renderNodes h scope [.text text] = .ok text :=
  renderNodes_singleton rfl

theorem renderNodes_print {line : Nat} {e : Expr} {s : String}
    (he : evalAt h scope line e = .ok (.text s)) : renderNodes h scope [.print line e] = .ok s := by
  refine renderNodes_singleton ?_
  rw [Node.render, he]
  rfl

/-- A value between two texts. -/
theorem renderNodes_between {line : Nat} {e : Expr} {s : String}
    (he : evalAt h scope line e = .ok (.text s)) (before after : String) :
    renderNodes h scope [.text before, .print line e, .text after] = .ok (before ++ s ++ after) :=
  renderNodes_append (renderNodes_append (renderNodes_text before) (renderNodes_print he))
    (renderNodes_text after)

/-- Two values among texts. -/
theorem renderNodes_between₂ {line line' : Nat} {e e' : Expr} {s s' : String}
    (he : evalAt h scope line e = .ok (.text s)) (he' : evalAt h scope line' e' = .ok (.text s'))
    (before middle after : String) : renderNodes h scope [.text before, .print line e, .text middle,
      .print line' e', .text after] = .ok (before ++ s ++ middle ++ s' ++ after) :=
  renderNodes_append (renderNodes_append (renderNodes_between he before middle)
    (renderNodes_print he')) (renderNodes_text after)

/-- A condition without a second branch. -/
theorem renderNodes_cond {line : Nat} {e : Expr} {v : Value} {yes : List Node} {text : String}
    (he : evalAt h scope line e = .ok v) (ht : renderNodes h scope yes = .ok text) :
    renderNodes h scope [.cond line e yes []] = .ok (if v.isTruthy then text else "") := by
  refine renderNodes_singleton ?_
  rw [Node.render, he]
  show (if v.isTruthy then renderNodes h scope yes else .ok "") = _
  rw [ht]
  split <;> rfl

/-- A loop repeats its body for every item. -/
theorem renderNodes_loop {α : Type} [ToValue α] {line : Nat} {key : String} {e : Expr} {xs : List α}
    {body : List Node} {text : α → String} (he : evalAt h scope line e = .ok (toValue xs))
    (ht : ∀ x place, renderNodes h ((key, toValue x) :: ("loop", place) :: scope) body =
      .ok (text x)) :
    renderNodes h scope [.loop line key e body []] = .ok (String.join (xs.map text)) := by
  refine renderNodes_singleton ?_
  have hitems (n k : Nat) : (((xs.map toValue).zipIdx k).mapM fun item =>
      renderNodes h ((key, item.1) :: ("loop", loopValue n item.2) :: scope) body) =
        .ok (xs.map text) := by
    clear he
    induction xs generalizing k with
    | nil => rfl
    | cons x xs ih =>
      rw [List.map_cons, List.zipIdx_cons, List.mapM_cons, ht, ih]
      rfl
  rw [Node.render, he]
  cases xs with
  | nil => rfl
  | cons x xs =>
    show (List.mapM _ (List.zipIdx ((x :: xs).map toValue)) >>= fun texts =>
      Except.ok ("".intercalate texts)) = _
    rw [hitems]
    exact congrArg Except.ok (Text.intercalate_empty _)

end Specloom.Template
