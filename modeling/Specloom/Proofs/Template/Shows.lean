import Specloom.Proofs.Checked
import Specloom.Proofs.Template.Parts

/-!
# What a template shows

A text stands in what a template gives as soon as some parts in a row give the text: parts of the
template itself, of the branch that is taken, or of the body of a loop for one of its items.

## Main definitions

* `StandsIn`: a text that is somewhere in another
* `Shows`: a template that gives a text somewhere

## Main results

* `Shows.standsIn`: what a template shows stands in the text of the template
-/

namespace Specloom.Template

/-! ## Texts in texts -/

/-- A text is somewhere in another. -/
def StandsIn (shown text : String) : Prop :=
  ∃ before after, text = before ++ shown ++ after

theorem StandsIn.trans {a b c : String} (hab : StandsIn a b) (hbc : StandsIn b c) :
    StandsIn a c := by
  obtain ⟨before, after, rfl⟩ := hab
  obtain ⟨before', after', rfl⟩ := hbc
  exact ⟨before' ++ before, after ++ after', by simp only [String.append_assoc]⟩

theorem standsIn_append_right (a b : String) : StandsIn b (a ++ b) :=
  ⟨a, "", by rw [String.append_empty]⟩

theorem standsIn_intercalate {text : String} {texts : List String} (h : text ∈ texts) :
    StandsIn text ("".intercalate texts) := by
  obtain ⟨before, after, rfl⟩ := List.append_of_mem h
  refine ⟨String.join before, String.join after, ?_⟩
  rw [Text.intercalate_empty, String.join_append, String.join_cons, String.append_assoc]

/-! ## Templates -/

variable {h : Helpers} {scope : Scope}

/-- A template shows a text: `count` parts after some others give it, or the template shows it in
the branch that is taken or for an item of a loop. -/
inductive Shows (h : Helpers) : Scope → List Node → String → Prop where
  | parts {scope : Scope} {nodes : List Node} {shown : String} (skip count : Nat)
      (hshown : renderNodes h scope ((nodes.drop skip).take count) = .ok shown) :
      Shows h scope nodes shown
  | branch {scope : Scope} {nodes yes no : List Node} {line : Nat} {e : Expr} {v : Value}
      {shown : String} (index : Nat) (hnode : nodes[index]? = some (.cond line e yes no))
      (he : evalAt h scope line e = .ok v) (hv : v.isTruthy = true)
      (hshown : Shows h scope yes shown) : Shows h scope nodes shown
  | item {scope : Scope} {nodes body otherwise : List Node} {line : Nat} {key : String} {e : Expr}
      {items : List Value} {v : Value} {shown : String} (index : Nat)
      (hnode : nodes[index]? = some (.loop line key e body otherwise))
      (he : evalAt h scope line e = .ok (.list items)) (hv : v ∈ items)
      (hshown : ∀ place, Shows h ((key, v) :: ("loop", place) :: scope) body shown) :
      Shows h scope nodes shown

/-- The text of some parts in a row stands in the text of all parts. -/
theorem exists_standsIn {first middle last : List Node} {text : String}
    (htext : renderNodes h scope (first ++ middle ++ last) = .ok text) :
    ∃ shown, renderNodes h scope middle = .ok shown ∧ StandsIn shown text := by
  obtain ⟨_, after, hinit, -, rfl⟩ := renderNodes_append_eq_ok.mp htext
  obtain ⟨before, shown, -, hshown, rfl⟩ := renderNodes_append_eq_ok.mp hinit
  exact ⟨shown, hshown, before, after, rfl⟩

theorem exists_standsIn_getElem? {nodes : List Node} {index : Nat} {node : Node} {text : String}
    (hnode : nodes[index]? = some node) (htext : renderNodes h scope nodes = .ok text) :
    ∃ shown, node.render h scope = .ok shown ∧ StandsIn shown text := by
  obtain ⟨first, last, rfl⟩ := List.append_of_mem (List.mem_of_getElem? hnode)
  rw [← List.singleton_append, ← List.append_assoc] at htext
  obtain ⟨shown, hshown, hstands⟩ := exists_standsIn htext
  rw [renderNodes] at hshown
  obtain ⟨_, hrender, hshown⟩ := bind_eq_ok.mp hshown
  refine ⟨shown, ?_, hstands⟩
  cases hshown
  rw [hrender, String.append_empty]

/-- **What a template shows stands in its text.** -/
theorem Shows.standsIn {nodes : List Node} {shown text : String}
    (hshows : Shows h scope nodes shown) (htext : renderNodes h scope nodes = .ok text) : StandsIn shown text := by
  induction hshows generalizing text with
  | @parts scope nodes shown skip count hshown =>
    rw [← List.take_append_drop skip nodes, ← List.take_append_drop count (nodes.drop skip),
      ← List.append_assoc] at htext
    obtain ⟨shown', hshown', hstands⟩ := exists_standsIn htext
    cases hshown.symm.trans hshown'
    exact hstands
  | branch index hnode he hv _ ih =>
    obtain ⟨text', htext', hstands⟩ := exists_standsIn_getElem? hnode htext
    rw [Node.render, he] at htext'
    exact (ih ((if_pos hv).symm.trans htext')).trans hstands
  | @item scope nodes body otherwise line key e items v shown index hnode he hv _ ih =>
    obtain ⟨text', htext', hstands⟩ := exists_standsIn_getElem? hnode htext
    rw [Node.render, he] at htext'
    cases items with
    | nil => cases hv
    | cons first rest =>
      obtain ⟨_, hitems, htext'⟩ := bind_eq_ok.mp htext'
      cases hitems
      obtain ⟨texts, htexts, hjoined⟩ := bind_eq_ok.mp htext'
      cases hjoined
      -- the item has an index among the items, and the body has a text there
      rw [← List.zipIdx_map_fst 0 (first :: rest)] at hv
      obtain ⟨⟨v, index⟩, hindex, rfl⟩ := List.mem_map.mp hv
      obtain ⟨itemText, hmem, hitemText⟩ := exists_mem_of_mem_mapM htexts hindex
      exact ((ih _ hitemText).trans (standsIn_intercalate hmem)).trans hstands

end Specloom.Template
