import Specloom.Path.Segment
import Specloom.Proofs.Datatype.Mentions

/-!
# The datatypes inside a datatype

A datatype is within another if it is reached by going into fields and elements. The list of nodes
holds these datatypes and no others, and of a datatype of a document each of them is told by its
name: two with one name are of one kind.

## Main definitions

* `Datatype.Within`: a datatype inside another
* `Datatype.HasIdentifiers`: keys are identifiers, and references are dotted ones
* `Datatype.induction`: induction along fields and elements

## Main results

* `mem_nodes_iff`: the nodes of a datatype
* `exists_mem_flatten_iff`: flattening keeps one datatype of each kind
-/

namespace Specloom

namespace Datatype

/-- A datatype inside another: itself, or inside of a field or of the element. -/
inductive Within (node : Datatype) : Datatype → Prop where
  | self : Within node node
  | field {key : String} {t : Datatype} {fields : List (String × Datatype)} {nullable : Bool}
    (hfield : (key, t) ∈ fields) (h : Within node t) : Within node (.object fields nullable)
  | element {t : Datatype} {nullable : Bool} (h : Within node t) :
    Within node (.array (some t) nullable)

/-- The keys in a datatype are identifiers, and its references are identifiers with dots between
them. -/
structure HasIdentifiers (t : Datatype) : Prop where
  key : ∀ fields nullable, (object fields nullable).Within t →
    ∀ field ∈ fields, Path.isIdent field.1.toList = true
  reference : ∀ ref, t.Mentions ref →
    ∀ piece ∈ Text.splitOn '.' ref.qualified.toList, Path.isIdent piece = true

namespace HasIdentifiers

theorem field {fields : List (String × Datatype)} {nullable : Bool}
    (h : (object fields nullable).HasIdentifiers) {field : String × Datatype}
    (hfield : field ∈ fields) : field.2.HasIdentifiers where
  key fields n hin := h.key fields n (.field hfield hin)
  reference ref href := h.reference ref (.field hfield href)

theorem element {t : Datatype} {nullable : Bool} (h : (array (some t) nullable).HasIdentifiers) :
    t.HasIdentifiers where
  key fields n hin := h.key fields n (.element hin)
  reference ref href := h.reference ref (.element href)

end HasIdentifiers

mutual

/-- Induction along fields and elements. -/
theorem induction {motive : Datatype → Prop}
    (scalar : ∀ s n, motive (.scalar s n))
    (object : ∀ fields n, (∀ field ∈ fields, motive field.2) → motive (.object fields n))
    (array : ∀ element n, (∀ t ∈ element, motive t) → motive (.array element n))
    (reference : ∀ ref n, motive (.reference ref n)) : (t : Datatype) → motive t
  | .scalar s n => scalar s n
  | .object fields n => object fields n (inductionFields scalar object array reference fields)
  | .array none n => array none n (by simp)
  | .array (some t) n => array (some t) n (by
      rintro _ ⟨⟩
      exact induction scalar object array reference t)
  | .reference ref n => reference ref n

theorem inductionFields {motive : Datatype → Prop}
    (scalar : ∀ s n, motive (.scalar s n))
    (object : ∀ fields n, (∀ field ∈ fields, motive field.2) → motive (.object fields n))
    (array : ∀ element n, (∀ t ∈ element, motive t) → motive (.array element n))
    (reference : ∀ ref n, motive (.reference ref n)) :
    (fields : List (String × Datatype)) → ∀ field ∈ fields, motive field.2
  | [] => by simp
  | (_, t) :: fields => List.forall_mem_cons.mpr
    ⟨induction scalar object array reference t,
      inductionFields scalar object array reference fields⟩

end

theorem Within.trans {s t u : Datatype} (hs : s.Within t) (ht : t.Within u) : s.Within u := by
  induction ht with
  | self => exact hs
  | field hfield _ ih => exact .field hfield ih
  | element _ ih => exact .element ih

theorem self_mem_nodes (t : Datatype) : t ∈ t.nodes := by
  cases t <;> simp [nodes]

/-- **The nodes of a datatype are the datatypes inside it.** -/
theorem mem_nodes_iff {node t : Datatype} : node ∈ t.nodes ↔ node.Within t := by
  constructor
  · intro h
    induction t using Datatype.induction with
    | scalar s n =>
      obtain rfl := List.mem_singleton.mp h
      exact .self
    | object fields n ih =>
      rw [nodes, nodesOfFields_eq] at h
      rcases List.mem_cons.mp h with rfl | h
      · exact .self
      · obtain ⟨field, hfield, h⟩ := List.mem_flatMap.mp h
        exact .field hfield (ih field hfield h)
    | array element n ih =>
      rw [nodes] at h
      rcases List.mem_cons.mp h with rfl | h
      · exact .self
      · cases element with
        | none => cases h
        | some t => exact .element (ih t rfl h)
    | reference ref n =>
      obtain rfl := List.mem_singleton.mp h
      exact .self
  · intro h
    induction h with
    | self => exact self_mem_nodes node
    | field hfield _ ih => exact List.mem_cons_of_mem _ (mem_nodesOfFields hfield ih)
    | element _ ih => exact List.mem_cons_of_mem _ ih

theorem mem_flatMap_nodes_iff {roots : List Datatype} {node : Datatype} :
    node ∈ roots.flatMap nodes ↔ ∃ t ∈ roots, node.Within t := by
  simp only [List.mem_flatMap, mem_nodes_iff]

/-- Whether keys are identifiers and references are dotted ones can be seen at the nodes. -/
theorem hasIdentifiers_iff {t : Datatype} : t.HasIdentifiers ↔ ∀ node ∈ t.nodes,
    (∀ field ∈ node.fields, Path.isIdent field.1.toList = true) ∧
      ∀ ref ∈ node.reference?, ∀ piece ∈ Text.splitOn '.' ref.qualified.toList,
        Path.isIdent piece = true := by
  constructor
  · intro h node hnode
    cases node with
    | scalar s n => simp [Datatype.fields, reference?]
    | object fields n => exact ⟨h.key fields n (mem_nodes_iff.mp hnode), by simp [reference?]⟩
    | array element n => simp [Datatype.fields, reference?]
    | reference ref n =>
      refine ⟨by simp [Datatype.fields], ?_⟩
      rintro _ ⟨⟩
      exact h.reference ref (mentions_iff_mem_nodes.mpr ⟨n, hnode⟩)
  · intro h
    refine ⟨fun fields n hin => (h _ (mem_nodes_iff.mpr hin)).1, fun ref href => ?_⟩
    obtain ⟨n, hnode⟩ := mentions_iff_mem_nodes.mp href
    exact (h _ hnode).2 ref rfl

instance (t : Datatype) : Decidable t.HasIdentifiers :=
  decidable_of_iff _ hasIdentifiers_iff.symm

end Datatype

/-- **Flattening keeps a datatype of each kind** in named datatypes, since what it drops has the
name, and with it the kind, of what it keeps. -/
theorem exists_mem_flatten_iff {roots : List Datatype} (hroots : ∀ t ∈ roots, t.Named)
    {kind : TypeKind} : (∃ t ∈ flatten roots, t.kind = kind) ↔
      ∃ t ∈ roots.flatMap Datatype.nodes, t.kind = kind := by
  constructor
  · rintro ⟨t, ht, hkind⟩
    exact ⟨t, mem_of_mem_flatten ht, hkind⟩
  · rintro ⟨t, ht, rfl⟩
    obtain ⟨kept, hkept, hname⟩ := exists_mem_flatten ht
    refine ⟨kept, hkept, ?_⟩
    -- the name tells the kind of both
    obtain ⟨root, hroot, hnode⟩ := List.mem_flatMap.mp ht
    obtain ⟨root', hroot', hnode'⟩ := List.mem_flatMap.mp (mem_of_mem_flatten hkept)
    have hkind := (hroots root' hroot').classify?_name hnode'
    rw [hname, (hroots root hroot).classify?_name hnode] at hkind
    exact (Option.some.inj hkind).symm

end Specloom
