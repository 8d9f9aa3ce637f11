import Specloom.Module.Declare
import Specloom.Proofs.Datatype.OfDocument

/-!
# Names of types

A type is written in documents as its name, and the name tells the type. A reference is written with
its owner in front of its name, and since a name has no dot in it, the last dot parts the two again,
whatever dots the owner has. So the datatypes of documents are told apart by their names, and the
types of fields by their tags.

## Main definitions

* `FieldType.fullTag`: a tag with the tag of texts in place of the empty one
* `FieldType.ofTarget`: the type that a reference is
* `FieldType.IsDeclared`: a type is built in, or a reference to what it is taken for

## Main results

* `Datatype.map_name_nodes`: datatypes have the names that are reached in their document
* `FieldType.ofTag?_eq_some_iff`: the built-in types and their tags
* `FieldType.ofDoc_eq_ok_iff`: the declared types and their tags
* `typeNames_read_back`: type names are read as they are written
-/

namespace Specloom

open Document

/-! ## Datatypes -/

namespace Datatype

variable {module : String} {location : Location}

theorem flatMap_eq_of_forall₂ {α β γ : Type} {R : α → β → Prop} {f : α → List γ} {g : β → List γ}
    {xs : List α} {ys : List β} (h : List.Forall₂ R xs ys)
    (hfg : ∀ x ∈ xs, ∀ y, R x y → g y = f x) : ys.flatMap g = xs.flatMap f := by
  induction h with
  | nil => rfl
  | @cons x y xs ys hxy _ ih =>
    rw [List.forall_mem_cons] at hfg
    rw [List.flatMap_cons, List.flatMap_cons, hfg.1 y hxy, ih hfg.2]

/-- **Datatypes have the names that are reached in their document**, in the same order. -/
theorem map_name_nodes {doc : DatatypeDoc} {t : Datatype} (h : ofDoc module location doc = .ok t) :
    t.nodes.map (·.name) = doc.reached.map (·.2) := by
  induction doc using DatatypeDoc.induction generalizing location t with
  | h doc ihElement ihFields =>
    obtain ⟨hkind, -, helement, hfields⟩ := ofDoc_eq_ok_iff_parts.mp h
    have hname : t.name = doc.typeName := t.name_eq.trans (TypeKind.name_of_classify hkind)
    have helements : (t.element?.toList.flatMap nodes).map (·.name) =
        (doc.element?.toList.flatMap DatatypeDoc.reached).map (·.2) := by
      cases hof : doc.element? with
      | none =>
        rw [hof, ofElement] at helement
        rw [← Except.ok.inj helement]
        rfl
      | some d =>
        rw [hof, ofElement] at helement
        obtain ⟨u, hu, helement⟩ := map_eq_ok.mp helement
        rw [← helement]
        simpa using ihElement d hof hu
    have hmembers : ((t.fields.map (·.2)).flatMap nodes).map (·.name) =
        (doc.fields.flatMap fun f => f.2.reached.map fun r => (f.1 :: r.1, r.2)).map (·.2) := by
      rw [ofFields_eq, mapM_eq_ok] at hfields
      simp only [List.flatMap_map, List.map_flatMap, List.map_map]
      refine flatMap_eq_of_forall₂ hfields fun f hf g hg => ?_
      obtain ⟨u, hu, rfl⟩ := map_eq_ok.mp hg
      exact ihFields f hf hu
    rw [nodes_eq, DatatypeDoc.reached_eq, List.map_cons, List.map_cons, hname, children,
      List.flatMap_append, List.map_append, List.map_append, helements, hmembers]

end Datatype

/-! ## Types of fields -/

namespace FieldType

/-- A tag with the tag of texts in place of the empty one. -/
def fullTag (tag : String) : String :=
  if tag = "" then FieldType.text.tag else tag

theorem fullTag_of_ne {tag : String} (h : tag ≠ "") : fullTag tag = tag :=
  if_neg h

theorem fullTag_ne (tag : String) : fullTag tag ≠ "" := by
  unfold fullTag
  split
  · decide
  · assumption

/-- A tag means the same with the tag of texts in place of the empty one. -/
theorem ofTag?_fullTag (tag : String) : ofTag? (fullTag tag) = ofTag? tag := by
  by_cases h : tag = ""
  · rw [h]
    decide +kernel
  · rw [fullTag_of_ne h]

/-- **The built-in types and their tags.** -/
theorem ofTag?_eq_some_iff {tag : String} {type : FieldType} :
    ofTag? tag = some type ↔ type ∈ builtin ∧ type.tag = fullTag tag := by
  rw [← ofTag?_fullTag, ofTag?, if_neg (fullTag_ne tag)]
  constructor
  · intro h
    have htag := List.find?_some (show builtin.find? (·.tag == fullTag tag) = some type from h)
    exact ⟨List.mem_of_find?_eq_some h, beq_iff_eq.mp htag⟩
  · rintro ⟨hmem, htag⟩
    -- no two of them have one tag
    have hfound : ∀ t ∈ builtin, builtin.find? (·.tag == t.tag) = some t := by decide +kernel
    rw [← htag, hfound type hmem]

/-- A tag that is a reference is no tag of a built-in type, and not the empty one. -/
theorem ofTag?_of_parse {tag : String} {ref : TypeRef}
    (h : TypeRef.parse? (fullTag tag) = some ref) :
    ofTag? tag = none ∧ TypeRef.parse? tag = some ref := by
  have hbuiltin : ∀ t ∈ builtin, TypeRef.parse? t.tag = none := by decide +kernel
  have hnone : ofTag? tag = none := by
    refine Option.eq_none_iff_forall_ne_some.mpr fun t ht => ?_
    obtain ⟨hmem, htag⟩ := ofTag?_eq_some_iff.mp ht
    rw [← htag, hbuiltin t hmem] at h
    cases h
  refine ⟨hnone, ?_⟩
  have hne : tag ≠ "" := by
    rintro rfl
    cases hnone
  rwa [fullTag_of_ne hne] at h

/-- The type that a reference is, by what it stands for. -/
def ofTarget (ref : TypeRef) : Target → FieldType
  | .enum => .custom (.enum ref)
  | .struct => .custom (.struct ref)

/-- A type is built in, or a reference that stands for what it is taken for. -/
inductive IsDeclared (m : Module) (run : List Module) : FieldType → Prop where
  | builtin {type : FieldType} (h : type ∈ builtin) : IsDeclared m run type
  | reference {ref : TypeRef} {target : Target} (hwritable : ref.IsWritable)
    (h : m.resolve? run ref = some target) : IsDeclared m run (ofTarget ref target)

variable {m : Module} {run : List Module} {command : String} {doc : CommandFieldDoc}
  {type : FieldType}

/-- What is read is declared, and has the tag that was read. -/
theorem isDeclared_of_ofDoc (h : FieldType.ofDoc m run command doc = .ok type) :
    type.IsDeclared m run ∧ type.tag = fullTag doc.type := by
  rw [ofDoc] at h
  split at h
  · rename_i found htag
    cases h
    obtain ⟨hmem, hfound⟩ := ofTag?_eq_some_iff.mp htag
    exact ⟨.builtin hmem, hfound⟩
  · rename_i htag
    -- the empty tag is the tag of a text, so this one is not empty
    have hne : doc.type ≠ "" := by
      intro hempty
      rw [hempty] at htag
      cases htag
    rw [fullTag_of_ne hne]
    split at h
    · cases h
    · rename_i ref hparse
      obtain ⟨hwritable, hqualified⟩ := TypeRef.parse?_eq_some_iff.mp hparse
      split at h
      · rename_i hresolve
        cases h
        exact ⟨.reference hwritable hresolve, hqualified.symm⟩
      · rename_i hresolve
        cases h
        exact ⟨.reference hwritable hresolve, hqualified.symm⟩
      · cases h

/-- **A declared type that is a reference** can be written, and stands for what it is taken for. -/
theorem IsDeclared.of_reference? {ref : TypeRef} (h : type.IsDeclared m run)
    (href : type.reference? = some ref) :
    ref.IsWritable ∧ ((m.resolve? run ref = some .enum ∧ type = .custom (.enum ref)) ∨
      (m.resolve? run ref = some .struct ∧ type = .custom (.struct ref))) := by
  have hbuiltin : ∀ t ∈ FieldType.builtin, t.reference? = none := by decide
  cases h with
  | builtin hmem =>
    rw [hbuiltin type hmem] at href
    cases href
  | @reference ref' target hwritable hresolve =>
    cases target with
    | enum =>
      cases href
      exact ⟨hwritable, Or.inl ⟨hresolve, rfl⟩⟩
    | struct =>
      cases href
      exact ⟨hwritable, Or.inr ⟨hresolve, rfl⟩⟩

/-- What is declared is read from its tag. -/
theorem IsDeclared.ofDoc_eq_ok (h : type.IsDeclared m run) (htag : type.tag = fullTag doc.type) :
    FieldType.ofDoc m run command doc = .ok type := by
  cases h with
  | builtin hmem => rw [ofDoc, ofTag?_eq_some_iff.mpr ⟨hmem, htag⟩]
  | @reference ref target hwritable hresolve =>
    have hqualified : ref.qualified = fullTag doc.type := by cases target <;> exact htag
    obtain ⟨hnone, hparse⟩ :=
      ofTag?_of_parse (TypeRef.parse?_eq_some_iff.mpr ⟨hwritable, hqualified.symm⟩)
    rw [ofDoc, hnone, hparse]
    cases target <;> simp only [hresolve, ofTarget]

/-- **The types of fields are the declared types, and are read from their tags.** -/
theorem ofDoc_eq_ok_iff : FieldType.ofDoc m run command doc = .ok type ↔
    type.IsDeclared m run ∧ type.tag = fullTag doc.type :=
  ⟨isDeclared_of_ofDoc, fun h => h.1.ofDoc_eq_ok h.2⟩

end FieldType

/-! ## The names that are read back -/

/-- **Type names are read as they are written.** A reference that can be written is read from its
written form, and nothing else is read. The datatypes of documents have the names that they were
written with, and of two with the same name, in whatever documents, the kind is the same. The type
of a field has the tag that it was written with, which stands for a text if it is empty, and is read
from this tag again. -/
theorem typeNames_read_back :
    (∀ raw ref, TypeRef.parse? raw = some ref ↔ ref.IsWritable ∧ raw = ref.qualified) ∧
      (∀ module location doc t, Datatype.ofDoc module location doc = .ok t →
        t.nodes.map (·.name) = doc.reached.map (·.2) ∧
          ∀ module' location' doc' t', Datatype.ofDoc module' location' doc' = .ok t' →
            ∀ node ∈ t.nodes, ∀ node' ∈ t'.nodes, node.name = node'.name →
              node.kind = node'.kind) ∧
      ∀ m run command doc type, FieldType.ofDoc m run command doc = .ok type →
        type.tag = (if doc.type = "" then "text" else doc.type) ∧
          ∀ command' doc', doc'.type = type.tag →
            FieldType.ofDoc m run command' doc' = .ok type := by
  refine ⟨fun raw ref => TypeRef.parse?_eq_some_iff, ?_, ?_⟩
  · intro module location doc t ht
    refine ⟨Datatype.map_name_nodes ht, ?_⟩
    intro module' location' doc' t' ht' node hnode node' hnode' hname
    exact (Datatype.named_ofDoc doc ht).kind_eq (Datatype.named_ofDoc doc' ht') hnode hnode' hname
  · intro m run command doc type htype
    obtain ⟨hdeclared, htag⟩ := FieldType.ofDoc_eq_ok_iff.mp htype
    refine ⟨htag, fun command' doc' hdoc' => hdeclared.ofDoc_eq_ok ?_⟩
    rw [hdoc', FieldType.fullTag_of_ne (htag ▸ FieldType.fullTag_ne doc.type)]

/-- References to an enum of a module whose id has a dot in it. -/
theorem typeNames_read_back_owner :
    (⟨some "app.users", "Role"⟩ : TypeRef).IsWritable ∧
      TypeRef.parse? "app.users.Role" = some ⟨some "app.users", "Role"⟩ ∧
      (∃ t, Datatype.ofDoc "shop" (.type "T") (.node "object" false none (some
          [("a", .name "app.users.Role"), ("b", .node "app.users.Role" true none none)])) = .ok t ∧
        t.nodes.map (·.name) = ["object", "app.users.Role", "app.users.Role"] ∧
        ∀ node ∈ t.nodes, ∀ node' ∈ t.nodes, node.name = node'.name → node.kind = node'.kind) ∧
      ∃ m doc, doc.type = "app.users.Role" ∧
        FieldType.ofDoc m [m] "c" doc = .ok (.custom (.enum ⟨some "app.users", "Role"⟩)) ∧
        ∀ command' doc', doc'.type = "app.users.Role" →
          FieldType.ofDoc m [m] command' doc' =
            .ok (.custom (.enum ⟨some "app.users", "Role"⟩)) := by
  obtain ⟨hreferences, hdatatypes, htypes⟩ := typeNames_read_back
  have hparse : TypeRef.parse? "app.users.Role" = some ⟨some "app.users", "Role"⟩ := by
    decide +kernel
  have hdatatype : Datatype.ofDoc "shop" (.type "T") (.node "object" false none (some
      [("a", .name "app.users.Role"), ("b", .node "app.users.Role" true none none)])) =
        .ok (.object [("a", .reference ⟨some "app.users", "Role"⟩ false),
          ("b", .reference ⟨some "app.users", "Role"⟩ true)] false) := by
    rfl
  have htype : FieldType.ofDoc
      ⟨"app.users", "app.users", ⟨true, false, false, false⟩, [], [⟨"Role", ["admin"]⟩], [], [], [],
        [], []⟩
      [⟨"app.users", "app.users", ⟨true, false, false, false⟩, [], [⟨"Role", ["admin"]⟩], [], [],
        [], [], []⟩]
      "c" ⟨"role", "", "app.users.Role", "", "", none, false, false, "", ""⟩ =
        .ok (.custom (.enum ⟨some "app.users", "Role"⟩)) := by
    rfl
  exact ⟨((hreferences _ _).mp hparse).1, hparse,
    ⟨_, hdatatype, rfl, (hdatatypes _ _ _ _ hdatatype).2 _ _ _ _ hdatatype⟩,
    _, _, rfl, htype, (htypes _ _ _ _ _ htype).2⟩

end Specloom
