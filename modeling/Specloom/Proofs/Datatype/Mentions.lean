import Specloom.Datatype.Flatten
import Specloom.Datatype.OfDocument
import Specloom.Proofs.Checked

/-!
# The references in a datatype

A datatype mentions a reference if the reference occurs in it at any depth. Flattening keeps one
datatype of each name, and what it drops is told apart from what it keeps by the name alone. In a
datatype of a document no mention is lost by that: a name that was classified when the document was
read is the name of one reference only.

## Main definitions

* `Datatype.Mentions`: a reference occurs in a datatype
* `Datatype.Named`: each name in a datatype tells the reference that it is

## Main results

* `mentions_iff_mem_nodes`: the mentions are the references among the datatypes inside
* `named_ofDoc`: datatypes of documents are named
* `mem_references_flatten`: flattening loses no mention
-/

namespace Specloom

open Text

/-- A reference occurs in a datatype: it is the datatype, or it occurs in a field or in the
element. -/
inductive Datatype.Mentions (ref : TypeRef) : Datatype → Prop where
  | reference (nullable : Bool) : Mentions ref (.reference ref nullable)
  | field {key : String} {t : Datatype} {fields : List (String × Datatype)} {nullable : Bool} :
    (key, t) ∈ fields → Mentions ref t → Mentions ref (.object fields nullable)
  | element {t : Datatype} {nullable : Bool} :
    Mentions ref t → Mentions ref (.array (some t) nullable)

/-- Each reference in a datatype is what its name denotes. -/
def Datatype.Named (t : Datatype) : Prop :=
  ∀ ref, t.Mentions ref → TypeKind.classify? ref.qualified = some (.reference ref)

/-! ## Names -/

/-- A reference is written as it was read. -/
theorem TypeRef.qualified_of_parse {raw : String} {ref : TypeRef}
    (h : TypeRef.parse? raw = some ref) : ref.qualified = raw := by
  rw [TypeRef.parse?] at h
  split at h
  · rename_i owner name hsplit
    obtain ⟨hraw, -⟩ := splitLast?_eq_some_iff.mp hsplit
    split at h
    · cases h
      show String.ofList owner ++ "." ++ String.ofList name = raw
      rw [← String.toList_inj]
      simp [hraw]
    · cases h
  · split at h
    · cases h
      rfl
    · cases h

/-- What a name denotes has that name. -/
theorem TypeKind.classify?_qualified {name : String} {ref : TypeRef}
    (h : TypeKind.classify? name = some (.reference ref)) :
    TypeKind.classify? ref.qualified = some (.reference ref) := by
  have hparse : TypeRef.parse? name = some ref := by
    rw [TypeKind.classify?] at h
    split at h
    · cases h
    · simpa using h
  rw [TypeRef.qualified_of_parse hparse, h]

theorem TypeKind.classify?_keyword (p : Primitive) :
    TypeKind.classify? p.keyword = some (.primitive p) := by
  rcases p with (_ | _ | _ | _ | _ | _) | _ | _ <;> decide +kernel

namespace Datatype

/-! ## Mentions are nodes -/

theorem mem_nodesOfFields {node : Datatype} {fields : List (String × Datatype)} {key : String}
    {t : Datatype} (ht : (key, t) ∈ fields) (h : node ∈ t.nodes) :
    node ∈ nodesOfFields fields := by
  induction fields with
  | nil => cases ht
  | cons field fields ih =>
    rw [nodesOfFields, List.mem_append]
    rcases List.mem_cons.mp ht with rfl | ht
    · exact Or.inl h
    · exact Or.inr (ih ht)

theorem exists_mem_nodes_of_mentions {ref : TypeRef} {t : Datatype} (h : t.Mentions ref) :
    ∃ nullable, .reference ref nullable ∈ t.nodes := by
  induction h with
  | reference nullable => exact ⟨nullable, List.mem_singleton_self _⟩
  | field hfield _ ih =>
    obtain ⟨nullable, hnode⟩ := ih
    exact ⟨nullable, List.mem_cons_of_mem _ (mem_nodesOfFields hfield hnode)⟩
  | element _ ih =>
    obtain ⟨nullable, hnode⟩ := ih
    exact ⟨nullable, List.mem_cons_of_mem _ hnode⟩

mutual

theorem mentions_of_mem_nodes {ref : TypeRef} {nullable : Bool} :
    (t : Datatype) → .reference ref nullable ∈ t.nodes → t.Mentions ref
  | .scalar s n, h => by cases List.mem_singleton.mp h
  | .object fields n, h => by
    rcases List.mem_cons.mp h with h | h
    · cases h
    · obtain ⟨key, t, ht, href⟩ := mentions_of_mem_nodesOfFields fields h
      exact .field ht href
  | .array element n, h => by
    rcases List.mem_cons.mp h with h | h
    · cases h
    · obtain ⟨t, rfl, href⟩ := mentions_of_mem_nodesOfElement element h
      exact .element href
  | .reference ref' n, h => by
    cases List.mem_singleton.mp h
    exact .reference _

theorem mentions_of_mem_nodesOfFields {ref : TypeRef} {nullable : Bool} :
    (fields : List (String × Datatype)) → .reference ref nullable ∈ nodesOfFields fields →
      ∃ key t, (key, t) ∈ fields ∧ t.Mentions ref
  | [], h => by cases h
  | (key, t) :: rest, h => by
    rw [nodesOfFields, List.mem_append] at h
    rcases h with h | h
    · exact ⟨key, t, List.mem_cons_self, mentions_of_mem_nodes t h⟩
    · obtain ⟨key', t', ht', href⟩ := mentions_of_mem_nodesOfFields rest h
      exact ⟨key', t', List.mem_cons_of_mem _ ht', href⟩

theorem mentions_of_mem_nodesOfElement {ref : TypeRef} {nullable : Bool} :
    (element : Option Datatype) → .reference ref nullable ∈ nodesOfElement element →
      ∃ t, element = some t ∧ t.Mentions ref
  | none, h => by cases h
  | some t, h => ⟨t, rfl, mentions_of_mem_nodes t h⟩

end

/-- The mentions of a datatype are the references among the datatypes inside it. -/
theorem mentions_iff_mem_nodes {ref : TypeRef} {t : Datatype} :
    t.Mentions ref ↔ ∃ nullable, .reference ref nullable ∈ t.nodes :=
  ⟨exists_mem_nodes_of_mentions, fun ⟨_, h⟩ => mentions_of_mem_nodes t h⟩

/-! ## Datatypes of documents -/

mutual

/-- **The datatypes of documents are named**: a reference comes from a name that was classified. -/
theorem named_ofDoc {module : String} {location : Location} :
    (doc : Document.DatatypeDoc) → {t : Datatype} → ofDoc module location doc = .ok t → t.Named
  | .name name, t, h => by
    rw [ofDoc] at h
    split at h
    · cases h
    · cases h
      rintro ref ⟨⟩
    · cases h
      -- an object without fields mentions nothing
      rintro ref (_ | ⟨hfield, -⟩)
      cases hfield
    · cases h
      rintro ref ⟨⟩
    · rename_i ref hname
      cases h
      rintro _ ⟨⟩
      exact TypeKind.classify?_qualified hname
  | .node name nullable of fields, t, h => by
    rw [ofDoc] at h
    split at h
    · cases h
    · cases h
      rintro ref ⟨⟩
    · obtain ⟨ts, hts, rfl⟩ := map_eq_ok.mp h
      rintro ref (_ | ⟨hfield, href⟩)
      exact named_ofOptionalFields fields hts hfield ref href
    · obtain ⟨element, helement, rfl⟩ := map_eq_ok.mp h
      rintro ref (_ | _ | href)
      exact named_ofElement of helement rfl ref href
    · rename_i ref hname
      cases h
      rintro _ ⟨⟩
      exact TypeKind.classify?_qualified hname

theorem named_ofElement {module : String} {location : Location} :
    (doc : Option Document.DatatypeDoc) → {element : Option Datatype} →
      ofElement module location doc = .ok element → ∀ {t}, element = some t → t.Named
  | none, element, h, t, ht => by
    cases h
    cases ht
  | some doc, element, h, t, ht => by
    obtain ⟨t', ht', rfl⟩ := map_eq_ok.mp h
    cases ht
    exact named_ofDoc doc ht'

theorem named_ofOptionalFields {module : String} {location : Location} :
    (docs : Option (List (String × Document.DatatypeDoc))) → {fields : List (String × Datatype)} →
      ofOptionalFields module location docs = .ok fields →
        ∀ {key t}, (key, t) ∈ fields → t.Named
  | none, fields, h, key, t, ht => by
    cases h
    cases ht
  | some docs, fields, h, key, t, ht => named_ofFields docs h ht

theorem named_ofFields {module : String} {location : Location} :
    (docs : List (String × Document.DatatypeDoc)) → {fields : List (String × Datatype)} →
      ofFields module location docs = .ok fields → ∀ {key t}, (key, t) ∈ fields → t.Named
  | [], fields, h, key, t, ht => by
    cases h
    cases ht
  | (key', doc) :: rest, fields, h, key, t, ht => by
    rw [ofFields] at h
    simp only [bind_eq_ok, pure_eq_ok] at h
    obtain ⟨t', ht', fields', hfields', rfl⟩ := h
    rcases List.mem_cons.mp ht with heq | ht
    · cases heq
      exact named_ofDoc doc ht'
    · exact named_ofFields rest hfields' ht

end

theorem named_ofOptionalDoc {module : String} {location : Location}
    {doc : Option Document.DatatypeDoc} {element : Option Datatype}
    (h : ofOptionalDoc module location doc = .ok element) {t : Datatype} (ht : t ∈ element) :
    t.Named := by
  cases doc with
  | none =>
    cases h
    cases ht
  | some doc =>
    obtain ⟨t', ht', rfl⟩ := map_eq_ok.mp h
    cases ht
    exact named_ofDoc doc ht'

/-! ## Flattening -/

theorem mem_of_mem_firstByName {t : Datatype} {seen : List String} {ts : List Datatype}
    (h : t ∈ firstByName seen ts) : t ∈ ts := by
  induction ts generalizing seen with
  | nil => cases h
  | cons t' ts ih =>
    rw [firstByName] at h
    split at h
    · exact List.mem_cons_of_mem _ (ih h)
    · rcases List.mem_cons.mp h with rfl | h
      · exact List.mem_cons_self
      · exact List.mem_cons_of_mem _ (ih h)

/-- Every name is kept that was not seen before. -/
theorem exists_mem_firstByName {t : Datatype} {seen : List String} {ts : List Datatype}
    (ht : t ∈ ts) (hseen : t.name ∉ seen) : ∃ t' ∈ firstByName seen ts, t'.name = t.name := by
  induction ts generalizing seen with
  | nil => cases ht
  | cons t' ts ih =>
    rw [firstByName]
    -- the first with the name is kept; one with a name that was seen is dropped
    by_cases hname : t'.name = t.name
    · rw [if_neg (hname ▸ hseen)]
      exact ⟨t', List.mem_cons_self, hname⟩
    · have ht' : t ∈ ts := (List.mem_cons.mp ht).resolve_left fun he => hname (he ▸ rfl)
      split
      · exact ih ht' hseen
      · have hseen' : t.name ∉ t'.name :: seen := by simpa [Ne.symm hname] using hseen
        obtain ⟨kept, hkept, hsame⟩ := ih ht' hseen'
        exact ⟨kept, List.mem_cons_of_mem _ hkept, hsame⟩

/-- What the name of a datatype inside a named one denotes. -/
theorem Named.classify?_name {t node : Datatype} (ht : t.Named) (hnode : node ∈ t.nodes) :
    TypeKind.classify? node.name = some node.kind := by
  cases node with
  | scalar s n => exact TypeKind.classify?_keyword (.scalar s)
  | object fields n => exact TypeKind.classify?_keyword .object
  | array element n => exact TypeKind.classify?_keyword .array
  | reference ref n => exact ht ref (mentions_iff_mem_nodes.mpr ⟨n, hnode⟩)

/-- Inside named datatypes, the name tells the kind. -/
theorem Named.kind_eq {t t' node node' : Datatype} (ht : t.Named) (ht' : t'.Named)
    (hnode : node ∈ t.nodes) (hnode' : node' ∈ t'.nodes) (hname : node.name = node'.name) :
    node.kind = node'.kind := by
  have hkind := ht.classify?_name hnode
  rw [hname, ht'.classify?_name hnode'] at hkind
  exact (Option.some.inj hkind).symm

theorem reference?_of_kind {t : Datatype} {ref : TypeRef} (h : t.kind = .reference ref) :
    t.reference? = some ref := by
  cases t with
  | reference ref' n =>
    cases h
    rfl
  | scalar s n => cases h
  | object fields n => cases h
  | array element n => cases h

end Datatype

theorem mem_of_mem_flatten {roots : List Datatype} {t : Datatype} (h : t ∈ flatten roots) :
    t ∈ roots.flatMap Datatype.nodes :=
  Datatype.mem_of_mem_firstByName (flatten_eq roots ▸ h)

/-- Every name of a datatype inside the roots is kept. -/
theorem exists_mem_flatten {roots : List Datatype} {t : Datatype}
    (h : t ∈ roots.flatMap Datatype.nodes) : ∃ kept ∈ flatten roots, kept.name = t.name := by
  rw [flatten_eq]
  exact Datatype.exists_mem_firstByName h List.not_mem_nil

/-- **Flattening loses no mention** of named datatypes, since a datatype that it drops has the name
of one that it keeps. -/
theorem mem_references_flatten {roots : List Datatype} (hroots : ∀ t ∈ roots, t.Named)
    {t : Datatype} (ht : t ∈ roots) {ref : TypeRef} (h : t.Mentions ref) :
    ref ∈ references (flatten roots) := by
  obtain ⟨nullable, hnode⟩ := Datatype.mentions_iff_mem_nodes.mp h
  have hmem : .reference ref nullable ∈ roots.flatMap Datatype.nodes :=
    List.mem_flatMap.mpr ⟨t, ht, hnode⟩
  -- The datatype that is kept for the reference has the name of the reference ...
  obtain ⟨kept, hkept, hname⟩ := exists_mem_flatten hmem
  obtain ⟨root, hroot, hin⟩ := List.mem_flatMap.mp (mem_of_mem_flatten hkept)
  -- ... and what a name denotes is fixed by the name, so it is the same reference.
  have hkind := (hroots root hroot).kind_eq (hroots t ht) hin hnode hname
  exact List.mem_filterMap.mpr ⟨kept, hkept, Datatype.reference?_of_kind hkind⟩

end Specloom
