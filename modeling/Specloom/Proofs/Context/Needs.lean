import Mathlib.Data.List.Sort
import Specloom.Proofs.Context.Imports
import Specloom.Proofs.Datatype.Within

/-!
# What the datatypes of a section need

The datatypes of a section are its roots: the named types, the fields of events, or what endpoints
consume and produce. What the files of the section import is found in the flattened roots. In a
loaded run nothing is lost by flattening: the needs are those of all datatypes inside the roots.

## Main definitions

* `Section`: the sections of a context that show datatypes
* `Module.roots`, `Context.needs`: the datatypes of a section, and what they need
* `Module.ShowsKind`: a kind of datatype occurs in a section

## Main results

* `ImportNeeds.ofTypes_congr`: needs depend on the kinds of datatypes only
* `Loaded.needs_eq`: the needs of a section are those of all datatypes in it
* `Loaded.exists_mem_imports_iff`: the modules that a section imports
-/

namespace Specloom

/-- The sections of a context that show datatypes. -/
inductive Section where
  | types | events | endpoints
deriving DecidableEq, Repr

/-- The list of imports of a section. -/
def Section.list : Section → ImportList
  | .types => .types
  | .events => .events
  | .endpoints => .endpoints

/-- The datatypes that a section shows, without those inside them. -/
def Module.roots (m : Module) : Section → List Datatype
  | .types => m.types.map (·.type)
  | .events => m.events.flatMap fun e => e.fields.map (·.type)
  | .endpoints => m.endpoints.flatMap Endpoint.types

/-- What the files of a section have to import. -/
def Context.needs (c : Context) : Section → ImportNeeds
  | .types => c.types.imports
  | .events => c.events.imports
  | .endpoints => c.endpoints.imports

/-- A kind of datatype occurs in a section, at any depth. -/
def Module.ShowsKind (m : Module) (s : Section) (kind : TypeKind) : Prop :=
  ∃ t ∈ m.roots s, ∃ node : Datatype, node.Within t ∧ node.kind = kind

/-! ## Needs of datatypes -/

theorem pairwise_sortedTexts (texts : List String) : (sortedTexts texts).Pairwise (· ≤ ·) := by
  have htrans (a b c : String) :
      decide (a ≤ b) = true → decide (b ≤ c) = true → decide (a ≤ c) = true := by
    simpa using String.le_trans
  have htotal (a b : String) : (decide (a ≤ b) || decide (b ≤ a)) = true := by
    simpa using String.le_total a b
  simpa [sortedTexts] using List.pairwise_mergeSort htrans htotal texts.eraseDups

/-- Texts without repetitions are sorted in one way only. -/
theorem sortedTexts_congr {texts texts' : List String} (h : ∀ s, s ∈ texts ↔ s ∈ texts') :
    sortedTexts texts = sortedTexts texts' := by
  have hperm : (sortedTexts texts).Perm (sortedTexts texts') := by
    rw [List.perm_ext_iff_of_nodup (nodup_sortedTexts _) (nodup_sortedTexts _)]
    simpa only [mem_sortedTexts] using h
  exact hperm.eq_of_pairwise (fun _ _ _ _ => String.le_antisymm) (pairwise_sortedTexts _)
    (pairwise_sortedTexts _)

theorem mem_references_iff {ref : TypeRef} {types : List Datatype} :
    ref ∈ references types ↔ ∃ t ∈ types, t.kind = .reference ref := by
  rw [references, List.mem_filterMap]
  refine exists_congr fun t => and_congr_right fun _ => ?_
  cases t <;> simp [Datatype.reference?, Datatype.kind]

/-- Needs depend on the kinds of datatypes only, not on their order or number. -/
theorem ImportNeeds.ofTypes_congr {types types' : List Datatype}
    (h : ∀ kind, (∃ t ∈ types, t.kind = kind) ↔ ∃ t ∈ types', t.kind = kind) :
    ofTypes types = ofTypes types' := by
  have hscalar (s : Scalar) : usesScalar s types = usesScalar s types' := by
    rw [Bool.eq_iff_iff]
    simpa [usesScalar] using h (.primitive (.scalar s))
  have href (ref : TypeRef) : ref ∈ references types ↔ ref ∈ references types' := by
    rw [mem_references_iff, mem_references_iff]
    exact h (.reference ref)
  have hmodules : sortedTexts ((references types).filterMap (·.owner)) =
      sortedTexts ((references types').filterMap (·.owner)) :=
    sortedTexts_congr fun id => by simp only [List.mem_filterMap, href]
  have hlocal : sortedTexts (((references types).filter (·.owner.isNone)).map (·.name)) =
      sortedTexts (((references types').filter (·.owner.isNone)).map (·.name)) :=
    sortedTexts_congr fun name => by simp only [List.mem_map, List.mem_filter, href]
  rw [ofTypes, ofTypes, hscalar, hscalar, hscalar, hmodules, hlocal]

theorem usesScalar_iff {s : Scalar} {types : List Datatype} :
    usesScalar s types = true ↔ ∃ t ∈ types, t.kind = .primitive (.scalar s) := by
  simp [usesScalar]

/-! ## Sections -/

/-- The needs of a section, as they are computed. -/
theorem Module.needs_of_context {m : Module} {run : List Module} {config : Config}
    {context : Context} (h : m.context run config = .ok context) (s : Section) :
    context.needs s = .ofTypes (flatten (m.roots s)) := by
  simp only [Module.context, Module.commandsSection, bind_eq_ok, pure_eq_ok] at h
  obtain ⟨_, ⟨_, -, rfl⟩, rfl⟩ := h
  cases s <;> rfl

theorem Module.showsKind_iff {m : Module} {s : Section} {kind : TypeKind} :
    m.ShowsKind s kind ↔ ∃ t ∈ (m.roots s).flatMap Datatype.nodes, t.kind = kind := by
  constructor
  · rintro ⟨t, ht, node, hnode, hkind⟩
    exact ⟨node, Datatype.mem_flatMap_nodes_iff.mpr ⟨t, ht, hnode⟩, hkind⟩
  · rintro ⟨node, hmem, hkind⟩
    obtain ⟨t, ht, hnode⟩ := Datatype.mem_flatMap_nodes_iff.mp hmem
    exact ⟨t, ht, node, hnode, hkind⟩

namespace Loaded

variable {docs : List Documents} {declared run : List Module} {m : Module} {config : Config}
  {context : Context}

theorem named_of_mem_roots (h : Loaded docs declared run) (hm : m ∈ run) {s : Section}
    {t : Datatype} (ht : t ∈ m.roots s) : t.Named := by
  have hlocated : ∃ location, (location, t) ∈ m.locatedTypes := by
    simp only [Module.locatedTypes, List.mem_append, List.mem_map, List.mem_flatMap]
    cases s with
    | types =>
      obtain ⟨type, htype, rfl⟩ := List.mem_map.mp ht
      exact ⟨_, Or.inl (Or.inl ⟨type, htype, rfl⟩)⟩
    | events =>
      obtain ⟨e, he, hfield⟩ := List.mem_flatMap.mp ht
      obtain ⟨f, hf, rfl⟩ := List.mem_map.mp hfield
      exact ⟨_, Or.inr ⟨e, he, f, hf, rfl⟩⟩
    | endpoints =>
      obtain ⟨e, he, ht⟩ := List.mem_flatMap.mp ht
      exact ⟨_, Or.inl (Or.inr ⟨e, he, t, ht, rfl⟩)⟩
  obtain ⟨location, hp⟩ := hlocated
  exact h.named_of_mem_locatedTypes hm hp

/-- **The needs of a section are those of all datatypes inside its roots.** -/
theorem needs_eq (h : Loaded docs declared run) (hm : m ∈ run)
    (hcontext : m.context run config = .ok context) (s : Section) :
    context.needs s = .ofTypes ((m.roots s).flatMap Datatype.nodes) := by
  rw [Module.needs_of_context hcontext]
  exact ImportNeeds.ofTypes_congr fun kind =>
    exists_mem_flatten_iff fun t ht => h.named_of_mem_roots hm ht

/-- **The modules that a section imports are those that references in it name.** -/
theorem exists_mem_imports_iff (h : Loaded docs declared run) (hm : m ∈ run)
    (hcontext : m.context run config = .ok context) (s : Section) {id : String} :
    (∃ i ∈ context.imports s.list, i.id = id) ↔
      ∃ ref, m.ShowsKind s (.reference ref) ∧ ref.owner = some id := by
  have hids : (context.imports s.list).map (·.id) = m.importIds s.list := by
    -- no id is passed over
    rw [Module.imports_of_context hcontext, map_id_moduleImports]
    exact fun id hid => h.isSome_of_mem_importIds hm hid
  have hneeds : m.importIds s.list = (context.needs s).modules := by
    rw [Module.needs_of_context hcontext]
    cases s <;> rfl
  rw [← List.mem_map, hids, hneeds, h.needs_eq hm hcontext]
  simp only [ImportNeeds.ofTypes, mem_sortedTexts, List.mem_filterMap, mem_references_iff,
    Module.showsKind_iff]

theorem exists_owner_of_mem_imports (hcontext : m.context run config = .ok context)
    {list : ImportList} {i : ModuleImport} (hi : i ∈ context.imports list) :
    ∃ owner ∈ run, i = owner.import config := by
  rw [Module.imports_of_context hcontext] at hi
  obtain ⟨id, -, hi⟩ := List.mem_filterMap.mp hi
  obtain ⟨owner, howner, rfl⟩ := Option.map_eq_some_iff.mp hi
  exact ⟨owner, List.mem_of_find?_eq_some howner, rfl⟩

end Loaded

end Specloom
