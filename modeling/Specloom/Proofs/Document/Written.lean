import Specloom.Module.Load
import Specloom.Proofs.Datatype.Within
import Specloom.Proofs.Document.Datatype
import Specloom.Proofs.Json.Record
import Specloom.Proofs.Module.Loaded

/-!
# Datatypes of loaded modules are written

A datatype of a loaded module is described in one of its documents, and each document has been
decoded. So the datatype was written as a JSON value, where the keys of an object are distinct.

## Main definitions

* `Documents.datatypes`: the datatypes that are written in the documents of a module

## Main results

* `Documents.isDecoded_of_read`: each of them has been decoded
* `Documents.exists_ofDoc_of_declare`: a datatype of a module is described by one of them
* `nodup_keys_of_load`: the keys of each object in a loaded module are distinct
-/

namespace Specloom

open Document Json

/-! ## Documents -/

namespace Document

/-- The datatypes that are written in an endpoint. -/
def EndpointDoc.datatypes (doc : EndpointDoc) : List DatatypeDoc :=
  doc.consumes.toList ++ doc.produces.toList

/-- The datatypes that are written in a types document. -/
def TypesDoc.datatypes (doc : TypesDoc) : List DatatypeDoc :=
  doc.types.map (·.type) ++ doc.endpoints.flatMap EndpointDoc.datatypes

/-- The datatypes that are written in an event. -/
def EventDoc.datatypes (doc : EventDoc) : List DatatypeDoc :=
  doc.fields.map (·.type)

/-- The datatypes that are written in an events document. -/
def EventsDoc.datatypes (doc : EventsDoc) : List DatatypeDoc :=
  doc.events.flatMap EventDoc.datatypes

/-- A datatype has been decoded. -/
def DatatypeDoc.IsDecoded (doc : DatatypeDoc) : Prop :=
  ∃ node, DatatypeDoc.decode node = .ok doc

theorem NamedTypeDoc.isDecoded_type {node : Node} {doc : NamedTypeDoc}
    (h : record.decode node = .ok doc) : doc.type.IsDecoded := by
  obtain ⟨⟨name, type, _⟩, ⟨-, htype, -⟩, rfl⟩ := Record.exists_admits_of_decode h
  exact htype.resolve_right nofun

/-- A datatype that may be missing in a record has been decoded if it is there. -/
theorem isDecoded_of_admits {name : String} {value : Option DatatypeDoc} {doc : DatatypeDoc}
    (h : (Field.default name (.option DatatypeDoc.decode) none).Admits value)
    (hdoc : doc ∈ value) : doc.IsDecoded := by
  rcases h with ⟨node, hnode⟩ | habsent
  · cases hdoc
    exact ⟨node, Decoder.of_option hnode⟩
  · cases habsent
    cases hdoc

theorem EndpointDoc.isDecoded {node : Node} {doc : EndpointDoc}
    (h : record.decode node = .ok doc) {t : DatatypeDoc} (ht : t ∈ doc.datatypes) :
    t.IsDecoded := by
  obtain ⟨⟨name, method, path, chain, consumes, produces, description, _⟩,
    ⟨-, -, -, -, hconsumes, hproduces, -, -⟩, rfl⟩ := Record.exists_admits_of_decode h
  rcases List.mem_append.mp ht with ht | ht
  · exact isDecoded_of_admits hconsumes (Option.mem_toList.mp ht)
  · exact isDecoded_of_admits hproduces (Option.mem_toList.mp ht)

/-- The values of a list in a record that may be missing have been decoded. -/
theorem exists_decode_of_admits {α : Type} {name : String} {decode : Decoder α} {values : List α}
    (h : (Field.default name (.list decode) []).Admits values) {value : α}
    (hvalue : value ∈ values) : ∃ node, decode node = .ok value := by
  rcases h with ⟨node, hnode⟩ | habsent
  · exact Decoder.exists_of_mem_list hnode hvalue
  · cases habsent
    cases hvalue

theorem TypesDoc.isDecoded {node : Node} {doc : TypesDoc} (h : record.decode node = .ok doc)
    {t : DatatypeDoc} (ht : t ∈ doc.datatypes) : t.IsDecoded := by
  obtain ⟨⟨types, enums, consts, endpoints, _⟩, ⟨htypes, -, -, hendpoints, -⟩, rfl⟩ :=
    Record.exists_admits_of_decode h
  rcases List.mem_append.mp ht with ht | ht
  · obtain ⟨type, htype, rfl⟩ := List.mem_map.mp ht
    obtain ⟨node, hnode⟩ := exists_decode_of_admits htypes htype
    exact NamedTypeDoc.isDecoded_type hnode
  · obtain ⟨endpoint, hendpoint, ht⟩ := List.mem_flatMap.mp ht
    obtain ⟨node, hnode⟩ := exists_decode_of_admits hendpoints hendpoint
    exact EndpointDoc.isDecoded hnode ht

theorem EventFieldDoc.isDecoded_type {node : Node} {doc : EventFieldDoc}
    (h : record.decode node = .ok doc) : doc.type.IsDecoded := by
  obtain ⟨⟨key, type, notes, _⟩, ⟨-, htype, -, -⟩, rfl⟩ := Record.exists_admits_of_decode h
  exact htype.resolve_right nofun

theorem EventDoc.isDecoded {node : Node} {doc : EventDoc} (h : record.decode node = .ok doc)
    {t : DatatypeDoc} (ht : t ∈ doc.datatypes) : t.IsDecoded := by
  obtain ⟨⟨event, changelog, fields, _⟩, ⟨-, -, hfields, -⟩, rfl⟩ :=
    Record.exists_admits_of_decode h
  obtain ⟨field, hfield, rfl⟩ := List.mem_map.mp ht
  obtain ⟨node, hnode⟩ := exists_decode_of_admits hfields hfield
  exact EventFieldDoc.isDecoded_type hnode

theorem EventsDoc.isDecoded {node : Node} {doc : EventsDoc} (h : record.decode node = .ok doc)
    {t : DatatypeDoc} (ht : t ∈ doc.datatypes) : t.IsDecoded := by
  obtain ⟨⟨events, _⟩, ⟨hevents, -⟩, rfl⟩ := Record.exists_admits_of_decode h
  obtain ⟨event, hevent, ht⟩ := List.mem_flatMap.mp ht
  obtain ⟨node, hnode⟩ := exists_decode_of_admits hevents hevent
  exact EventDoc.isDecoded hnode ht

end Document

/-! ## The documents of a module -/

/-- A document that is read has been decoded. -/
theorem exists_decode_of_readOptional {α : Type} {source : Source} {module : String}
    {decode : Decoder α} {path : Option String} {sourced : Option (Sourced α)}
    (h : readOptional source module decode path = .ok sourced) :
    ∀ s ∈ sourced, ∃ node, decode node = .ok s.doc := by
  cases path with
  | none =>
    cases h
    exact nofun
  | some path =>
    obtain ⟨doc, hdoc, rfl⟩ := map_eq_ok.mp h
    rintro _ ⟨⟩
    unfold readDocument at hdoc
    split at hdoc
    · cases hdoc
    · split at hdoc
      · cases hdoc
        exact exists_of_decodeText ‹_›
      · cases hdoc

namespace Documents

variable {d : Documents} {m : Module}

/-- The datatypes that are written in the documents of a module. -/
def datatypes (d : Documents) : List DatatypeDoc :=
  (d.types.toList.flatMap fun s => s.doc.datatypes) ++
    d.events.toList.flatMap fun s => s.doc.datatypes

/-- **What is written in documents that are read has been decoded.** -/
theorem isDecoded_of_read {source : Source} {config : ModuleConfig}
    (h : read source config = .ok d) {t : DatatypeDoc} (ht : t ∈ d.datatypes) : t.IsDecoded := by
  simp only [read, bind_eq_ok, pure_eq_ok] at h
  obtain ⟨types, htypes, events, hevents, _, -, _, -, rfl⟩ := h
  rcases List.mem_append.mp ht with ht | ht
  · obtain ⟨s, hs, ht⟩ := List.mem_flatMap.mp ht
    obtain ⟨node, hnode⟩ := exists_decode_of_readOptional htypes s (Option.mem_toList.mp hs)
    exact TypesDoc.isDecoded hnode ht
  · obtain ⟨s, hs, ht⟩ := List.mem_flatMap.mp ht
    obtain ⟨node, hnode⟩ := exists_decode_of_readOptional hevents s (Option.mem_toList.mp hs)
    exact EventsDoc.isDecoded hnode ht

end Documents

/-- What an optional document describes comes from the document. -/
theorem Datatype.exists_ofDoc_of_ofOptionalDoc {module : String} {location : Location}
    {doc : Option DatatypeDoc} {described : Option Datatype}
    (h : ofOptionalDoc module location doc = .ok described) {t : Datatype} (ht : t ∈ described) :
    ∃ doc' ∈ doc, ofDoc module location doc' = .ok t := by
  cases doc with
  | none =>
    cases h
    cases ht
  | some doc =>
    obtain ⟨t', ht', rfl⟩ := map_eq_ok.mp h
    cases ht
    exact ⟨doc, rfl, ht'⟩

theorem Endpoint.exists_ofDoc {module path : String} {doc : EndpointDoc} {e : Endpoint}
    (h : Endpoint.ofDoc module path doc = .ok e) {t : Datatype} (ht : t ∈ e.types) :
    ∃ doc' ∈ doc.datatypes, ∃ location, Datatype.ofDoc module location doc' = .ok t := by
  rw [Endpoint.ofDoc] at h
  split at h
  · cases h
  split at h
  · cases h
  simp only [bind_eq_ok, pure_eq_ok] at h
  obtain ⟨consumes, hconsumes, produces, hproduces, rfl⟩ := h
  rcases List.mem_append.mp ht with ht | ht
  · obtain ⟨doc', hdoc, ht⟩ :=
      Datatype.exists_ofDoc_of_ofOptionalDoc hconsumes (Option.mem_toList.mp ht)
    exact ⟨doc', List.mem_append_left _ (Option.mem_toList.mpr hdoc), _, ht⟩
  · obtain ⟨doc', hdoc, ht⟩ :=
      Datatype.exists_ofDoc_of_ofOptionalDoc hproduces (Option.mem_toList.mp ht)
    exact ⟨doc', List.mem_append_right _ (Option.mem_toList.mpr hdoc), _, ht⟩

theorem Event.exists_ofDoc {module : String} {doc : EventDoc} {e : Event}
    (h : Event.ofDoc module doc = .ok e) {f : EventField} (hf : f ∈ e.fields) :
    ∃ doc' ∈ doc.datatypes, ∃ location, Datatype.ofDoc module location doc' = .ok f.type := by
  obtain ⟨fields, hfields, rfl⟩ := map_eq_ok.mp h
  obtain ⟨fieldDoc, hmem, hfield⟩ := exists_mem_of_mapM hfields hf
  obtain ⟨t, ht, rfl⟩ := map_eq_ok.mp hfield
  exact ⟨fieldDoc.type, List.mem_map_of_mem hmem, _, ht⟩

/-- What is in a document, or else in an empty one, is in the document. -/
theorem mem_flatMap_of_getD {α β : Type} {f : α → List β} {empty : α} (hempty : f empty = [])
    {sourced : Option (Sourced α)} {x : β} (hx : x ∈ f ((sourced.map (·.doc)).getD empty)) :
    x ∈ sourced.toList.flatMap fun s => f s.doc := by
  cases sourced with
  | none =>
    rw [Option.map_none, Option.getD_none, hempty] at hx
    cases hx
  | some s => simpa using hx

/-- **A datatype of a module is described in its documents.** -/
theorem Documents.exists_ofDoc_of_declare {d : Documents} {m : Module} (h : d.declare = .ok m)
    {p : Location × Datatype} (hp : p ∈ m.locatedTypes) :
    ∃ doc ∈ d.datatypes, ∃ location, Datatype.ofDoc d.id location doc = .ok p.2 := by
  rw [declare] at h
  simp only [bind_eq_ok, pure_eq_ok] at h
  obtain ⟨types, htypes, endpoints, hendpoints, events, hevents, routes, -, rfl⟩ := h
  simp only [Module.locatedTypes, List.mem_append, List.mem_map, List.mem_flatMap] at hp
  have htypesDoc {doc : DatatypeDoc}
      (hdoc : doc ∈ ((d.types.map Sourced.doc).getD ⟨[], [], [], []⟩).datatypes) :
      doc ∈ d.datatypes :=
    List.mem_append_left _ (mem_flatMap_of_getD rfl hdoc)
  have heventsDoc {doc : DatatypeDoc}
      (hdoc : doc ∈ ((d.events.map Sourced.doc).getD ⟨[]⟩).datatypes) : doc ∈ d.datatypes :=
    List.mem_append_right _ (mem_flatMap_of_getD rfl hdoc)
  -- a named type, a type of an endpoint, or the type of a field of an event
  rcases hp with (⟨t, ht, rfl⟩ | ⟨e, he, t, ht, rfl⟩) | ⟨e, he, f, hf, rfl⟩
  · obtain ⟨doc, hmem, hdoc⟩ := exists_mem_of_mapM htypes ht
    obtain ⟨t', ht', rfl⟩ := map_eq_ok.mp hdoc
    exact ⟨doc.type, htypesDoc (List.mem_append_left _ (List.mem_map_of_mem hmem)), _, ht'⟩
  · obtain ⟨doc, hmem, hdoc⟩ := exists_mem_of_mapM hendpoints he
    obtain ⟨doc', hdoc', hlocation⟩ := Endpoint.exists_ofDoc hdoc ht
    refine ⟨doc', htypesDoc (List.mem_append_right _ ?_), hlocation⟩
    exact List.mem_flatMap.mpr ⟨doc, hmem, hdoc'⟩
  · obtain ⟨doc, hmem, hdoc⟩ := exists_mem_of_mapM hevents he
    obtain ⟨doc', hdoc', hlocation⟩ := Event.exists_ofDoc hdoc hf
    exact ⟨doc', heventsDoc (List.mem_flatMap.mpr ⟨doc, hmem, hdoc'⟩), hlocation⟩

/-! ## Loaded modules -/

/-- **The keys of each object in a loaded module are distinct.** -/
theorem nodup_keys_of_load {source : Source} {configs : List ModuleConfig} {run : List Module}
    (h : load source configs = .ok run) {m : Module} (hm : m ∈ run) {p : Location × Datatype}
    (hp : p ∈ m.locatedTypes) {t : Datatype} (ht : t.Within p.2) :
    (t.fields.map (·.1)).Nodup := by
  obtain ⟨docs, declared, hdocs, hloaded⟩ := load_eq_ok.mp h
  obtain ⟨d, hd, m₀, -, hdeclare, hcommands⟩ := hloaded.exists_documents hm
  obtain ⟨config, -, hread⟩ := exists_mem_of_mapM hdocs hd
  -- commands are added to the module that the documents declare
  rw [(Documents.addCommands_eq_ok hcommands).1] at hp
  obtain ⟨doc, hdoc, location, hlocation⟩ := Documents.exists_ofDoc_of_declare hdeclare hp
  obtain ⟨node, hnode⟩ := Documents.isDecoded_of_read hread hdoc
  obtain ⟨-, hwrites⟩ := DatatypeDoc.decode_eq_ok_iff.mp hnode
  exact hwrites.nodup_nodes (Datatype.ofDoc_eq_ok_iff.mp hlocation) (Datatype.mem_nodes_iff.mpr ht)

end Specloom
