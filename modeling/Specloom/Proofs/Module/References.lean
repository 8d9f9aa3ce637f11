import Mathlib.Data.List.Nodup
import Specloom.Proofs.Datatype.Mentions
import Specloom.Proofs.Module.Loaded
import Specloom.Proofs.Module.TypeNames

/-!
# References of loaded modules

Every reference in a module of a loaded run names exactly one declaration of exactly one module.
The check of references sees each reference once it has survived flattening, commands are resolved
against declarations that are not checked yet, and the names of a module are checked apart from
both; only together do they leave no reference without its declaration and no declaration in doubt.

## Main definitions

* `Module.Mentions`: a reference occurs in a module

## Main results

* `Module.target?_eq_enum_iff`, `Module.target?_eq_struct_iff`: what a declared name stands for
* `Module.exists_owner_of_resolve?`: what stands for something is declared once
* `Loaded.resolve?_isSome`, `Loaded.resolve?_of_command`: every reference of a run stands for
  something
* `existsUnique_declaration`: references of a loaded run
-/

namespace Specloom

open Document

/-- A reference occurs in a module: at any depth of a type, of what an endpoint consumes or
produces or of a field of an event, or as the type of a field of a command. -/
inductive Module.Mentions (m : Module) (ref : TypeRef) : Prop where
  | type {t : NamedType} : t ∈ m.types → t.type.Mentions ref → m.Mentions ref
  | consumes {e : Endpoint} {t : Datatype} :
    e ∈ m.endpoints → e.consumes = some t → t.Mentions ref → m.Mentions ref
  | produces {e : Endpoint} {t : Datatype} :
    e ∈ m.endpoints → e.produces = some t → t.Mentions ref → m.Mentions ref
  | event {e : Event} {f : EventField} :
    e ∈ m.events → f ∈ e.fields → f.type.Mentions ref → m.Mentions ref
  | command {c : Command} {f : CommandField} :
    c ∈ m.commands → f ∈ c.fields → f.type.reference? = some ref → m.Mentions ref

/-! ## What names stand for -/

namespace Module

theorem target?_eq_ite (m : Module) (name : String) : m.target? name =
    if name ∈ m.enums.map (·.name) then some .enum
    else if name ∈ m.types.map (·.name) then some .struct
    else none := by
  have henum : (m.enums.any fun e => e.name == name) = true ↔ name ∈ m.enums.map (·.name) := by
    simp
  have htype : (m.types.any fun t => t.name == name) = true ↔ name ∈ m.types.map (·.name) := by
    simp
  simp only [target?, henum, htype]

theorem target?_eq_enum_iff {m : Module} {name : String} :
    m.target? name = some .enum ↔ name ∈ m.enums.map (·.name) := by
  rw [target?_eq_ite]
  by_cases henum : name ∈ m.enums.map (·.name)
  · rw [if_pos henum]
    exact iff_of_true rfl henum
  · rw [if_neg henum]
    exact iff_of_false (by split <;> nofun) henum

/-- No name is both a type and an enum, so the order of the lookups does not matter. -/
theorem target?_eq_struct_iff {m : Module} (hm : m.declaredNames.Nodup) {name : String} :
    m.target? name = some .struct ↔ name ∈ m.types.map (·.name) := by
  rw [target?_eq_ite]
  by_cases htype : name ∈ m.types.map (·.name)
  · rw [if_neg (List.disjoint_of_nodup_append hm htype), if_pos htype]
    exact iff_of_true rfl htype
  · rw [if_neg htype]
    exact iff_of_false (by split <;> nofun) htype

theorem mem_declaredNames_of_target? {m : Module} {name : String} {target : Target}
    (h : m.target? name = some target) : name ∈ m.declaredNames := by
  rw [target?_eq_ite] at h
  rw [declaredNames, List.mem_append]
  split at h
  · exact Or.inr ‹_›
  · split at h
    · exact Or.inl ‹_›
    · cases h

/-- The only module with the id of a module of a run is that module. -/
theorem filter_id_eq {run : List Module} (hids : (run.map (·.id)).Nodup) {m : Module}
    (hm : m ∈ run) : run.filter (·.id == m.id) = [m] := by
  induction run with
  | nil => cases hm
  | cons m' run ih =>
    rw [List.map_cons, List.nodup_cons] at hids
    rcases List.mem_cons.mp hm with rfl | hm
    · have hrest : run.filter (·.id == m.id) = [] := by
        refine List.filter_eq_nil_iff.mpr fun m' hm' hid => hids.1 ?_
        exact beq_iff_eq.mp hid ▸ List.mem_map_of_mem hm'
      rw [List.filter_cons, if_pos (beq_self_eq_true m.id), hrest]
    · have hne : m'.id ≠ m.id := fun hid => hids.1 (hid ▸ List.mem_map_of_mem hm)
      rw [List.filter_cons_of_neg (by simpa using hne), ih hids.2 hm]

/-- **What stands for something is declared once**: one module has the id, and in it one
declaration has the name. -/
theorem exists_owner_of_resolve? {run : List Module} (hids : (run.map (·.id)).Nodup)
    (hnames : ∀ m ∈ run, m.declaredNames.Nodup) {m : Module} (hm : m ∈ run) {ref : TypeRef}
    {target : Target} (h : m.resolve? run ref = some target) :
    ∃ owner ∈ run, run.filter (·.id == ref.owner.getD m.id) = [owner] ∧
      owner.declaredNames.count ref.name = 1 ∧ owner.target? ref.name = some target := by
  -- The owner is the own module, or the module found by the id of the reference.
  obtain ⟨owner, howner, hid, htarget⟩ : ∃ owner ∈ run, owner.id = ref.owner.getD m.id ∧
      owner.target? ref.name = some target := by
    rw [resolve?] at h
    split at h
    · rename_i hnone
      exact ⟨m, hm, by rw [hnone, Option.getD_none], h⟩
    · rename_i id hsome
      obtain ⟨owner, hfind, htarget⟩ := Option.bind_eq_some_iff.mp h
      refine ⟨owner, List.mem_of_find?_eq_some hfind, ?_, htarget⟩
      rw [hsome, Option.getD_some]
      simpa using List.find?_some hfind
  refine ⟨owner, howner, hid ▸ filter_id_eq hids howner, ?_, htarget⟩
  exact List.count_eq_one_of_mem (hnames owner howner) (mem_declaredNames_of_target? htarget)

theorem checkDatatype_eq_ok {m : Module} {run : List Module} {location : Location} {t : Datatype} :
    m.checkDatatype run location t = .ok () ↔
      ∀ ref ∈ references (flatten [t]), (m.resolve? run ref).isSome := by
  rw [checkDatatype]
  cases h : (references (flatten [t])).find? fun ref => (m.resolve? run ref).isNone with
  | none => simpa [Option.isSome_iff_ne_none] using h
  | some ref =>
    -- the first reference without a target is refused, so not all of them have one
    refine iff_of_false nofun fun hall => ?_
    have hnone := List.find?_some h
    have hsome := hall ref (List.mem_of_find?_eq_some h)
    rw [Option.isNone_iff_eq_none.mp hnone] at hsome
    cases hsome

end Module

/-! ## Declarations are named -/

theorem Endpoint.named_of_ofDoc {module path : String} {doc : EndpointDoc} {e : Endpoint}
    (h : Endpoint.ofDoc module path doc = .ok e) {t : Datatype} (ht : t ∈ e.types) : t.Named := by
  rw [Endpoint.ofDoc] at h
  split at h
  · cases h
  split at h
  · cases h
  simp only [bind_eq_ok, pure_eq_ok] at h
  obtain ⟨consumes, hconsumes, produces, hproduces, rfl⟩ := h
  rcases List.mem_append.mp ht with ht | ht
  · exact Datatype.named_ofOptionalDoc hconsumes (Option.mem_toList.mp ht)
  · exact Datatype.named_ofOptionalDoc hproduces (Option.mem_toList.mp ht)

theorem Event.named_of_ofDoc {module : String} {doc : EventDoc} {e : Event}
    (h : Event.ofDoc module doc = .ok e) {f : EventField} (hf : f ∈ e.fields) : f.type.Named := by
  obtain ⟨fields, hfields, rfl⟩ := map_eq_ok.mp h
  obtain ⟨fieldDoc, -, hfield⟩ := exists_mem_of_mapM hfields hf
  obtain ⟨t, ht, rfl⟩ := map_eq_ok.mp hfield
  exact Datatype.named_ofDoc _ ht

/-- Every datatype of a declared module is named. -/
theorem Documents.named_of_declare {d : Documents} {m : Module} (h : d.declare = .ok m)
    {p : Location × Datatype} (hp : p ∈ m.locatedTypes) : p.2.Named := by
  rw [declare] at h
  simp only [bind_eq_ok, pure_eq_ok] at h
  obtain ⟨types, htypes, endpoints, hendpoints, events, hevents, routes, -, rfl⟩ := h
  simp only [Module.locatedTypes, List.mem_append, List.mem_map, List.mem_flatMap] at hp
  -- a named type, a type of an endpoint, or the type of a field of an event
  rcases hp with (⟨t, ht, rfl⟩ | ⟨e, he, t, ht, rfl⟩) | ⟨e, he, f, hf, rfl⟩
  · obtain ⟨doc, -, hdoc⟩ := exists_mem_of_mapM htypes ht
    obtain ⟨t', ht', rfl⟩ := map_eq_ok.mp hdoc
    exact Datatype.named_ofDoc _ ht'
  · obtain ⟨doc, -, hdoc⟩ := exists_mem_of_mapM hendpoints he
    exact Endpoint.named_of_ofDoc hdoc ht
  · obtain ⟨doc, -, hdoc⟩ := exists_mem_of_mapM hevents he
    exact Event.named_of_ofDoc hdoc hf

/-! ## Fields of commands -/

/-- **A field is lowered to what its reference stands for.** -/
theorem FieldType.ofDoc_of_reference? {m : Module} {run : List Module} {command : String}
    {doc : CommandFieldDoc} {type : FieldType} {ref : TypeRef}
    (h : FieldType.ofDoc m run command doc = .ok type) (href : type.reference? = some ref) :
    (m.resolve? run ref = some .enum ∧ type = .custom (.enum ref)) ∨
      (m.resolve? run ref = some .struct ∧ type = .custom (.struct ref)) :=
  ((isDeclared_of_ofDoc h).1.of_reference? href).2

theorem Command.exists_ofDoc_field {path : String} {m : Module} {run : List Module}
    {doc : CommandDoc} {c : Command} (h : Command.ofDoc path m run doc = .ok c)
    {f : CommandField} (hf : f ∈ c.fields) :
    ∃ fieldDoc, FieldType.ofDoc m run doc.command fieldDoc = .ok f.type := by
  rw [Command.ofDoc] at h
  split at h
  · cases h
  simp only [bind_eq_ok, pure_eq_ok] at h
  obtain ⟨fields, hfields, rfl⟩ := h
  obtain ⟨fieldDoc, -, hfield⟩ := exists_mem_of_mapM hfields hf
  simp only [CommandField.ofDoc, bind_eq_ok, pure_eq_ok] at hfield
  obtain ⟨type, htype, rfl⟩ := hfield
  exact ⟨fieldDoc, htype⟩

/-! ## References of a run -/

namespace Loaded

variable {docs : List Documents} {declared run : List Module}

theorem named_of_mem_locatedTypes (h : Loaded docs declared run) {m : Module} (hm : m ∈ run)
    {p : Location × Datatype} (hp : p ∈ m.locatedTypes) : p.2.Named := by
  obtain ⟨d, -, m₀, -, hdeclare, hcommands⟩ := h.exists_documents hm
  have hsame := (Documents.addCommands_eq_ok hcommands).1
  rw [hsame] at hp
  exact Documents.named_of_declare hdeclare hp

theorem wellNamed (h : Loaded docs declared run) {m : Module} (hm : m ∈ run) : m.WellNamed :=
  (Module.check_eq_ok.mp (h.check m hm)).1

/-- **A reference of a datatype stands for something.** -/
theorem resolve?_isSome (h : Loaded docs declared run) {m : Module} (hm : m ∈ run)
    {p : Location × Datatype} (hp : p ∈ m.locatedTypes) {ref : TypeRef} (href : p.2.Mentions ref) :
    (m.resolve? run ref).isSome := by
  have hcheck := (Module.check_eq_ok.mp (h.check m hm)).2.1 p hp
  refine Module.checkDatatype_eq_ok.mp hcheck ref ?_
  have hnamed : ∀ t ∈ [p.2], t.Named := by
    intro t ht
    cases List.mem_singleton.mp ht
    exact h.named_of_mem_locatedTypes hm hp
  exact mem_references_flatten hnamed (List.mem_singleton_self _) href

/-- **A field of a command is lowered to what its reference stands for** in the finished run, though
it was resolved against the declarations. -/
theorem resolve?_of_command (h : Loaded docs declared run) {m : Module} (hm : m ∈ run)
    {c : Command} (hc : c ∈ m.commands) {f : CommandField} (hf : f ∈ c.fields) {ref : TypeRef}
    (href : f.type.reference? = some ref) :
    (m.resolve? run ref = some .enum ∧ f.type = .custom (.enum ref)) ∨
      (m.resolve? run ref = some .struct ∧ f.type = .custom (.struct ref)) := by
  obtain ⟨d, -, m₀, -, hdeclare, hcommands⟩ := h.exists_documents hm
  obtain ⟨hsame, horigin⟩ := Documents.addCommands_eq_ok hcommands
  rw [← h.resolve?_eq hsame]
  -- the command is one of the document, since declaring adds none
  rcases horigin c hc with hold | ⟨path, doc, hdoc⟩
  · rw [Documents.commands_of_declare hdeclare] at hold
    cases hold
  · obtain ⟨fieldDoc, hfield⟩ := Command.exists_ofDoc_field hdoc hf
    exact FieldType.ofDoc_of_reference? hfield href

/-- Every reference in a module of the run stands for something. -/
theorem exists_resolve?_of_mentions (h : Loaded docs declared run) {m : Module} (hm : m ∈ run)
    {ref : TypeRef} (href : m.Mentions ref) : ∃ target, m.resolve? run ref = some target := by
  have hlocated : ∀ p ∈ m.locatedTypes, p.2.Mentions ref →
      ∃ target, m.resolve? run ref = some target :=
    fun p hp href => Option.isSome_iff_exists.mp (h.resolve?_isSome hm hp href)
  simp only [Module.locatedTypes, List.mem_append, List.mem_map, List.mem_flatMap] at hlocated
  -- one case for each place of a mention: the checks cover the datatypes, lowering the commands
  cases href with
  | type ht href => exact hlocated _ (Or.inl (Or.inl ⟨_, ht, rfl⟩)) href
  | consumes he hconsumes href =>
    refine hlocated _ (Or.inl (Or.inr ⟨_, he, _, ?_, rfl⟩)) href
    exact List.mem_append_left _ (Option.mem_toList.mpr hconsumes)
  | produces he hproduces href =>
    refine hlocated _ (Or.inl (Or.inr ⟨_, he, _, ?_, rfl⟩)) href
    exact List.mem_append_right _ (Option.mem_toList.mpr hproduces)
  | event he hf href => exact hlocated _ (Or.inr ⟨_, he, _, hf, rfl⟩) href
  | command hc hf href =>
    rcases h.resolve?_of_command hm hc hf href with ⟨htarget, -⟩ | ⟨htarget, -⟩
    · exact ⟨_, htarget⟩
    · exact ⟨_, htarget⟩

end Loaded

/-- **Every reference of a loaded run names exactly one declaration**: one module of the run has the
id, the own module if there is none, and one type or enum of that module has the name. A field of a
command with the reference is an enum exactly if the declaration is one, and a struct exactly if the
declaration is a type. -/
theorem existsUnique_declaration {source : Source} {configs : List ModuleConfig}
    {run : List Module} (h : load source configs = .ok run) {m : Module} (hm : m ∈ run)
    {ref : TypeRef} (href : m.Mentions ref) :
    ∃ owner, run.filter (·.id == ref.owner.getD m.id) = [owner] ∧
      owner.declaredNames.count ref.name = 1 ∧
        ∀ c ∈ m.commands, ∀ f ∈ c.fields, f.type.reference? = some ref →
          (f.type = .custom (.enum ref) ↔ ref.name ∈ owner.enums.map (·.name)) ∧
            (f.type = .custom (.struct ref) ↔ ref.name ∈ owner.types.map (·.name)) := by
  obtain ⟨docs, declared, -, hloaded⟩ := load_eq_ok.mp h
  obtain ⟨target, htarget⟩ := hloaded.exists_resolve?_of_mentions hm href
  obtain ⟨owner, howner, hmodule, hname, hkind⟩ := Module.exists_owner_of_resolve?
    hloaded.nodup_ids (fun m hm => (hloaded.wellNamed hm).declared) hm htarget
  refine ⟨owner, hmodule, hname, fun c hc f hf href => ?_⟩
  rw [← Module.target?_eq_enum_iff,
    ← Module.target?_eq_struct_iff (hloaded.wellNamed howner).declared, hkind]
  -- the field was lowered to what its reference stands for, which is the kind of the declaration
  rcases hloaded.resolve?_of_command hm hc hf href with ⟨hresolve, htype⟩ | ⟨hresolve, htype⟩
  · rw [htarget] at hresolve
    simp [htype, hresolve]
  · rw [htarget] at hresolve
    simp [htype, hresolve]

/-- A command of one module with a field of an enum of another. -/
theorem existsUnique_declaration_enum :
    ∃ run m, load
        (fun path => .ok (if path = "commands"
          then "[[\"x\",\"\",\"create\",\"\",\"\",[]," ++
            "[[\"f\",\"\",\"b.E\",\"\",\"\",null,false,false,\"\",\"\"]],[]]]"
          else "[[],[[\"E\",[]]],[],[]]"))
        [⟨"a", none, none, some "commands", none⟩, ⟨"b", some "types", none, none, none⟩] =
          .ok run ∧
      m ∈ run ∧ m.Mentions ⟨some "b", "E"⟩ ∧
      ∃ owner, run.filter (·.id == "b") = [owner] ∧ owner.declaredNames.count "E" = 1 ∧
        ∀ c ∈ m.commands, ∀ f ∈ c.fields, f.type.reference? = some ⟨some "b", "E"⟩ →
          (f.type = .custom (.enum ⟨some "b", "E"⟩) ↔ "E" ∈ owner.enums.map (·.name)) ∧
            (f.type = .custom (.struct ⟨some "b", "E"⟩) ↔ "E" ∈ owner.types.map (·.name)) := by
  generalize hload : load _ _ = loaded
  have hfield : (loaded.toOption.any fun run => run.any fun m => m.commands.any fun c =>
      c.fields.any fun f => f.type.reference? = some ⟨some "b", "E"⟩) = true := by
    rw [← hload]
    decide +kernel
  cases loaded with
  | error e => cases hfield
  | ok run =>
    obtain ⟨m, hm, hmentions⟩ := List.any_eq_true.mp hfield
    obtain ⟨c, hc, hfields⟩ := List.any_eq_true.mp hmentions
    obtain ⟨f, hf, href⟩ := List.any_eq_true.mp hfields
    have hmention : m.Mentions ⟨some "b", "E"⟩ := .command hc hf (by simpa using href)
    exact ⟨run, m, rfl, hm, hmention, existsUnique_declaration hload hm hmention⟩

end Specloom
