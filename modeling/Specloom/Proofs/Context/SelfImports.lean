import Specloom.Proofs.Module.Extension
import Specloom.Proofs.Output.Imports

/-!
# Modules that import themselves

A reference to a declaration of the own module can be written in two ways, with the id of the module
and without it. Both stand for the same, but only the second one is local: an owner that is written
is looked up among all modules of the run, and the own module is one of them. So a module imports
itself exactly where a reference is written with its own id, and every other import is of another
module.

## Main definitions

* `Module.ImportsSelf`: where a module imports itself, and what it imports else

## Main results

* `Loaded.resolve?_own`: the two ways to write a reference
* `exists_self_import`: a Go package that imports itself
* `importsSelf_of_load`: the imports of a loaded module
-/

namespace Specloom

/-! ## The own module in a run -/

namespace Loaded

variable {docs : List Documents} {declared run : List Module} {m : Module}

/-- **The own id changes nothing**: a reference with it stands for what it stands for without. -/
theorem resolve?_own (h : Loaded docs declared run) (hm : m ∈ run) (name : String) :
    m.resolve? run ⟨some m.id, name⟩ = m.resolve? run ⟨none, name⟩ := by
  show (run.find? (·.id == m.id)).bind (·.target? name) = m.target? name
  rw [(find?_id_eq_some_iff h.nodup_ids).mpr ⟨hm, rfl⟩, Option.bind_some]

/-- A module has one entry at most in a list of imports. -/
theorem mem_imports_iff_exists (h : Loaded docs declared run) {config : Config} {context : Context}
    (hcontext : m.context run config = .ok context) {list : ImportList} {owner : Module}
    (howner : owner ∈ run) : owner.import config ∈ context.imports list ↔
      ∃ i ∈ context.imports list, i.id = owner.id := by
  constructor
  · exact fun hi => ⟨_, hi, rfl⟩
  · rintro ⟨i, hi, hid⟩
    obtain ⟨other, hother, rfl⟩ := exists_owner_of_mem_imports hcontext hi
    rwa [List.inj_on_of_nodup_map h.nodup_ids hother howner hid] at hi

end Loaded

/-! ## Imports -/

/-- Where a module imports itself, and what it imports else. -/
structure Module.ImportsSelf (m : Module) (run : List Module) (config : Config)
    (context : Context) : Prop where
  /-- A reference with the own id stands for the same without it. -/
  own : ∀ name, m.resolve? run ⟨some m.id, name⟩ = m.resolve? run ⟨none, name⟩
  /-- A module imports itself exactly if a reference is written with its own id. -/
  self : ∀ list, m.import config ∈ context.imports list ↔
    ∃ ref, m.Shows ref list ∧ ref.owner = some m.id
  /-- Every other import is of another module. -/
  other : ∀ list, ∀ i ∈ context.imports list, i = m.import config ∨
    ∃ owner ∈ run, owner.id ≠ m.id ∧ i = owner.import config
  /-- The same in each file that shows datatypes. -/
  files : ∀ f : DatatypeFile, .module (m.import config) ∈ f.imports context ↔
    ∃ ref, m.Shows ref f.shows.list ∧ ref.owner = some m.id

/-- **Which modules of a loaded run import themselves**: those with a reference that is written with
the id of its own module, in the files for which it is. -/
theorem importsSelf_of_load {source : Source} {configs : List ModuleConfig} {run : List Module}
    (h : load source configs = .ok run) {m : Module} (hm : m ∈ run) (config : Config) :
    ∃ context, m.context run config = .ok context ∧ m.ImportsSelf run config context := by
  obtain ⟨docs, declared, -, hloaded⟩ := load_eq_ok.mp h
  obtain ⟨context, hcontext⟩ :=
    m.exists_context (Module.check_eq_ok.mp (hloaded.check m hm)).2.2 run config
  have hself (list : ImportList) : m.import config ∈ context.imports list ↔
      ∃ ref, m.Shows ref list ∧ ref.owner = some m.id := by
    have hids : (context.imports list).map (·.id) = m.importIds list := by
      rw [Module.imports_of_context hcontext,
        map_id_moduleImports fun id hid => hloaded.isSome_of_mem_importIds hm hid]
    rw [hloaded.mem_imports_iff_exists hcontext hm, ← List.mem_map, hids]
    exact Module.mem_importIds_iff fun p hp => hloaded.named_of_mem_locatedTypes hm hp
  refine ⟨context, hcontext, hloaded.resolve?_own hm, hself, fun list i hi => ?_, fun f => ?_⟩
  · obtain ⟨owner, howner, rfl⟩ := Loaded.exists_owner_of_mem_imports hcontext hi
    by_cases hid : owner.id = m.id
    · obtain rfl := List.inj_on_of_nodup_map hloaded.nodup_ids howner hm hid
      exact .inl rfl
    · exact .inr ⟨owner, howner, hid, rfl⟩
  · rw [DatatypeFile.module_mem_imports]
    exact hself f.shows.list

/-- A module with a reference to its own enum, and one to an enum of another module. -/
theorem importsSelf_of_load_local : ∃ run m context, load
      (fun path => .ok (if path = "users" then
          "[[[\"User\",[\"object\",false,null," ++
            "\x7b\"role\":\"Role\",\"plan\":\"billing.Plan\"\x7d]]]," ++
            "[[\"Role\",[\"admin\"]]],[],[]]"
        else "[[],[[\"Plan\",[\"free\"]]],[],[]]"))
      [⟨"users", some "users", none, none, none⟩, ⟨"billing", some "billing", none, none, none⟩] =
        .ok run ∧ m ∈ run ∧ m.context run .default = .ok context ∧
    m.ImportsSelf run .default context ∧
    (context.imports .types).map (·.id) = ["billing"] ∧
    m.import .default ∉ context.imports .types := by
  generalize hload : load _ _ = loaded
  have hids : loaded.toOption.map (fun run => run.map fun m =>
      (m.id, (m.context run .default).toOption.map fun context =>
        (context.imports .types).map (·.id))) =
      some [("users", some ["billing"]), ("billing", some [])] := by
    rw [← hload]
    decide +kernel
  obtain ⟨run, rfl, hrun⟩ := map_toOption_eq_some.mp hids
  obtain ⟨m, hm, hdata⟩ := List.mem_map.mp (hrun ▸ List.mem_cons_self)
  obtain ⟨hid, himports⟩ := Prod.mk.inj hdata
  obtain ⟨context, hcontext, himportsSelf⟩ := importsSelf_of_load hload hm .default
  rw [hcontext] at himports
  have himports : (context.imports .types).map (·.id) = ["billing"] := Option.some.inj himports
  refine ⟨run, m, context, rfl, hm, hcontext, himportsSelf, himports, fun hmem => ?_⟩
  have hself : m.id ∈ (context.imports .types).map (·.id) :=
    List.mem_map.mpr ⟨m.import .default, hmem, rfl⟩
  rw [himports, hid] at hself
  exact absurd hself (by decide)

/-- A reference with the id of its own module: loading accepts it, and the Go file of types imports
the package that it belongs to. -/
theorem exists_self_import : ∃ run m context, load
      (fun _ => .ok ("[[[\"User\",[\"object\",false,null," ++
        "\x7b\"role\":\"users.Role\"\x7d]]],[[\"Role\",[\"admin\"]]],[],[]]"))
      [⟨"users", some "types", none, none, none⟩] = .ok run ∧ m ∈ run ∧
    m.context run .default = .ok context ∧ m.import .default ∈ context.imports .types ∧
    DatatypeFile.goTypes.begins context = "package users\n\nimport (\n" ++
      "\t\"encoding/json\"\n\t\"fmt\"\n\t\"users\"\n" := by
  generalize hload : load _ _ = loaded
  have hbegins : loaded.toOption.map (fun run => run.map fun m =>
      (m.context run .default).toOption.map fun context =>
        ((context.imports .types).contains (m.import .default),
          DatatypeFile.goTypes.begins context)) =
      some [some (true, "package users\n\nimport (\n" ++
        "\t\"encoding/json\"\n\t\"fmt\"\n\t\"users\"\n")] := by
    rw [← hload]
    decide +kernel
  obtain ⟨run, rfl, hrun⟩ := map_toOption_eq_some.mp hbegins
  obtain ⟨m, hm, hdata⟩ := List.mem_map.mp (hrun ▸ List.mem_singleton_self _)
  obtain ⟨context, hcontext, hdata⟩ := map_toOption_eq_some.mp hdata
  obtain ⟨himport, hbegins⟩ := Prod.mk.inj hdata
  exact ⟨run, m, context, rfl, hm, hcontext, List.contains_iff_mem.mp himport, hbegins⟩

end Specloom
