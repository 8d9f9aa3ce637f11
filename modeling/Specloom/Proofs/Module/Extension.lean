import Mathlib.Data.Fin.VecNotation
import Mathlib.Data.List.FinRange
import Specloom.Proofs.Context.Imports

/-!
# Runs that extend a run

A module looks at the other modules of its run in one way only: it looks up the first module with an
id. So what is accepted in a run is accepted in every run in which each of these lookups finds the
same module, and with the same result. Two kinds of runs are of this sort: those with more modules
at the end, and those with the same modules in another order.

## Main definitions

* `ExtendedBy`: what a run finds, another run finds too

## Main results

* `extendedBy_append`, `extendedBy_of_perm`: more modules, and another order
* `ExtendedBy.addCommands`, `ExtendedBy.check`: loading in the extended run
* `ExtendedBy.generate_eq`: files in the extended run
* `generate_of_load_append`: adding modules to a run
* `load_comp_perm`: the order of the modules
-/

namespace Specloom

open Document

/-- What a run finds by an id, another run finds by it too. -/
def ExtendedBy (run run' : List Module) : Prop :=
  ∀ id m, run.find? (·.id == id) = some m → run'.find? (·.id == id) = some m

theorem extendedBy_append (run rest : List Module) : ExtendedBy run (run ++ rest) := by
  intro id m h
  rw [List.find?_append, h, Option.some_or]

/-- In a run with distinct ids, the module that is found by an id is the one that has it. -/
theorem find?_id_eq_some_iff {run : List Module} (hids : (run.map (·.id)).Nodup) {id : String}
    {m : Module} : run.find? (·.id == id) = some m ↔ m ∈ run ∧ m.id = id := by
  constructor
  · intro h
    exact ⟨List.mem_of_find?_eq_some h, by simpa using List.find?_some h⟩
  · rintro ⟨hm, rfl⟩
    rw [← List.head?_filter, Module.filter_id_eq hids hm, List.head?_singleton]

/-- In a run with distinct ids the order does not matter to what is found. -/
theorem extendedBy_of_perm {run run' : List Module} (hids : (run.map (·.id)).Nodup)
    (hperm : run.Perm run') : ExtendedBy run run' := by
  intro id m h
  have hids' : (run'.map (·.id)).Nodup := (hperm.map (·.id)).nodup_iff.mp hids
  rw [find?_id_eq_some_iff hids] at h
  exact (find?_id_eq_some_iff hids').mpr ⟨hperm.mem_iff.mp h.1, h.2⟩

namespace ExtendedBy

variable {run run' : List Module} (hrun : ExtendedBy run run') {m : Module}

include hrun

/-! ## Loading -/

theorem resolve? {ref : TypeRef} {target : Target} (h : m.resolve? run ref = some target) :
    m.resolve? run' ref = some target := by
  rw [Module.resolve?] at h ⊢
  split at h
  · exact h
  · obtain ⟨owner, howner, htarget⟩ := Option.bind_eq_some_iff.mp h
    exact Option.bind_eq_some_iff.mpr ⟨owner, hrun _ _ howner, htarget⟩

theorem fieldType {command : String} {doc : CommandFieldDoc} {type : FieldType}
    (h : FieldType.ofDoc m run command doc = .ok type) :
    FieldType.ofDoc m run' command doc = .ok type := by
  rw [FieldType.ofDoc] at h ⊢
  split at h
  · exact h
  split at h
  · cases h
  split at h
  · rw [hrun.resolve? ‹_›]
    exact h
  · rw [hrun.resolve? ‹_›]
    exact h
  · cases h

theorem commandField {command : String} {doc : CommandFieldDoc} {f : CommandField}
    (h : CommandField.ofDoc m run command doc = .ok f) :
    CommandField.ofDoc m run' command doc = .ok f := by
  simp only [CommandField.ofDoc, bind_eq_ok] at h ⊢
  obtain ⟨type, htype, hf⟩ := h
  exact ⟨type, hrun.fieldType htype, hf⟩

theorem command {path : String} {doc : CommandDoc} {c : Command}
    (h : Command.ofDoc path m run doc = .ok c) : Command.ofDoc path m run' doc = .ok c := by
  rw [Command.ofDoc] at h ⊢
  split at h
  · cases h
  obtain ⟨fields, hfields, hc⟩ := bind_eq_ok.mp h
  exact bind_eq_ok.mpr ⟨fields, mapM_mono (fun _ _ => hrun.commandField) hfields, hc⟩

/-- **Commands are added alike** in the extended run. -/
theorem addCommands {d : Documents} {m' : Module} (h : d.addCommands run m = .ok m') :
    d.addCommands run' m = .ok m' := by
  rw [Documents.addCommands] at h ⊢
  split at h
  · exact h
  obtain ⟨commands, hcommands, hm'⟩ := bind_eq_ok.mp h
  exact bind_eq_ok.mpr ⟨commands, mapM_mono (fun _ _ => hrun.command) hcommands, hm'⟩

/-- **A valid module is valid** in the extended run. -/
theorem check (h : m.check run = .ok ()) : m.check run' = .ok () := by
  rw [Module.check_eq_ok] at h ⊢
  obtain ⟨hnames, htypes, hcommands⟩ := h
  refine ⟨hnames, fun p hp => ?_, hcommands⟩
  have hresolve := Module.checkDatatype_eq_ok.mp (htypes p hp)
  refine Module.checkDatatype_eq_ok.mpr fun ref href => ?_
  obtain ⟨target, htarget⟩ := Option.isSome_iff_exists.mp (hresolve ref href)
  exact Option.isSome_iff_exists.mpr ⟨target, hrun.resolve? htarget⟩

/-! ## Files -/

theorem moduleImports_eq (config : Config) {ids : List String}
    (h : ∀ id ∈ ids, (run.find? (·.id == id)).isSome) :
    moduleImports run' config ids = moduleImports run config ids := by
  refine List.filterMap_congr fun id hid => ?_
  obtain ⟨owner, howner⟩ := Option.isSome_iff_exists.mp (h id hid)
  rw [howner, hrun id owner howner]

/-- **The context is the same** in the extended run, if every module to import is found. -/
theorem context_eq (config : Config)
    (h : ∀ list, ∀ id ∈ m.importIds list, (run.find? (·.id == id)).isSome) :
    m.context run' config = m.context run config := by
  have htypes := hrun.moduleImports_eq config (h .types)
  have hevents := hrun.moduleImports_eq config (h .events)
  have hendpoints := hrun.moduleImports_eq config (h .endpoints)
  have hstructs := hrun.moduleImports_eq config (h .structs)
  have hforms := hrun.moduleImports_eq config (h .forms)
  simp only [Module.importIds] at htypes hevents hendpoints hstructs hforms
  simp only [Module.context, Module.typesSection, Module.eventsSection, Module.commandsSection,
    Module.endpointsSection, htypes, hevents, hendpoints, hstructs, hforms]

/-- **The files are the same** in the extended run, if every module to import is found. -/
theorem generate_eq (config : Config) (helpers : Template.Helpers)
    (h : ∀ list, ∀ id ∈ m.importIds list, (run.find? (·.id == id)).isSome) :
    m.generate run' config helpers = m.generate run config helpers := by
  rw [Module.generate, Module.generate, hrun.context_eq config h]

end ExtendedBy

/-! ## More modules -/

/-- Documents that are declared behind others change nothing about those before them. -/
theorem Loaded.exists_append {docs docs' : List Documents}
    {declared declared' run run' : List Module} (h : Loaded docs declared run)
    (h' : Loaded (docs ++ docs') declared' run') : ∃ rest, run' = run ++ rest := by
  obtain ⟨first, rest, hfirst, -, rfl⟩ := mapM_append_eq_ok.mp h'.declare
  cases h.declare.symm.trans hfirst
  have hcommands := h'.commands
  rw [List.zip_append h.forall₂_declare.length_eq] at hcommands
  obtain ⟨lowered, rest', hlowered, -, rfl⟩ := mapM_append_eq_ok.mp hcommands
  -- the commands of the first modules were added against them alone, with the same result
  have hsame := mapM_mono (fun _ _ => (extendedBy_append declared rest).addCommands) h.commands
  cases hsame.symm.trans hlowered
  exact ⟨rest', rfl⟩

/-- **Adding modules to a run changes nothing about the others.** If a list of configurations loads,
and loads with more of them behind it, then the first modules of the larger run are those of the
smaller one, and each has the same files in both. -/
theorem generate_of_load_append {source : Source} {configs configs' : List ModuleConfig}
    {run run' : List Module} (h : load source configs = .ok run)
    (h' : load source (configs ++ configs') = .ok run') :
    run'.take configs.length = run ∧ ∀ m ∈ run, ∀ config : Config,
      (∀ helpers, m.generate run' config helpers = m.generate run config helpers) ∧
        ∃ files, m.generate run config .standard = .ok files := by
  obtain ⟨docs, declared, hdocs, hloaded⟩ := load_eq_ok.mp h
  obtain ⟨allDocs, declared', hallDocs, hloaded'⟩ := load_eq_ok.mp h'
  obtain ⟨first, docs', hfirst, -, rfl⟩ := mapM_append_eq_ok.mp hallDocs
  cases hdocs.symm.trans hfirst
  obtain ⟨rest, rfl⟩ := hloaded.exists_append hloaded'
  constructor
  · have hlength : configs.length = run.length :=
      (mapM_eq_ok.mp hdocs).length_eq.trans <|
        hloaded.forall₂_declare.length_eq.trans hloaded.sameDeclarations.length_eq
    rw [hlength, List.take_left]
  · intro m hm config
    exact ⟨fun helpers => (extendedBy_append run rest).generate_eq config helpers
      fun list id hid => hloaded.isSome_of_mem_importIds hm hid, hloaded.exists_generate hm config⟩

/-- An event with an enum of the module before it, and a third module. -/
theorem generate_of_load_append_event :
    ∃ run run', load
        (fun path => .ok (if path = "events"
          then "[[[\"x.Y\",[],[[\"f\",\"b.E\",\"\"]]]]]" else "[[],[[\"E\",[]]],[],[]]"))
        [⟨"b", some "types", none, none, none⟩, ⟨"a", none, some "events", none, none⟩] =
          .ok run ∧
      load
        (fun path => .ok (if path = "events"
          then "[[[\"x.Y\",[],[[\"f\",\"b.E\",\"\"]]]]]" else "[[],[[\"E\",[]]],[],[]]"))
        ([⟨"b", some "types", none, none, none⟩, ⟨"a", none, some "events", none, none⟩] ++
          [⟨"c", some "types", none, none, none⟩]) = .ok run' ∧
      run'.take 2 = run ∧ ∀ m ∈ run, ∀ config : Config,
        (∀ helpers, m.generate run' config helpers = m.generate run config helpers) ∧
          ∃ files, m.generate run config .standard = .ok files := by
  generalize hload : load _ [_, _] = loaded
  generalize hload' : load _ ([_, _] ++ [_]) = loaded'
  have hok : loaded.isOk = true := by
    rw [← hload]
    decide +kernel
  have hok' : loaded'.isOk = true := by
    rw [← hload']
    decide +kernel
  cases loaded with
  | error e => cases hok
  | ok run =>
    cases loaded' with
    | error e => cases hok'
    | ok run' => exact ⟨run, run', rfl, rfl, generate_of_load_append hload hload'⟩

/-! ## Another order -/

theorem zip_ofFn {α β : Type} {n : Nat} (f : Fin n → α) (g : Fin n → β) :
    (List.ofFn f).zip (List.ofFn g) = List.ofFn fun i => (f i, g i) := by
  refine List.ext_getElem (by simp) fun i _ _ => ?_
  simp

section

variable {n : Nat}

/-- The three passes, for modules that are given by their positions. -/
theorem loaded_ofFn_iff {docs : Fin n → Documents} {declared modules : Fin n → Module} :
    Loaded (List.ofFn docs) (List.ofFn declared) (List.ofFn modules) ↔
      (∀ i, (docs i).declare = .ok (declared i)) ∧
        Function.Injective (fun i => (declared i).id) ∧
          (∀ i, (docs i).addCommands (List.ofFn declared) (declared i) = .ok (modules i)) ∧
            ∀ i, (modules i).check (List.ofFn modules) = .ok () := by
  have hids : ((List.ofFn declared).map (·.id)).Nodup ↔
      Function.Injective (fun i => (declared i).id) := by
    rw [List.map_ofFn, List.nodup_ofFn]
    rfl
  have hresults : ∀ {α : Type} {f : α → Except Error Module} {x : Fin n → α} {y : Fin n → Module},
      (List.ofFn x).mapM f = .ok (List.ofFn y) ↔ ∀ i, f (x i) = .ok (y i) := by
    intro α f x y
    rw [mapM_ofFn_eq_ok]
    constructor
    · rintro ⟨y', hy, h⟩
      rwa [List.ofFn_inj.mp hy]
    · intro h
      exact ⟨y, rfl, h⟩
  constructor
  · intro h
    have hcommands := h.commands
    rw [zip_ofFn] at hcommands
    exact ⟨hresults.mp h.declare, hids.mp h.ids, hresults.mp hcommands,
      fun i => h.check _ (List.mem_ofFn.mpr ⟨i, rfl⟩)⟩
  · rintro ⟨hdeclare, hinjective, hcommands, hcheck⟩
    refine ⟨hresults.mpr hdeclare, hids.mpr hinjective, ?_, ?_⟩
    · rw [zip_ofFn]
      exact hresults.mpr hcommands
    · intro m hm
      obtain ⟨i, rfl⟩ := List.mem_ofFn.mp hm
      exact hcheck i

/-- **The passes succeed in every order**, with the results in the same order. -/
theorem Loaded.comp_perm {docs : Fin n → Documents} {declared modules : Fin n → Module}
    (h : Loaded (List.ofFn docs) (List.ofFn declared) (List.ofFn modules))
    (σ : Equiv.Perm (Fin n)) :
    Loaded (List.ofFn (docs ∘ σ)) (List.ofFn (declared ∘ σ)) (List.ofFn (modules ∘ σ)) := by
  have hdeclared := extendedBy_of_perm h.ids (σ.ofFn_comp_perm declared).symm
  have hmodules := extendedBy_of_perm h.nodup_ids (σ.ofFn_comp_perm modules).symm
  rw [loaded_ofFn_iff] at h ⊢
  obtain ⟨hdeclare, hinjective, hcommands, hcheck⟩ := h
  exact ⟨fun i => hdeclare (σ i), hinjective.comp σ.injective,
    fun i => hdeclared.addCommands (hcommands (σ i)), fun i => hmodules.check (hcheck (σ i))⟩

theorem exists_load_comp_perm {source : Source} {configs : Fin n → ModuleConfig}
    {run : List Module} (h : load source (List.ofFn configs) = .ok run) (σ : Equiv.Perm (Fin n)) :
    ∃ modules : Fin n → Module, run = List.ofFn modules ∧
      load source (List.ofFn (configs ∘ σ)) = .ok (List.ofFn (modules ∘ σ)) := by
  obtain ⟨docList, declaredList, hdocs, hloaded⟩ := load_eq_ok.mp h
  -- every list of the passes is given by the positions of the configurations
  obtain ⟨docs, rfl, hread⟩ := mapM_ofFn_eq_ok.mp hdocs
  obtain ⟨declared, rfl, -⟩ := mapM_ofFn_eq_ok.mp hloaded.declare
  have hcommands := hloaded.commands
  rw [zip_ofFn] at hcommands
  obtain ⟨modules, rfl, -⟩ := mapM_ofFn_eq_ok.mp hcommands
  refine ⟨modules, rfl, load_eq_ok.mpr ⟨_, _, ?_, hloaded.comp_perm σ⟩⟩
  exact mapM_ofFn_eq_ok.mpr ⟨_, rfl, fun i => hread (σ i)⟩

/-- **The order of the modules does not matter.** Configurations load in one order exactly if they
load in every other, and then the modules of the second run are those of the first in the same
order as their configurations. -/
theorem load_comp_perm (source : Source) (configs : Fin n → ModuleConfig)
    (σ : Equiv.Perm (Fin n)) :
    ((∃ run, load source (List.ofFn (configs ∘ σ)) = .ok run) ↔
        ∃ run, load source (List.ofFn configs) = .ok run) ∧
      ∀ run, load source (List.ofFn configs) = .ok run → ∃ modules : Fin n → Module,
        run = List.ofFn modules ∧
          load source (List.ofFn (configs ∘ σ)) = .ok (List.ofFn (modules ∘ σ)) := by
  refine ⟨⟨?_, ?_⟩, fun run h => exists_load_comp_perm h σ⟩
  · rintro ⟨run, h⟩
    -- the inverse permutation leads back
    obtain ⟨modules, -, h'⟩ := exists_load_comp_perm h σ.symm
    have hback : (configs ∘ σ) ∘ σ.symm = configs := by
      funext i
      simp
    rw [hback] at h'
    exact ⟨_, h'⟩
  · rintro ⟨run, h⟩
    obtain ⟨modules, -, h'⟩ := exists_load_comp_perm h σ
    exact ⟨_, h'⟩

end

/-- A command with a field of an enum of the other module, behind that module and before it. -/
theorem load_comp_perm_swap :
    ∃ modules : Fin 2 → Module, load
        (fun path => .ok (if path = "commands"
          then "[[\"x\",\"\",\"create\",\"\",\"\",[]," ++
            "[[\"f\",\"\",\"b.E\",\"\",\"\",null,false,false,\"\",\"\"]],[]]]"
          else "[[],[[\"E\",[]]],[],[]]"))
        (List.ofFn ![⟨"b", some "types", none, none, none⟩,
          ⟨"a", none, none, some "commands", none⟩]) = .ok (List.ofFn modules) ∧
      load
        (fun path => .ok (if path = "commands"
          then "[[\"x\",\"\",\"create\",\"\",\"\",[]," ++
            "[[\"f\",\"\",\"b.E\",\"\",\"\",null,false,false,\"\",\"\"]],[]]]"
          else "[[],[[\"E\",[]]],[],[]]"))
        (List.ofFn (![⟨"b", some "types", none, none, none⟩,
          ⟨"a", none, none, some "commands", none⟩] ∘ Equiv.swap 0 1)) =
            .ok (List.ofFn (modules ∘ Equiv.swap 0 1)) := by
  generalize hload : load _ (List.ofFn ![_, _]) = loaded
  have hok : loaded.isOk = true := by
    rw [← hload]
    decide +kernel
  cases loaded with
  | error e => cases hok
  | ok run =>
    obtain ⟨modules, rfl, hswap⟩ := (load_comp_perm _ _ (Equiv.swap 0 1)).2 run hload
    exact ⟨modules, rfl, hswap⟩

end Specloom
