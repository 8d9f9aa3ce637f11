import Specloom.Proofs.Module.References
import Specloom.Proofs.Output.Rendered

/-!
# Imports of a loaded module

Each section of a context lists the modules that its files import. The ids come from the references
that the section shows, after flattening; the lookup of an id passes over ids that are not of the
run. In a loaded run it passes over none: a reference stands for something, so the module that it
names is of the run, and that module has declarations and thus a file of types.

## Main definitions

* `ImportList`: the lists of imports in a context
* `Module.importIds`, `Context.imports`: the ids in a list, and the list
* `Module.Shows`: a reference occurs in what a list is for

## Main results

* `Module.mem_importIds_iff`: the ids in a list are those of the references it is for
* `Loaded.isSome_of_mem_importIds`: every id in a list is found in the run
* `Module.paths_of_generate`: the paths of generated files are those of the planned ones
* `imports_of_load`: imports of a loaded run
-/

namespace Specloom

/-- The lists of imports in a context. -/
inductive ImportList where
  | types | events | endpoints
  /-- For the structs of commands. -/
  | structs
  /-- For the forms of commands, which show the arguments of the constructors only. -/
  | forms
deriving DecidableEq, Repr

/-- The ids of the modules in a list of imports. -/
def Module.importIds (m : Module) : ImportList → List String
  | .types => m.typeNeeds.modules
  | .events => m.eventNeeds.modules
  | .endpoints => m.endpointNeeds.modules
  | .structs => (CommandNeeds.ofCommands m.commands).goModules
  | .forms => (CommandNeeds.ofCommands m.commands).tsModules

/-- A list of imports. -/
def Context.imports (c : Context) : ImportList → List ModuleImport
  | .types => c.types.modules
  | .events => c.events.modules
  | .endpoints => c.endpoints.modules
  | .structs => c.commands.goModules
  | .forms => c.commands.tsModules

/-- A reference occurs in what a list of imports is for: at any depth of the types, of the fields of
events or of what endpoints consume and produce, or as the type of a field of a command. -/
def Module.Shows (m : Module) (ref : TypeRef) : ImportList → Prop
  | .types => ∃ t ∈ m.types, t.type.Mentions ref
  | .events => ∃ e ∈ m.events, ∃ f ∈ e.fields, f.type.Mentions ref
  | .endpoints => ∃ e ∈ m.endpoints, ∃ t ∈ e.types, t.Mentions ref
  | .structs => ∃ c ∈ m.commands, ∃ f ∈ c.fields, f.type.reference? = some ref
  | .forms => ∃ c ∈ m.commands, ∃ f ∈ c.fields, f.key ∈ c.args ∧ f.type.reference? = some ref

/-! ## Sorted texts -/

theorem nodup_eraseDups (texts : List String) : texts.eraseDups.Nodup := by
  match texts with
  | [] => simp
  | text :: rest =>
    rw [List.eraseDups_cons, List.nodup_cons, List.mem_eraseDups]
    exact ⟨by simp, nodup_eraseDups (rest.filter fun other => !other == text)⟩
termination_by texts.length
decreasing_by exact Nat.lt_succ_of_le (List.length_filter_le _ _)

theorem mem_sortedTexts {text : String} {texts : List String} :
    text ∈ sortedTexts texts ↔ text ∈ texts := by
  rw [sortedTexts, List.mem_mergeSort, List.mem_eraseDups]

theorem nodup_sortedTexts (texts : List String) : (sortedTexts texts).Nodup :=
  (List.mergeSort_perm _ _).nodup_iff.mpr (nodup_eraseDups texts)

theorem Module.nodup_importIds (m : Module) (list : ImportList) : (m.importIds list).Nodup := by
  cases list <;> exact nodup_sortedTexts _

/-! ## Ids and references -/

theorem Datatype.mentions_of_reference? {t node : Datatype} (hnode : node ∈ t.nodes)
    {ref : TypeRef} (h : node.reference? = some ref) : t.Mentions ref := by
  cases node with
  | reference ref' nullable =>
    cases h
    exact mentions_iff_mem_nodes.mpr ⟨nullable, hnode⟩
  | scalar | object | array => cases h

/-- What survives flattening was mentioned. -/
theorem exists_mentions_of_mem_references {roots : List Datatype} {ref : TypeRef}
    (h : ref ∈ references (flatten roots)) : ∃ t ∈ roots, t.Mentions ref := by
  obtain ⟨node, hnode, href⟩ := List.mem_filterMap.mp h
  obtain ⟨t, ht, hin⟩ := List.mem_flatMap.mp (mem_of_mem_flatten hnode)
  exact ⟨t, ht, Datatype.mentions_of_reference? hin href⟩

/-- The modules that a file with some datatypes imports are those of the references in them. -/
theorem mem_modules_ofTypes_flatten {roots : List Datatype} (hroots : ∀ t ∈ roots, t.Named)
    {id : String} : id ∈ (ImportNeeds.ofTypes (flatten roots)).modules ↔
      ∃ ref, (∃ t ∈ roots, t.Mentions ref) ∧ ref.owner = some id := by
  rw [ImportNeeds.ofTypes, mem_sortedTexts, List.mem_filterMap]
  constructor
  · rintro ⟨ref, href, howner⟩
    exact ⟨ref, exists_mentions_of_mem_references href, howner⟩
  · rintro ⟨ref, ⟨t, ht, href⟩, howner⟩
    exact ⟨ref, mem_references_flatten hroots ht href, howner⟩

namespace Module

variable {m : Module}

theorem mem_importIds_structs {id : String} :
    id ∈ m.importIds .structs ↔ ∃ ref, m.Shows ref .structs ∧ ref.owner = some id := by
  simp only [importIds, CommandNeeds.ofCommands, mem_sortedTexts, List.mem_filterMap,
    List.mem_flatMap, Option.bind_eq_some_iff, Shows]
  constructor
  · rintro ⟨f, ⟨c, hc, hf⟩, ref, href, howner⟩
    exact ⟨ref, ⟨c, hc, f, hf, href⟩, howner⟩
  · rintro ⟨ref, ⟨c, hc, f, hf, href⟩, howner⟩
    exact ⟨f, ⟨c, hc, hf⟩, ref, href, howner⟩

theorem mem_importIds_forms {id : String} :
    id ∈ m.importIds .forms ↔ ∃ ref, m.Shows ref .forms ∧ ref.owner = some id := by
  simp only [importIds, CommandNeeds.ofCommands, mem_sortedTexts, List.mem_filterMap,
    List.mem_flatMap, List.mem_filter, Command.isArg, List.contains_iff_mem, Shows]
  constructor
  · rintro ⟨ref, ⟨f, ⟨c, hc, hf, harg⟩, href⟩, howner⟩
    exact ⟨ref, ⟨c, hc, f, hf, harg, href⟩, howner⟩
  · rintro ⟨ref, ⟨c, hc, f, hf, harg, href⟩, howner⟩
    exact ⟨ref, ⟨f, ⟨c, hc, hf, harg⟩, href⟩, howner⟩

/-- **The ids in a list of imports are those of the references that it is for.** -/
theorem mem_importIds_iff (hnamed : ∀ p ∈ m.locatedTypes, p.2.Named) {list : ImportList}
    {id : String} : id ∈ m.importIds list ↔ ∃ ref, m.Shows ref list ∧ ref.owner = some id := by
  simp only [locatedTypes, List.mem_append, List.mem_map, List.mem_flatMap] at hnamed
  cases list with
  | types =>
    rw [importIds, typeNeeds, mem_modules_ofTypes_flatten]
    · simp only [Shows, List.mem_map, exists_exists_and_eq_and]
    · rintro _ htype
      obtain ⟨t, ht, rfl⟩ := List.mem_map.mp htype
      exact hnamed _ (Or.inl (Or.inl ⟨t, ht, rfl⟩))
  | events =>
    rw [importIds, eventNeeds, mem_modules_ofTypes_flatten]
    · simp only [Shows, List.mem_flatMap, List.mem_map]
      grind
    · rintro _ htype
      obtain ⟨e, he, hfield⟩ := List.mem_flatMap.mp htype
      obtain ⟨f, hf, rfl⟩ := List.mem_map.mp hfield
      exact hnamed _ (Or.inr ⟨e, he, f, hf, rfl⟩)
  | endpoints =>
    rw [importIds, endpointNeeds, mem_modules_ofTypes_flatten]
    · simp only [Shows, List.mem_flatMap]
      grind
    · intro t ht
      obtain ⟨e, he, ht⟩ := List.mem_flatMap.mp ht
      exact hnamed _ (Or.inl (Or.inr ⟨e, he, t, ht, rfl⟩))
  | structs => exact mem_importIds_structs
  | forms => exact mem_importIds_forms

/-- What a list of imports is for occurs in the module. -/
theorem Shows.mentions {ref : TypeRef} {list : ImportList} (h : m.Shows ref list) :
    m.Mentions ref := by
  cases list with
  | types =>
    obtain ⟨t, ht, href⟩ := h
    exact .type ht href
  | events =>
    obtain ⟨e, he, f, hf, href⟩ := h
    exact .event he hf href
  | endpoints =>
    obtain ⟨e, he, t, ht, href⟩ := h
    rcases List.mem_append.mp ht with ht | ht
    · exact .consumes he (Option.mem_toList.mp ht) href
    · exact .produces he (Option.mem_toList.mp ht) href
  | structs =>
    obtain ⟨c, hc, f, hf, href⟩ := h
    exact .command hc hf href
  | forms =>
    obtain ⟨c, hc, f, hf, -, href⟩ := h
    exact .command hc hf href

end Module

/-! ## Entries -/

/-- A context lists the imports of these ids. -/
theorem Module.imports_of_context {m : Module} {run : List Module} {config : Config}
    {context : Context} (h : m.context run config = .ok context) (list : ImportList) :
    context.imports list = moduleImports run config (m.importIds list) := by
  simp only [Module.context, Module.commandsSection, bind_eq_ok, pure_eq_ok] at h
  obtain ⟨_, ⟨_, -, rfl⟩, rfl⟩ := h
  cases list <;> rfl

/-- Where every id is found, none is passed over. -/
theorem map_id_moduleImports {run : List Module} {config : Config} {ids : List String}
    (h : ∀ id ∈ ids, (run.find? (·.id == id)).isSome) :
    (moduleImports run config ids).map (·.id) = ids := by
  induction ids with
  | nil => rfl
  | cons id ids ih =>
    rw [List.forall_mem_cons] at h
    obtain ⟨owner, howner⟩ := Option.isSome_iff_exists.mp h.1
    have hid : owner.id = id := by simpa using List.find?_some howner
    rw [moduleImports, List.filterMap_cons, howner]
    simp only [Option.map_some, List.map_cons]
    rw [← moduleImports, ih h.2, Module.import, hid]

theorem mem_moduleImports {run : List Module} {config : Config} {ids : List String} {id : String}
    (hid : id ∈ ids) {owner : Module} (howner : run.find? (·.id == id) = some owner) :
    owner.import config ∈ moduleImports run config ids :=
  List.mem_filterMap.mpr ⟨id, hid, by rw [howner, Option.map_some]⟩

/-! ## Files -/

theorem PlannedFile.path_of_render {helpers : Template.Helpers} {context : Context}
    {file : PlannedFile} {output : OutputFile} (h : file.render helpers context = .ok output) :
    output.path = file.path := by
  rw [render] at h
  split at h
  · cases h
    rfl
  · cases h

/-- **The generated files are the planned ones**, whatever helpers render them. -/
theorem Module.paths_of_generate {m : Module} {run : List Module} {config : Config}
    {helpers : Template.Helpers} {files : List OutputFile}
    (h : m.generate run config helpers = .ok files) :
    files.map (·.path) = (m.plan config).map (·.path) := by
  obtain ⟨context, -, hfiles⟩ := bind_eq_ok.mp h
  generalize m.plan config = planned at hfiles
  have hrender := mapM_eq_ok.mp hfiles
  clear h hfiles
  induction hrender with
  | nil => rfl
  | cons hfile _ ih => rw [List.map_cons, List.map_cons, ih, PlannedFile.path_of_render hfile]

/-- A module with a types document has a file of types in both languages. -/
theorem Module.typeFiles_mem_plan {m : Module} (h : m.present.types = true) (config : Config) :
    "backend/" ++ m.path ++ "/types.gen.go" ∈ (m.plan config).map (·.path) ∧
      "frontend/" ++ m.path ++ "_types.ts" ∈ (m.plan config).map (·.path) := by
  have hgo : m.goFile "types" Output.Go.types ∈ m.plan config := by simp [plan, filesIf, h]
  have hts : m.tsFile "types" Output.TypeScript.types ∈ m.plan config := by
    simp [plan, filesIf, h]
  exact ⟨List.mem_map.mpr ⟨_, hgo, by simp [goFile, String.append_assoc]⟩,
    List.mem_map.mpr ⟨_, hts, by simp [tsFile, String.append_assoc]⟩⟩

/-- What a module declares comes from its types document. -/
theorem Documents.present_types_of_declare {d : Documents} {m : Module} (h : d.declare = .ok m)
    (hm : m.declaredNames ≠ []) : m.present.types = true := by
  rw [declare] at h
  simp only [bind_eq_ok, pure_eq_ok] at h
  obtain ⟨types, htypes, _, -, _, -, _, -, rfl⟩ := h
  cases hd : d.types with
  | some source => simp [present, hd]
  | none =>
    rw [hd] at htypes
    cases htypes
    simp [Module.declaredNames, hd] at hm

/-! ## Loaded runs -/

namespace Loaded

variable {docs : List Documents} {declared run : List Module}

/-- The module that a reference names is of the run, and it has a types document. -/
theorem exists_owner_of_mentions (h : Loaded docs declared run) {m : Module} (hm : m ∈ run)
    {ref : TypeRef} (href : m.Mentions ref) {id : String} (hid : ref.owner = some id) :
    ∃ owner, run.find? (·.id == id) = some owner ∧ owner.present.types = true := by
  obtain ⟨target, htarget⟩ := h.exists_resolve?_of_mentions hm href
  rw [Module.resolve?, hid] at htarget
  obtain ⟨owner, howner, hname⟩ := Option.bind_eq_some_iff.mp htarget
  refine ⟨owner, howner, ?_⟩
  -- what the reference stands for is declared by the owner, and so in its types document
  obtain ⟨d, -, m₀, -, hdeclare, hcommands⟩ := h.exists_documents (List.mem_of_find?_eq_some howner)
  have hsame := (Documents.addCommands_eq_ok hcommands).1
  rw [hsame.target?_eq] at hname
  rw [hsame]
  show m₀.present.types = true
  exact Documents.present_types_of_declare hdeclare
    (List.ne_nil_of_mem (Module.mem_declaredNames_of_target? hname))

/-- **Every id in a list of imports is found in the run.** -/
theorem isSome_of_mem_importIds (h : Loaded docs declared run) {m : Module} (hm : m ∈ run)
    {list : ImportList} {id : String} (hid : id ∈ m.importIds list) :
    (run.find? (·.id == id)).isSome := by
  obtain ⟨ref, hshows, howner⟩ := (Module.mem_importIds_iff fun p hp =>
    h.named_of_mem_locatedTypes hm hp).mp hid
  obtain ⟨owner, hfind, -⟩ := h.exists_owner_of_mentions hm hshows.mentions howner
  exact Option.isSome_iff_exists.mpr ⟨owner, hfind⟩

theorem exists_generate (h : Loaded docs declared run) {m : Module} (hm : m ∈ run)
    (config : Config) : ∃ files, m.generate run config .standard = .ok files :=
  m.exists_generate (Module.check_eq_ok.mp (h.check m hm)).2.2 run config

end Loaded

/-- **Imports of a loaded run.** A module that is referred to in what a list of imports is for has
one entry in that list. The entry is for a module of the run, below the prefixes of the
configuration, and the files that it imports are among the files of that module. -/
theorem imports_of_load {source : Source} {configs : List ModuleConfig} {run : List Module}
    (h : load source configs = .ok run) {m : Module} (hm : m ∈ run) (config : Config) :
    ∃ context, m.context run config = .ok context ∧
      ∀ (list : ImportList) (ref : TypeRef) (id : String), m.Shows ref list → ref.owner = some id →
        ((context.imports list).map (·.id)).count id = 1 ∧
        ∃ owner ∈ run, owner.id = id ∧
          ⟨id, config.backendModulePrefix ++ owner.path,
            config.frontendModulePrefix ++ owner.path ++ "_types"⟩ ∈ context.imports list ∧
          (∃ files, owner.generate run config .standard = .ok files) ∧
          ∀ helpers files, owner.generate run config helpers = .ok files →
            "backend/" ++ owner.path ++ "/types.gen.go" ∈ files.map (·.path) ∧
              "frontend/" ++ owner.path ++ "_types.ts" ∈ files.map (·.path) := by
  obtain ⟨docs, declared, -, hloaded⟩ := load_eq_ok.mp h
  obtain ⟨context, hcontext⟩ :=
    m.exists_context (Module.check_eq_ok.mp (hloaded.check m hm)).2.2 run config
  refine ⟨context, hcontext, fun list ref id hshows hid => ?_⟩
  have himports := Module.imports_of_context hcontext list
  have hmem : id ∈ m.importIds list := (Module.mem_importIds_iff fun p hp =>
    hloaded.named_of_mem_locatedTypes hm hp).mpr ⟨ref, hshows, hid⟩
  obtain ⟨owner, howner, htypes⟩ := hloaded.exists_owner_of_mentions hm hshows.mentions hid
  have hownerId : owner.id = id := by simpa using List.find?_some howner
  have hrun : owner ∈ run := List.mem_of_find?_eq_some howner
  constructor
  · -- no id is passed over, so the entries have the ids of the list, which are distinct
    rw [himports, map_id_moduleImports fun id hid => hloaded.isSome_of_mem_importIds hm hid]
    exact List.count_eq_one_of_mem (m.nodup_importIds list) hmem
  refine ⟨owner, hrun, hownerId, ?_, hloaded.exists_generate hrun config, ?_⟩
  · have hentry : owner.import config ∈ context.imports list :=
      himports ▸ mem_moduleImports hmem howner
    rwa [Module.import, hownerId] at hentry
  · intro helpers files hfiles
    rw [Module.paths_of_generate hfiles]
    exact Module.typeFiles_mem_plan htypes config

/-- An event of one module with a list of an enum of another. -/
theorem imports_of_load_event :
    ∃ run m, load
        (fun path => .ok (if path = "events"
          then "[[[\"x.Y\",[],[[\"f\",\x7b\"_\":\"array\",\"of\":\"b.E\"\x7d,\"\"]]]]]"
          else "[[],[[\"E\",[]]],[],[]]"))
        [⟨"a", none, some "events", none, none⟩, ⟨"x/b", some "types", none, none, none⟩] =
          .ok run ∧
      m ∈ run ∧ m.Shows ⟨some "b", "E"⟩ .events ∧
      ∀ config : Config, ∃ context, m.context run config = .ok context ∧
        ((context.imports .events).map (·.id)).count "b" = 1 ∧
        ∃ owner ∈ run, owner.id = "b" ∧
          ⟨"b", config.backendModulePrefix ++ owner.path,
            config.frontendModulePrefix ++ owner.path ++ "_types"⟩ ∈ context.imports .events ∧
          (∃ files, owner.generate run config .standard = .ok files) ∧
          ∀ helpers files, owner.generate run config helpers = .ok files →
            "backend/" ++ owner.path ++ "/types.gen.go" ∈ files.map (·.path) ∧
              "frontend/" ++ owner.path ++ "_types.ts" ∈ files.map (·.path) := by
  generalize hload : load _ _ = loaded
  have hfield : (loaded.toOption.any fun run => run.any fun m => m.events.any fun e =>
      e.fields.any fun f => f.type.nodes.any fun node =>
        node.reference? = some ⟨some "b", "E"⟩) = true := by
    rw [← hload]
    decide +kernel
  cases loaded with
  | error e => cases hfield
  | ok run =>
    obtain ⟨m, hm, hevents⟩ := List.any_eq_true.mp hfield
    obtain ⟨e, he, hfields⟩ := List.any_eq_true.mp hevents
    obtain ⟨f, hf, hnodes⟩ := List.any_eq_true.mp hfields
    obtain ⟨node, hnode, href⟩ := List.any_eq_true.mp hnodes
    have href : node.reference? = some ⟨some "b", "E"⟩ := by simpa using href
    have hshows : m.Shows ⟨some "b", "E"⟩ .events :=
      ⟨e, he, f, hf, Datatype.mentions_of_reference? hnode href⟩
    refine ⟨run, m, rfl, hm, hshows, fun config => ?_⟩
    obtain ⟨context, hcontext, himports⟩ := imports_of_load hload hm config
    exact ⟨context, hcontext, himports .events _ "b" hshows rfl⟩

end Specloom
