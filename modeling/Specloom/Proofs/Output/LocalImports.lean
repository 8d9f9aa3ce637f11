import Specloom.Proofs.Context.CommandImports
import Specloom.Proofs.Output.GoDeclared
import Specloom.Proofs.Output.Imports
import Specloom.Proofs.Output.Places

/-!
# Types of the own module in the frontend

A TypeScript file that uses types of its own module imports them from the file of types beside it.
The import names that file by the id of the module, while the path of the file is made of the path
of the module. The id leaves out slashes at the end of the path, and the path of the file does not.
So the import means the file of types exactly if there are no such slashes, and otherwise no file
of the run at all.

## Main definitions

* `specifiedPlace`: the file that an import means
* `LocalFile`: the files that import types of their own module
* `Module.ImportsTypes`: what such a file imports, and what the import means

## Main results

* `typescriptPlace_cases`: the places of the TypeScript files of a module
* `exists_dangling_import`: an import that means no file
* `localImports_of_load`: what the imports of a loaded module mean
-/

namespace Specloom

open FileTree (names)
open Template Text

/-! ## Places -/

/-- **The places of the TypeScript files of a module**: all are in one directory. Their names begin
with the id of the module, or without it if the path of the module ends in a slash; then the
directory is that of the id. -/
theorem typescriptPlace_cases (base path : String) : ∃ directory : Place,
    ((EndsInSlash path → Name.ofPath path = "") ∧ ∀ name, '/' ∉ name.toList →
      placeOf (joinPath base (outputPath path (.typescript, name))) =
        directory ++ [Name.ofPath path ++ "_" ++ name ++ ".ts"]) ∨
    (EndsInSlash path ∧ ∀ name, '/' ∉ name.toList →
      placeOf (joinPath base (outputPath path (.typescript, name))) =
        directory ++ ["_" ++ name ++ ".ts"]) := by
  have hroot : "frontend".toList.head?.any (· ≠ '/') := by decide
  obtain ⟨place, hplace⟩ := exists_placeOf_joinPath base hroot
  have hfile (name : String) : placeOf (joinPath base (outputPath path (.typescript, name))) =
      placeFrom place (names (path ++ ("_" ++ name ++ ".ts"))) := by
    rw [outputPath_eq, hplace, tag, String.append_assoc, String.append_assoc]
  have htail {name : String} (h : '/' ∉ name.toList) : '/' ∉ ("_" ++ name ++ ".ts").toList := by
    simpa [String.toList_append] using h
  have hlength (name : String) : 2 < ("_" ++ name ++ ".ts").length := by
    rw [String.length_append]
    exact Nat.lt_add_left _ (by decide)
  have hname (front name : String) : IsName (front ++ ("_" ++ name ++ ".ts")) :=
    isName_append (hlength name) front
  obtain ⟨before, ⟨hend, hnames⟩ | ⟨hend, slashes, hnames⟩⟩ := names_append_end_cases path
  · refine ⟨placeFrom place before, .inl ⟨hend, fun name h => ?_⟩⟩
    rw [hfile, hnames _ (htail h), placeFrom_append, placeFrom_singleton (hname _ name)]
    simp only [String.append_assoc]
  · refine ⟨placeFrom place (before ++ [Name.ofPath path]), .inr ⟨hend, fun name h => ?_⟩⟩
    have hsingle := hname "" name
    rw [String.empty_append] at hsingle
    rw [hfile, hnames _ (htail h), List.append_cons, placeFrom_append, placeFrom_append,
      placeFrom_replicate, placeFrom_singleton hsingle]

/-! ## What an import means -/

/-- The place of the file that an import in a file means: it is relative to the directory of the
file, and the ending is left out. -/
def specifiedPlace (importer : Place) (specifier : String) : Place :=
  placeFrom importer.dropLast (names (specifier ++ ".ts"))

/-- How a TypeScript file of a module names the file of types. -/
def Module.typesSpecifier (m : Module) : String :=
  "./" ++ m.id ++ "_types"

theorem specifiedPlace_concat (directory : Place) (file : String) {m : Module}
    (hid : '/' ∉ m.id.toList) :
    specifiedPlace (directory ++ [file]) m.typesSpecifier = directory ++ [m.id ++ "_types.ts"] := by
  have hsplit : m.typesSpecifier ++ ".ts" = "." ++ "/" ++ (m.id ++ "_types.ts") := by
    simp [Module.typesSpecifier, String.append_assoc]
  have hslash : '/' ∉ (m.id ++ "_types.ts").toList := by
    simpa [String.toList_append] using hid
  have hdot : names "." = ["."] := names_of_not_mem (by decide)
  rw [specifiedPlace, List.dropLast_concat, hsplit, names_slash, hdot, names_of_not_mem hslash,
    placeFrom_append, placeFrom_singleton (isName_append (by decide) m.id)]
  rfl

/-- The place of a TypeScript file of a module. -/
def Module.tsPlace (m : Module) (config : Config) (name : String) : Place :=
  placeOf (joinPath config.outDir (outputPath m.path (.typescript, name)))

section Specified

variable {m : Module} (hid : m.id = Name.ofPath m.path) (config : Config) {name : String}
  (hname : '/' ∉ name.toList)

include hid hname

/-- An import of own types is for a file beside the importing one. -/
theorem exists_specifiedPlace_eq : ∃ directory : Place,
    specifiedPlace (m.tsPlace config name) m.typesSpecifier = directory ++ [m.id ++ "_types.ts"] ∧
    ((EndsInSlash m.path → m.id = "") ∧
        m.tsPlace config "types" = directory ++ [m.id ++ "_types.ts"] ∨
      EndsInSlash m.path ∧ m.tsPlace config "types" = directory ++ ["_types.ts"]) := by
  have hslash : '/' ∉ m.id.toList := by
    obtain ⟨-, -, -, hslash, -⟩ := exists_cut_ofPath m.path
    rwa [hid]
  have htypes : '/' ∉ "types".toList := by decide
  obtain ⟨directory, ⟨hend, hplaces⟩ | ⟨hend, hplaces⟩⟩ :=
    typescriptPlace_cases config.outDir m.path
  · refine ⟨directory, ?_, .inl ⟨hid ▸ hend, ?_⟩⟩
    · rw [Module.tsPlace, hplaces name hname, specifiedPlace_concat _ _ hslash]
    · rw [Module.tsPlace, hplaces "types" htypes, hid, String.append_assoc, String.append_assoc]
      rfl
  · refine ⟨directory, ?_, .inr ⟨hend, hplaces "types" htypes⟩⟩
    rw [Module.tsPlace, hplaces name hname, specifiedPlace_concat _ _ hslash]

/-- **An import of own types means the file of types** exactly if the path of the module does not
end in a slash, or has no id at all. -/
theorem specifiedPlace_eq_iff :
    specifiedPlace (m.tsPlace config name) m.typesSpecifier = m.tsPlace config "types" ↔
      (EndsInSlash m.path → m.id = "") := by
  obtain ⟨directory, hspecified, ⟨hend, htypes⟩ | ⟨hend, htypes⟩⟩ :=
    exists_specifiedPlace_eq hid config hname
  · exact iff_of_true (hspecified.trans htypes.symm) hend
  · have hempty : m.id ++ "_types.ts" = "" ++ "_types.ts" ↔ m.id = "" := String.append_left_inj _
    rw [String.empty_append] at hempty
    rw [hspecified, htypes, List.append_right_inj, List.singleton_inj, hempty]
    simp only [hend, forall_const]

end Specified

/-- A file of a run to which an import of own types leads is the file of types, if every id of the
run is a name. -/
theorem Loaded.eq_types_of_specified {docs : List Documents} {declared run : List Module}
    (h : Loaded docs declared run) (hnames : ∀ m ∈ run, IsName m.id) {m : Module} (hm : m ∈ run)
    {config : Config} {name : String} (hname : '/' ∉ name.toList) {owner : Module}
    (howner : owner ∈ run) {file : PlannedFile} (hfile : file ∈ owner.plan config)
    (hplace : file.place config = specifiedPlace (m.tsPlace config name) m.typesSpecifier) :
    specifiedPlace (m.tsPlace config name) m.typesSpecifier = m.tsPlace config "types" := by
  have hmem : file.place config ∈ (owner.plan config).map (·.place config) :=
    List.mem_map_of_mem hfile
  have horigin : origin (file.place config) = (m.id, "types.ts") := by
    obtain ⟨directory, hspecified, -⟩ := exists_specifiedPlace_eq (h.id_eq hm) config hname
    have hconcat : m.id ++ "_types.ts" = m.id ++ "_" ++ "types.ts" := by
      rw [String.append_assoc]
      rfl
    have hid : m.id ≠ "" := by
      intro hempty
      exact hnames m hm (hempty ▸ List.mem_cons_self)
    rw [hplace, hspecified, hconcat, origin_of_suffix (by decide) (by decide), if_neg hid]
  -- the place tells the module, and then the kind of the file
  have hid := fst_origin_of_mem (h.id_eq howner) (hnames owner howner) hmem
  rw [horigin] at hid
  obtain rfl := List.inj_on_of_nodup_map h.nodup_ids hm howner hid
  obtain ⟨output, houtput, hpath⟩ := List.mem_map.mp ((map_place_sublist m config).subset hmem)
  obtain ⟨directory, htag, -⟩ := origin_outputPath config.outDir m.path houtput
  rw [hpath, horigin] at htag
  have htypes : ∀ output ∈ outputs, "types.ts" = tag output → output = (.typescript, "types") := by
    decide
  obtain rfl := htypes output houtput (congrArg Prod.snd htag)
  exact hplace.symm.trans hpath.symm

/-! ## Files -/

/-- The file of types of a module. -/
def Module.typesFile (m : Module) : PlannedFile :=
  m.tsFile "types" Output.TypeScript.types

/-- The files that import types of their own module. -/
inductive LocalFile where
  | endpoints | commands
deriving DecidableEq, Repr

namespace LocalFile

/-- The name of a file, which is part of its path. -/
def name : LocalFile → String
  | .endpoints => "endpoints"
  | .commands => "commands"

/-- The template of a file. -/
def template : LocalFile → Template
  | .endpoints => Output.TypeScript.endpoints
  | .commands => Output.TypeScript.commands

/-- The list of imports of a file. -/
def list : LocalFile → ImportList
  | .endpoints => .endpoints
  | .commands => .forms

/-- The types of its own module that a file imports. -/
def localTypes (c : Context) : LocalFile → List String
  | .endpoints => (c.needs .endpoints).localTypes
  | .commands => c.commands.imports.tsLocalTypes

/-- How a file with such types begins. -/
def begins (m : Module) (names : List String) : String :=
  OutputKind.typescript.marker ++ "// tslint:disable\n" ++ "import \x7b\n" ++
    String.join (names.map fun name => "\t" ++ name ++ ",\n") ++
      "\x7d from '" ++ m.typesSpecifier ++ "';\n"

/-- The file of a module. -/
def planned (m : Module) (f : LocalFile) : PlannedFile :=
  m.tsFile f.name f.template

/-- The file that the import of own types in a file means. -/
def specified (m : Module) (config : Config) (f : LocalFile) : Place :=
  specifiedPlace ((f.planned m).place config) m.typesSpecifier

/-- A file with types of its own module imports them first. -/
theorem renderNodes_take {h : Helpers} {c : Context} (f : LocalFile) (hne : f.localTypes c ≠ []) :
    renderNodes h c.fields (f.template.take 2) = .ok ("// tslint:disable\n" ++
      FileImport.text c .typescript (.localTypes (f.localTypes c))) := by
  have hnonempty : (!(f.localTypes c).isEmpty) = true := by simpa using hne
  have htexts : FileImport.texts c .typescript (FileImport.onlyIf (!(f.localTypes c).isEmpty)
      [.localTypes (f.localTypes c)]) =
        FileImport.text c .typescript (.localTypes (f.localTypes c)) := by
    rw [FileImport.texts_onlyIf, if_pos hnonempty, FileImport.texts_cons, FileImport.texts_nil,
      String.append_empty]
  have hlines : renderNodes h c.fields [.lines ["// tslint:disable"]] = .ok "// tslint:disable\n" :=
    renderNodes_lines _
  rw [← htexts]
  cases f with
  | endpoints => exact renderNodes_append hlines (DatatypeFile.renderNodes_localTypes fun _ => rfl)
  | commands => exact renderNodes_append hlines (DatatypeFile.renderNodes_localTypes fun _ => rfl)

theorem exists_content_of_render {h : Helpers} {c : Context} {m : Module} (hm : c.module = m)
    {f : LocalFile} (hne : f.localTypes c ≠ []) {output : OutputFile}
    (hrender : (f.planned m).render h c = .ok output) :
    ∃ rest, output = ⟨(f.planned m).path, begins m (f.localTypes c) ++ rest⟩ := by
  rw [PlannedFile.render] at hrender
  split at hrender
  · rename_i body hbody
    cases hrender
    have htemplate : (f.planned m).template = f.template.take 2 ++ f.template.drop 2 :=
      (List.take_append_drop 2 f.template).symm
    rw [render, htemplate] at hbody
    obtain ⟨_, rest, hfirst, -, rfl⟩ := renderNodes_append_eq_ok.mp hbody
    rw [renderNodes_take f hne] at hfirst
    cases hfirst
    have hbegin : "\x7d from './" = "\x7d from '" ++ "./" := rfl
    have hend : "_types';\n" = "_types" ++ "';\n" := rfl
    refine ⟨rest, congrArg _ ?_⟩
    simp only [begins, planned, Module.tsFile, FileImport.text, Module.typesSpecifier, hm,
      hbegin, hend, String.append_assoc]
  · cases hrender

end LocalFile

/-! ## Loaded runs -/

/-- A context is that of its module. -/
theorem Module.module_of_context {m : Module} {run : List Module} {config : Config} {c : Context}
    (h : m.context run config = .ok c) : c.module = m := by
  obtain ⟨commands, -, h⟩ := bind_eq_ok.mp h
  cases pure_eq_ok.mp h
  rfl

/-- A type that a file imports from its own module is referred to in what the file shows. -/
theorem Module.exists_shows_of_mem_localTypes {m : Module} {run : List Module} {config : Config}
    {context : Context} (hcontext : m.context run config = .ok context) {f : LocalFile}
    {name : String} (hname : name ∈ f.localTypes context) :
    ∃ ref, m.Shows ref f.list ∧ ref.owner = none := by
  cases f with
  | endpoints =>
    rw [LocalFile.localTypes, needs_of_context hcontext] at hname
    simp only [ImportNeeds.ofTypes, mem_sortedTexts, List.mem_map, List.mem_filter,
      Option.isNone_iff_eq_none] at hname
    obtain ⟨ref, ⟨href, howner⟩, -⟩ := hname
    obtain ⟨t, ht, hmentions⟩ := exists_mentions_of_mem_references href
    obtain ⟨e, he, ht⟩ := List.mem_flatMap.mp ht
    exact ⟨ref, ⟨e, he, t, ht, hmentions⟩, howner⟩
  | commands =>
    rw [LocalFile.localTypes, (commands_of_context hcontext).1, mem_tsLocalTypes_iff] at hname
    obtain ⟨c, hc, f, hf, harg, ref, href, howner, -⟩ := hname
    exact ⟨ref, ⟨c, hc, f, hf, by simpa [Command.isArg] using harg, href⟩, howner⟩

/-- A module has a file of types if another file imports its types, and it has that other file. -/
theorem Loaded.mem_plan_of_shows {docs : List Documents} {declared run : List Module}
    (h : Loaded docs declared run) {m : Module} (hm : m ∈ run) {f : LocalFile} {ref : TypeRef}
    (href : m.Shows ref f.list) (howner : ref.owner = none) (config : Config) :
    m.typesFile ∈ m.plan config ∧ f.planned m ∈ m.plan config := by
  have hdocs := h.hasDocuments hm
  obtain ⟨target, htarget⟩ := h.exists_resolve?_of_mentions hm href.mentions
  rw [Module.resolve?, howner] at htarget
  have hdeclared := Module.mem_declaredNames_of_target? htarget
  have htypes : m.present.types = true := by
    refine hdocs.types.resolve_right ?_
    rintro ⟨htypes, henums, -⟩
    simp [Module.declaredNames, htypes, henums] at hdeclared
  refine ⟨by simp [Module.typesFile, Module.plan, filesIf, htypes], ?_⟩
  cases f with
  | endpoints =>
    obtain ⟨e, he, -⟩ := href
    have hendpoints : m.endpoints ≠ [] := List.ne_nil_of_mem he
    simp [LocalFile.planned, LocalFile.name, LocalFile.template, Module.plan, filesIf, hendpoints]
  | commands =>
    obtain ⟨c, hc, -⟩ := href
    have hcommands := hdocs.commands.resolve_right (List.ne_nil_of_mem hc)
    simp [LocalFile.planned, LocalFile.name, LocalFile.template, Module.plan, filesIf, hcommands]

/-- What a file imports of its own module, and what the import means. -/
structure Module.ImportsTypes (m : Module) (run : List Module) (config : Config)
    (files : List OutputFile) (f : LocalFile) (names : List String) : Prop where
  /-- The file begins with the import. -/
  file : ∃ rest, ⟨(f.planned m).path, LocalFile.begins m names ++ rest⟩ ∈ files
  /-- There is a file of types. -/
  types : m.typesFile.path ∈ files.map (·.path)
  /-- The import means this file, unless the path of the module ends in a slash. -/
  means : f.specified m config = m.typesFile.place config ↔ (EndsInSlash m.path → m.id = "")
  /-- If it does not mean this file and every id is a name, it means no file of the run. -/
  dangling : EndsInSlash m.path → (∀ m ∈ run, IsName m.id) →
    ∀ owner ∈ run, ∀ file ∈ owner.plan config, file.place config ≠ f.specified m config

/-- What the import of a file means that has types of its own module to import. -/
theorem Loaded.importsTypes {docs : List Documents} {declared run : List Module}
    (h : Loaded docs declared run) {m : Module} (hm : m ∈ run) {config : Config}
    {context : Context} (hcontext : m.context run config = .ok context) {files : List OutputFile}
    (hfiles : m.generate run config .standard = .ok files) {f : LocalFile}
    (hne : f.localTypes context ≠ []) :
    m.ImportsTypes run config files f (f.localTypes context) := by
  have hslash : '/' ∉ f.name.toList := by cases f <;> decide
  obtain ⟨name, hname⟩ := List.exists_mem_of_ne_nil _ hne
  obtain ⟨ref, href, howner⟩ := Module.exists_shows_of_mem_localTypes hcontext hname
  obtain ⟨htypes, hplanned⟩ := h.mem_plan_of_shows hm href howner config
  constructor
  case file =>
    obtain ⟨_, hcontext', hrendered⟩ := bind_eq_ok.mp hfiles
    cases hcontext.symm.trans hcontext'
    obtain ⟨output, houtput, hrender⟩ := exists_mem_of_mem_mapM hrendered hplanned
    obtain ⟨rest, rfl⟩ :=
      LocalFile.exists_content_of_render (Module.module_of_context hcontext) hne hrender
    exact ⟨rest, houtput⟩
  case types =>
    rw [Module.paths_of_generate hfiles]
    exact List.mem_map_of_mem htypes
  case means => exact specifiedPlace_eq_iff (h.id_eq hm) config hslash
  case dangling =>
    intro hend hnames owner howner file hfile hplace
    have hspecified := h.eq_types_of_specified hnames hm hslash howner hfile hplace
    have hempty := (specifiedPlace_eq_iff (h.id_eq hm) config hslash).mp hspecified hend
    exact hnames m hm (hempty ▸ List.mem_cons_self)

/-- **Imports of own types in a loaded run.** A file that uses types of its own module begins with
an import of them, and the module has a file of types. The import means this file exactly if the
path of the module does not end in a slash, or if there is no id; otherwise it means no file of the
run, if the ids are names. -/
theorem localImports_of_load {source : Source} {configs : List ModuleConfig} {run : List Module}
    (h : load source configs = .ok run) {m : Module} (hm : m ∈ run) (config : Config) :
    ∃ context files, m.context run config = .ok context ∧
      m.generate run config .standard = .ok files ∧
      ∀ f : LocalFile, f.localTypes context ≠ [] →
        m.ImportsTypes run config files f (f.localTypes context) := by
  obtain ⟨docs, declared, -, hloaded⟩ := load_eq_ok.mp h
  obtain ⟨files, hfiles⟩ := hloaded.exists_generate hm config
  obtain ⟨context, hcontext, -⟩ := bind_eq_ok.mp hfiles
  exact ⟨context, files, hcontext, hfiles, fun f hne => hloaded.importsTypes hm hcontext hfiles hne⟩

/-- A module with a type that an endpoint produces, and an enum of an argument. -/
theorem localImports_of_load_user : ∃ run m context files, load
      (fun path => .ok (if path = "types" then
          "[[[\"User\",[\"object\",false,null,\x7b\"name\":\"string\"\x7d]]]," ++
            "[[\"Role\",[\"admin\"]]],[]," ++
            "[[\"getUser\",\"GET\",\"/user\",\"public\",null,\"User\"]]]"
        else "[[\"user.create\",\"\",\"create\",\"\",\"\",[\"role\"]," ++
          "[[\"role\",\"\",\"Role\"]],[]]]"))
      [⟨"app/users", some "types", none, some "commands", none⟩] = .ok run ∧ m ∈ run ∧
    m.context run .default = .ok context ∧ m.generate run .default .standard = .ok files ∧
    m.ImportsTypes run .default files .endpoints ["User"] ∧
    m.ImportsTypes run .default files .commands ["Role"] ∧
    ∀ f : LocalFile, f.specified m .default = m.typesFile.place .default := by
  generalize hload : load _ _ = loaded
  have hdata : loaded.toOption.map (fun run => run.map fun m =>
      (m.path, (m.context run .default).toOption.map fun context =>
        (LocalFile.localTypes context .endpoints, LocalFile.localTypes context .commands))) =
      some [("app/users", some (["User"], ["Role"]))] := by
    rw [← hload]
    decide +kernel
  obtain ⟨run, rfl, hrun⟩ := map_toOption_eq_some.mp hdata
  obtain ⟨m, hm, hdata⟩ := List.mem_map.mp (hrun ▸ List.mem_singleton_self _)
  obtain ⟨hpath, hlocal⟩ := Prod.mk.inj hdata
  obtain ⟨context, files, hcontext, hfiles, himports⟩ := localImports_of_load hload hm .default
  rw [hcontext] at hlocal
  obtain ⟨hendpoints, hcommands⟩ := Prod.mk.inj (Option.some.inj hlocal)
  have hendpoint := himports .endpoints (by simp [hendpoints])
  have hcommand := himports .commands (by simp [hcommands])
  rw [hendpoints] at hendpoint
  rw [hcommands] at hcommand
  have hend : EndsInSlash m.path → m.id = "" := by
    rw [hpath]
    intro h
    exact absurd h (by decide)
  refine ⟨run, m, context, files, rfl, hm, hcontext, hfiles, hendpoint, hcommand, fun f => ?_⟩
  cases f with
  | endpoints => exact hendpoint.means.mpr hend
  | commands => exact hcommand.means.mpr hend

/-- A slash behind the path of a module: the file of endpoints imports a type from a file that the
module does not have. -/
theorem exists_dangling_import : ∃ run m files rest, load
      (fun _ => .ok ("[[[\"User\",[\"object\",false,null,\x7b\"name\":\"string\"\x7d]]],[],[]," ++
        "[[\"getUser\",\"GET\",\"/user\",\"public\",null,\"User\"]]]"))
      [⟨"app/users/", some "types", none, none, none⟩] = .ok run ∧ run = [m] ∧
    m.generate run .default .standard = .ok files ∧
    ⟨"frontend/app/users/_endpoints.ts", "// WARNING: generated file, do not edit\n" ++
      "// tslint:disable\nimport \x7b\n\tUser,\n\x7d from './users_types';\n" ++ rest⟩ ∈ files ∧
    specifiedPlace (placeOf "frontend/app/users/_endpoints.ts") "./users_types" =
      ["frontend", "app", "users", "users_types.ts"] ∧
    ∀ file ∈ files, placeOf file.path ≠ ["frontend", "app", "users", "users_types.ts"] := by
  generalize hload : load _ _ = loaded
  have hdata : loaded.toOption.map (fun run => run.map fun m => ((m.id, m.path),
      (m.context run .default).toOption.map fun context => LocalFile.localTypes context .endpoints,
      (m.plan .default).map fun file => placeOf file.path)) =
      some [(("users", "app/users/"), some ["User"],
        [["backend", "app", "users", "restendpoints.gen.go"],
          ["frontend", "app", "users", "_endpoints.ts"],
          ["backend", "app", "users", "types.gen.go"],
          ["frontend", "app", "users", "_types.ts"]])] := by
    rw [← hload]
    decide +kernel
  obtain ⟨run, rfl, hrun⟩ := map_toOption_eq_some.mp hdata
  obtain ⟨m, rfl, hdata⟩ := List.map_eq_singleton_iff.mp hrun
  simp only [Prod.mk.injEq] at hdata
  obtain ⟨⟨hid, hpath⟩, hlocal, hplaces⟩ := hdata
  obtain ⟨docs, declared, -, hloaded⟩ := load_eq_ok.mp hload
  obtain ⟨files, hfiles⟩ := hloaded.exists_generate (List.mem_singleton_self m) .default
  obtain ⟨context, hcontext, -⟩ := bind_eq_ok.mp hfiles
  rw [hcontext] at hlocal
  have hlocal : LocalFile.localTypes context .endpoints = ["User"] := Option.some.inj hlocal
  obtain ⟨rest, hfile⟩ := (hloaded.importsTypes (List.mem_singleton_self m) hcontext hfiles
    (by rw [hlocal]; exact List.cons_ne_nil _ _)).file
  have hbegins : LocalFile.begins m (LocalFile.localTypes context .endpoints) =
      "// WARNING: generated file, do not edit\n" ++
        "// tslint:disable\nimport \x7b\n\tUser,\n\x7d from './users_types';\n" := by
    rw [hlocal, LocalFile.begins, Module.typesSpecifier, hid]
    rfl
  have hplanned : (LocalFile.planned m .endpoints).path = "frontend/app/users/_endpoints.ts" := by
    rw [LocalFile.planned, Module.tsFile, hpath]
    rfl
  rw [hbegins, hplanned] at hfile
  refine ⟨[m], m, files, rest, rfl, rfl, hfiles, hfile, by decide +kernel, fun file hfile => ?_⟩
  have hplace : placeOf file.path ∈ (files.map (·.path)).map placeOf :=
    List.mem_map_of_mem (List.mem_map_of_mem hfile)
  rw [Module.paths_of_generate hfiles, List.map_map] at hplace
  rw [show (m.plan .default).map (placeOf ∘ (·.path)) = _ from hplaces] at hplace
  intro heq
  rw [heq] at hplace
  exact absurd hplace (by decide)

end Specloom
