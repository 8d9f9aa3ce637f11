import Mathlib.Data.List.Flatten
import Mathlib.Data.List.Nodup
import Specloom.Proofs.Context.Imports
import Specloom.Proofs.FileTree.Place
import Specloom.Proofs.Output.Rerun

/-!
# The places of generated files

The place of a file tells which file it is: its last names hold the id of the module and the kind
of the file. So no two files of a run have the same place, as long as every id is a name. An id that
is empty or made of dots is none, and can send files to the place of another module's.

## Main definitions

* `outputs`, `outputPath`: the files that a module can have
* `origin`: what a place tells about the file there

## Main results

* `origin_outputPath`: the place of a file tells its module and its kind
* `nodup_places`: the files of a module have different places
* `exists_same_place`: files of different modules can have the same place
* `places_of_load`: they have different places if every id is a name
-/

namespace Specloom

open FileTree (names)
open Text

/-! ## Paths of files -/

/-- The files that a module can have: their kinds and names. -/
def outputs : List (OutputKind × String) :=
  [(.go, "commands"), (.typescript, "commands"), (.markdown, "commands"),
    (.go, "events"), (.markdown, "events"),
    (.go, "restendpoints"), (.typescript, "endpoints"), (.markdown, "rest_endpoints"),
    (.go, "types"), (.typescript, "types"), (.markdown, "types"),
    (.go, "uiroutes"), (.typescript, "uiroutes")]

/-- The path of a file of the module at a path. -/
def outputPath (path : String) : OutputKind × String → String
  | (.go, name) => "backend/" ++ path ++ "/" ++ name ++ ".gen.go"
  | (.typescript, name) => "frontend/" ++ path ++ "_" ++ name ++ ".ts"
  | (.markdown, name) => "docs/" ++ path ++ "/" ++ name ++ ".md"

/-- The name of a file without what it has of its module. -/
def tag : OutputKind × String → String
  | (.go, name) => name ++ ".gen.go"
  | (.typescript, name) => name ++ ".ts"
  | (.markdown, name) => name ++ ".md"

theorem map_filesIf_sublist (present : Bool) {files : List PlannedFile} {paths : List String}
    (h : (files.map (·.path)).Sublist paths) :
    ((filesIf present files).map (·.path)).Sublist paths := by
  cases present with
  | false => exact List.nil_sublist paths
  | true => exact h

/-- Files with their documentation, if it is asked for. -/
theorem Module.map_docFile_sublist (m : Module) (config : Config) (name : String)
    (template : Template) (files : List PlannedFile) :
    ((files ++ m.docFile config name template).map (·.path)).Sublist
      (files.map (·.path) ++ [outputPath m.path (.markdown, name)]) := by
  rw [List.map_append]
  refine (List.Sublist.refl _).append ?_
  unfold Module.docFile
  split
  · exact List.Sublist.refl _
  · exact List.nil_sublist _

/-- The files of a module are some of those that it can have, in order. -/
theorem Module.plan_sublist (m : Module) (config : Config) :
    ((m.plan config).map (·.path)).Sublist (outputs.map (outputPath m.path)) := by
  have hdoc := m.map_docFile_sublist config
  unfold Module.plan
  simp only [List.map_append]
  exact ((((map_filesIf_sublist _ (hdoc "commands" _ [_, _])).append
    (map_filesIf_sublist _ (hdoc "events" _ [_]))).append
    (map_filesIf_sublist _ (hdoc "rest_endpoints" _ [_, _]))).append
    (map_filesIf_sublist _ (hdoc "types" _ [_, _]))).append
    (map_filesIf_sublist _ (List.Sublist.refl _))

/-! ## What a place tells -/

/-- What a place tells about the file there: the id of its module, and its name without that. -/
def origin (place : Place) : String × String :=
  let name := place.getLastD ""
  let directory := place.dropLast.getLastD ""
  if ".ts".toList <:+ name.toList then
    match splitLast? '_' name.toList with
    | some ([], kind) => (directory, String.ofList kind)
    | some (id, kind) => (String.ofList id, String.ofList kind)
    | none => (directory, name)
  else (directory, name)

example : origin ["frontend", "server", "users_types.ts"] = ("users", "types.ts") := by decide

theorem origin_of_not_suffix {name : String} (h : ¬ ".ts".toList <:+ name.toList) (place : Place) :
    origin (place ++ [name]) = (place.getLastD "", name) := by
  rw [origin, List.getLastD_concat, List.dropLast_concat]
  exact if_neg h

theorem origin_of_suffix {name : String} (h : '_' ∉ name.toList)
    (hsuffix : ".ts".toList <:+ name.toList) (id : String) (place : Place) :
    origin (place ++ [id ++ "_" ++ name]) = (if id = "" then place.getLastD "" else id, name) := by
  have hname : (id ++ "_" ++ name).toList = id.toList ++ '_' :: name.toList := by
    simp [String.toList_append]
  have hcut : splitLast? '_' (id.toList ++ '_' :: name.toList) = some (id.toList, name.toList) :=
    splitLast?_eq_some_iff.mpr ⟨rfl, h⟩
  rw [origin, List.getLastD_concat, List.dropLast_concat, hname,
    if_pos (hsuffix.trans ⟨id.toList ++ ['_'], by simp⟩), hcut]
  by_cases hid : id = ""
  · rw [if_pos hid, hid]
    simp
  · rw [if_neg hid]
    cases hlist : id.toList with
    | nil => exact absurd (String.toList_eq_nil_iff.mp hlist) hid
    | cons c cs => simp [← hlist]

/-- Paths behind a directory of the output. -/
theorem exists_placeOf_joinPath (base : String) {root : String}
    (h : root.toList.head?.any (· ≠ '/')) : ∃ place, ∀ rest,
    placeOf (joinPath base (root ++ "/" ++ rest)) = placeFrom place (names rest) := by
  have hhead (rest : String) : (root ++ "/" ++ rest).toList.head? ≠ some '/' := by
    cases hroot : root.toList with
    | nil => simp [hroot] at h
    | cons c cs => simpa [String.toList_append, hroot] using h
  obtain ⟨before, hbefore⟩ := exists_names_joinPath base
  refine ⟨placeFrom [] (before ++ names root), fun rest => ?_⟩
  rw [placeOf, hbefore _ (hhead rest), names_slash, ← List.append_assoc, placeFrom_append]

/-- The last name of a file, in the directory of its module. -/
theorem origin_placeOf_directory (base : String) {root file : String}
    (h : root.toList.head?.any (· ≠ '/')) (hslash : '/' ∉ file.toList) (hname : IsName file)
    (hts : ¬ ".ts".toList <:+ file.toList) (path : String) :
    ∃ directory, origin (placeOf (joinPath base (root ++ "/" ++ (path ++ "/" ++ file)))) =
        (directory, file) ∧ (IsName (Name.ofPath path) → directory = Name.ofPath path) := by
  obtain ⟨place, hplace⟩ := exists_placeOf_joinPath base h
  rw [hplace, names_slash, names_of_not_mem hslash, placeFrom_append, placeFrom_singleton hname,
    origin_of_not_suffix hts]
  exact ⟨_, rfl, fun hid => getLastD_placeFrom_names hid place⟩

/-- The last name of a file that begins with the id of its module. -/
theorem origin_placeOf_typescript (base : String) {root name : String}
    (h : root.toList.head?.any (· ≠ '/')) (hslash : '/' ∉ name.toList) (hlow : '_' ∉ name.toList)
    (hts : ".ts".toList <:+ name.toList) (path : String) :
    ∃ directory, origin (placeOf (joinPath base (root ++ "/" ++ (path ++ "_" ++ name)))) =
        (directory, name) ∧ (IsName (Name.ofPath path) → directory = Name.ofPath path) := by
  obtain ⟨place, hplace⟩ := exists_placeOf_joinPath base h
  rw [hplace, String.append_assoc]
  have htail : '/' ∉ ("_" ++ name).toList := by simpa [String.toList_append] using hslash
  have hlength : 2 < ("_" ++ name).length := by
    have hle : 3 ≤ name.length := hts.length_le
    rw [String.length_append]
    omega
  obtain ⟨before, hnames | ⟨slashes, hnames⟩⟩ := names_append_cases path
  · -- the id stands before the name
    rw [hnames _ htail, placeFrom_append, placeFrom_singleton (isName_append hlength _),
      ← String.append_assoc, origin_of_suffix hlow hts]
    refine ⟨_, rfl, fun hid => if_neg ?_⟩
    rintro hempty
    exact hid (hempty ▸ List.mem_cons_self)
  · -- the id is a name of its own
    have hname : IsName ("_" ++ name) := by
      rw [← String.empty_append (s := "_" ++ name)]
      exact isName_append hlength ""
    rw [hnames _ htail, ← List.singleton_append, placeFrom_append, placeFrom_append,
      placeFrom_append, placeFrom_replicate, placeFrom_singleton hname,
      ← String.empty_append (s := "_"), origin_of_suffix hlow hts, if_pos rfl]
    refine ⟨_, rfl, fun hid => ?_⟩
    rw [placeFrom_singleton hid, List.getLastD_concat]

theorem outputPath_eq (path : String) (output : OutputKind × String) :
    outputPath path output = match output with
      | (.go, _) => "backend" ++ "/" ++ (path ++ "/" ++ tag output)
      | (.typescript, _) => "frontend" ++ "/" ++ (path ++ "_" ++ tag output)
      | (.markdown, _) => "docs" ++ "/" ++ (path ++ "/" ++ tag output) := by
  obtain ⟨_ | _ | _, name⟩ := output
  · rw [outputPath, tag, show "backend/" = "backend" ++ "/" from rfl]
    simp only [String.append_assoc]
  · rw [outputPath, tag, show "frontend/" = "frontend" ++ "/" from rfl]
    simp only [String.append_assoc]
  · rw [outputPath, tag, show "docs/" = "docs" ++ "/" from rfl]
    simp only [String.append_assoc]

/-- **The place of a file tells** which file of a module it is, and which module, if its id is a
name. -/
theorem origin_outputPath (base path : String) {output : OutputKind × String}
    (h : output ∈ outputs) :
    ∃ directory, origin (placeOf (joinPath base (outputPath path output))) =
        (directory, tag output) ∧ (IsName (Name.ofPath path) → directory = Name.ofPath path) := by
  have htags : ∀ output ∈ outputs, '/' ∉ (tag output).toList ∧ IsName (tag output) ∧
      if output.1 = .typescript then
        '_' ∉ (tag output).toList ∧ ".ts".toList <:+ (tag output).toList
      else ¬ ".ts".toList <:+ (tag output).toList := by
    decide
  obtain ⟨hslash, hname, hts⟩ := htags output h
  rw [outputPath_eq]
  obtain ⟨_ | _ | _, name⟩ := output
  · exact origin_placeOf_directory base (by decide) hslash hname hts path
  · exact origin_placeOf_typescript base (by decide) hslash hts.1 hts.2 path
  · exact origin_placeOf_directory base (by decide) hslash hname hts path

/-! ## Distinct places -/

/-- The place of a file of a run. -/
def PlannedFile.place (config : Config) (file : PlannedFile) : Place :=
  placeOf (joinPath config.outDir file.path)

theorem map_place_sublist (m : Module) (config : Config) :
    ((m.plan config).map (·.place config)).Sublist
      (outputs.map fun output => placeOf (joinPath config.outDir (outputPath m.path output))) := by
  have hsub := (m.plan_sublist config).map fun path => placeOf (joinPath config.outDir path)
  rwa [List.map_map, List.map_map] at hsub

theorem nodup_tags : (outputs.map tag).Nodup := by
  decide

/-- **The files of a module have different places**, whatever its id is. -/
theorem nodup_places (m : Module) (config : Config) :
    ((m.plan config).map (·.place config)).Nodup := by
  refine List.Nodup.sublist (map_place_sublist m config) ?_
  refine List.Nodup.of_map (fun p => (origin p).2) ?_
  rw [List.map_map]
  have htags : outputs.map ((fun p => (origin p).2) ∘ fun output =>
      placeOf (joinPath config.outDir (outputPath m.path output))) = outputs.map tag := by
    refine List.map_congr_left fun output houtput => ?_
    obtain ⟨directory, horigin, -⟩ := origin_outputPath config.outDir m.path houtput
    exact congrArg Prod.snd horigin
  rw [htags]
  exact nodup_tags

/-- The id of a module is the last name of its path. -/
theorem Loaded.id_eq {docs : List Documents} {declared run : List Module}
    (h : Loaded docs declared run) {m : Module} (hm : m ∈ run) : m.id = Name.ofPath m.path := by
  obtain ⟨d, -, m', -, hdeclare, hcommands⟩ := h.exists_documents hm
  obtain ⟨hid, hpath, -⟩ := Documents.header_of_declare hdeclare
  rw [(Documents.addCommands_eq_ok hcommands).1]
  change m'.id = Name.ofPath m'.path
  rw [hid, hpath, Documents.id]

/-- The places of the files of a module tell its id, if that is a name. -/
theorem fst_origin_of_mem {m : Module} (hid : m.id = Name.ofPath m.path) (hname : IsName m.id)
    {config : Config} {place : Place} (h : place ∈ (m.plan config).map (·.place config)) :
    (origin place).1 = m.id := by
  obtain ⟨output, houtput, rfl⟩ := List.mem_map.mp ((map_place_sublist m config).subset h)
  obtain ⟨directory, horigin, hdirectory⟩ := origin_outputPath config.outDir m.path houtput
  rw [horigin, hid]
  exact hdirectory (hid ▸ hname)

/-- The files of a run have different places, if every id is a name. -/
theorem Loaded.nodup_places {docs : List Documents} {declared run : List Module}
    (h : Loaded docs declared run) (hnames : ∀ m ∈ run, IsName m.id) (config : Config) :
    (run.flatMap fun m => (m.plan config).map (·.place config)).Nodup := by
  rw [List.nodup_flatMap]
  refine ⟨fun m _ => Specloom.nodup_places m config, ?_⟩
  refine (List.pairwise_map.mp h.nodup_ids).imp_of_mem fun {m m'} hm hm' hne => ?_
  intro place hplace hplace'
  rw [← fst_origin_of_mem (h.id_eq hm) (hnames m hm) hplace,
    ← fst_origin_of_mem (h.id_eq hm') (hnames m' hm') hplace'] at hne
  exact hne rfl

/-! ## Published files -/

/-- The files that a run publishes are planned, in order. -/
theorem map_path_flatten {config : Config} {helpers : Template.Helpers} {run modules : List Module}
    {rendered : List (List OutputFile)}
    (h : modules.mapM (·.generate run config helpers) = .ok rendered) :
    rendered.flatten.map (·.path) = modules.flatMap fun m => (m.plan config).map (·.path) := by
  rw [mapM_eq_ok] at h
  induction h with
  | nil => rfl
  | cons hm _ ih =>
    rw [List.flatten_cons, List.map_append, List.flatMap_cons, ih, Module.paths_of_generate hm]

/-- Files with different places keep their contents. -/
theorem FileTree.Publishes.find?_of_nodup {files : List (String × ByteArray)} {t t' : FileTree}
    (h : Publishes files t t') (hnodup : (files.map fun file => placeOf file.1).Nodup)
    {path : String} {bytes : ByteArray} (hfile : (path, bytes) ∈ files) :
    ∃ place, t'.walk path = .ok place ∧ t'.find? place = some (.file bytes) := by
  obtain ⟨before, after, rfl⟩ := List.append_of_mem hfile
  obtain ⟨place, hwalk, hcontent⟩ := h.content before path bytes after rfl
  refine ⟨place, hwalk, hcontent fun later hlater hwalk' => ?_⟩
  rw [List.map_append, List.map_cons, List.nodup_append] at hnodup
  refine (List.nodup_cons.mp hnodup.2.1).1 ?_
  rw [placeOf_of_walk hwalk, ← placeOf_of_walk hwalk']
  exact List.mem_map_of_mem hlater

/-- An id that is made of a dot: the types of both modules are published at the same place, so what
is published for the second module replaces what was published for the first. -/
theorem exists_same_place : ∃ tree',
    Config.generate ⟨"out", "", "", "rt", "rt/", false,
        [⟨"a", some "t.json", none, none, none⟩, ⟨"a/.", some "t.json", none, none, none⟩]⟩
        .standard ⟨[(["t.json"], .file "[[],[[\"E\",[]]],[],[]]".toUTF8)]⟩ =
      (tree', .ok ⟨2, ["out/backend/a/types.gen.go", "out/frontend/a_types.ts",
        "out/backend/a/./types.gen.go", "out/frontend/a/._types.ts"]⟩) ∧
    tree'.walk "out/backend/a/types.gen.go" = .ok ["out", "backend", "a", "types.gen.go"] ∧
    tree'.walk "out/backend/a/./types.gen.go" = .ok ["out", "backend", "a", "types.gen.go"] := by
  generalize hrun : Config.generate _ _ _ = result
  have hreport : result.2.toOption = some ⟨2, ["out/backend/a/types.gen.go",
      "out/frontend/a_types.ts", "out/backend/a/./types.gen.go", "out/frontend/a/._types.ts"]⟩ := by
    rw [← hrun]
    decide +kernel
  have hplace : result.1.walk "out/backend/a/types.gen.go" =
        .ok ["out", "backend", "a", "types.gen.go"] ∧
      result.1.walk "out/backend/a/./types.gen.go" =
        .ok ["out", "backend", "a", "types.gen.go"] := by
    rw [← hrun]
    decide +kernel
  obtain ⟨tree', _ | report⟩ := result
  · cases hreport
  · cases hreport
    exact ⟨tree', rfl, hplace⟩

/-- **Files have different places if every id is a name.** Then every file of a run has a place of
its own, so after a run that succeeds each is found with its own content. -/
theorem places_of_load {source : Source} {configs : List ModuleConfig} {run : List Module}
    (h : load source configs = .ok run) (hnames : ∀ m ∈ run, IsName m.id) (config : Config) :
    (run.flatMap fun m => (m.plan config).map (·.place config)).Nodup ∧
    ∀ host helpers tree tree' report, config.modules = configs → tree.readText = source →
      config.generateOn host helpers tree = (tree', .ok report) →
      ∀ m ∈ run, m.present.any → ∃ files, m.generate run config helpers = .ok files ∧
        ∀ file ∈ files, ∃ place, tree'.walk (joinPath config.outDir file.path) = .ok place ∧
          tree'.find? place = some (.file file.content.toUTF8) := by
  obtain ⟨docs, declared, -, hloaded⟩ := load_eq_ok.mp h
  have hnodup := hloaded.nodup_places hnames config
  refine ⟨hnodup, ?_⟩
  rintro host helpers tree tree' report rfl rfl hrun m hm hpresent
  have hcheck : config.check tree = .ok run := h
  rw [Config.generateOn, hcheck] at hrun
  obtain ⟨rendered, paths, hrendered, hpublish, rfl⟩ := generateAll_eq_ok_iff.mp hrun
  obtain ⟨files, hmem, hfiles⟩ := exists_mem_of_mem_mapM hrendered
    (List.mem_filter.mpr ⟨hm, by simpa using hpresent⟩)
  refine ⟨files, hfiles, fun file hfile => ?_⟩
  refine (publishes_of_publishAll hpublish).find?_of_nodup ?_
    (List.mem_map_of_mem (List.mem_flatten_of_mem hmem hfile))
  -- the published files are the planned ones of the modules with documents
  have hplaces : (rendered.flatten.map (·.placed config.outDir)).map (fun file => placeOf file.1) =
      (run.filter (·.present.any)).flatMap fun m => (m.plan config).map (·.place config) := by
    have hpaths := congrArg (List.map fun path => placeOf (joinPath config.outDir path))
      (map_path_flatten hrendered)
    simp only [List.map_map, List.map_flatMap] at hpaths
    rw [List.map_map]
    exact hpaths
  rw [hplaces]
  exact hnodup.sublist (List.filter_sublist.flatMap _)

/-- Two modules whose paths end with the same names but for the ids, one with a slash behind it. -/
theorem places_of_load_slash :
    ∃ run, load (fun _ => .ok "[[],[[\"E\",[]]],[],[]]")
        [⟨"a/types", some "types", none, none, none⟩, ⟨"a//b/", some "types", none, none, none⟩] =
        .ok run ∧
      (∀ m ∈ run, IsName m.id) ∧
      (run.flatMap fun m => (m.plan .default).map (·.place .default)).Nodup := by
  generalize hload : load _ _ = loaded
  have hids : loaded.toOption.map (·.map (·.id)) = some ["types", "b"] := by
    rw [← hload]
    decide +kernel
  cases loaded with
  | error e => cases hids
  | ok run =>
    have hnames : ∀ m ∈ run, IsName m.id := by
      intro m hm
      have hmem : m.id ∈ ["types", "b"] := Option.some.inj hids ▸ List.mem_map_of_mem hm
      rcases List.mem_pair.mp hmem with hid | hid <;> rw [hid] <;> decide
    exact ⟨run, rfl, hnames, (places_of_load hload hnames .default).1⟩

end Specloom
