import Specloom.Proofs.FileTree.Settled
import Specloom.Proofs.Module.Loaded
import Specloom.Proofs.Output.Published

/-!
# Running again

A second run after one that succeeded reads the same documents, renders the same files and finds
them published already. So it reports the same and leaves the tree as it is.

## Main definitions

* `ModuleConfig.documents`: the documents that a configuration names for a module

## Main results

* `publishAll_again`: publishing files again
* `generateAll_eq_ok_iff`: what it takes to generate all modules
* `Documents.read_mono`: modules are read again where their documents are
* `Config.generateOn_again`: a second run
-/

namespace Specloom

open FileTree (Rewrites Settled)

variable {host : Host} {config : Config} {helpers : Template.Helpers} {outDir : String}
  {run modules : List Module} {files : List OutputFile} {paths : List String}
  {tree tree' tree'' : FileTree}

/-! ## Publishing files again -/

theorem paths_of_publishAll (h : publishAll host outDir tree files = (tree', .ok paths)) :
    paths = files.map fun file => (file.placed outDir).1 := by
  induction files generalizing tree paths with
  | nil =>
    cases h
    rfl
  | cons file rest ih =>
    obtain ⟨between, paths', -, hrest, rfl⟩ := publishAll_cons_eq_ok.mp h
    rw [ih hrest]
    rfl

/-- Files that were published can be replaced, those published before others too. -/
theorem settled_of_publishAll (hsteady : host.Steady)
    (h : publishAll host outDir tree files = (tree', .ok paths)) :
    ∀ file ∈ files, ∃ directory target,
      tree'.Settled host (file.placed outDir).1 directory target := by
  induction files generalizing tree paths with
  | nil => exact List.forall_mem_nil _
  | cons file rest ih =>
    obtain ⟨between, paths', hpublish, hrest, rfl⟩ := publishAll_cons_eq_ok.mp h
    obtain ⟨directory, target, hsettled⟩ := FileTree.settled_of_publishOn hsteady hpublish
    exact List.forall_mem_cons.mpr
      ⟨⟨directory, target, hsettled.mono (publishes_of_publishAll hrest).stays⟩, ih hrest⟩

/-- Files that can be replaced are published, and nothing changes but what files hold. -/
theorem exists_publishAll_of_settled
    (h : ∀ file ∈ files, ∃ directory target,
      tree.Settled host (file.placed outDir).1 directory target) :
    ∃ tree' paths, publishAll host outDir tree files = (tree', .ok paths) ∧
      tree.Rewrites tree' := by
  induction files generalizing tree with
  | nil => exact ⟨tree, [], rfl, .refl tree⟩
  | cons file rest ih =>
    obtain ⟨⟨directory, target, hsettled⟩, hrest⟩ := List.forall_mem_cons.mp h
    obtain ⟨between, hpublish, hfirst⟩ := hsettled.publishOn (file.placed outDir).2
    obtain ⟨tree', paths, hall, hothers⟩ := ih fun file hfile => by
      obtain ⟨directory, target, hsettled⟩ := hrest file hfile
      exact ⟨directory, target, hsettled.mono hfirst.stays⟩
    exact ⟨tree', _, publishAll_cons_eq_ok.mpr ⟨between, paths, hpublish, hall, rfl⟩,
      hfirst.trans hothers⟩

/-- **Publishing files again** leaves the tree as it is. -/
theorem publishAll_again (hsteady : host.Steady)
    (h : publishAll host outDir tree files = (tree', .ok paths)) :
    ∃ tree'', publishAll host outDir tree' files = (tree'', .ok paths) ∧
      ∀ place, tree''.find? place = tree'.find? place := by
  obtain ⟨tree'', paths', hagain, hrewrites⟩ :=
    exists_publishAll_of_settled (settled_of_publishAll hsteady h)
  rw [paths_of_publishAll h, ← paths_of_publishAll hagain]
  exact ⟨tree'', hagain,
    (publishes_of_publishAll h).find?_eq (publishes_of_publishAll hagain) hrewrites⟩

/-! ## Generating modules again -/

theorem publishAll_append_eq_ok {first second : List OutputFile} :
    publishAll host outDir tree (first ++ second) = (tree'', .ok paths) ↔
      ∃ tree' paths₁ paths₂, publishAll host outDir tree first = (tree', .ok paths₁) ∧
        publishAll host outDir tree' second = (tree'', .ok paths₂) ∧ paths = paths₁ ++ paths₂ := by
  constructor
  · intro h
    induction first generalizing tree paths with
    | nil => exact ⟨tree, [], paths, rfl, h, rfl⟩
    | cons file rest ih =>
      obtain ⟨between, paths', hpublish, hrest, rfl⟩ := publishAll_cons_eq_ok.mp h
      obtain ⟨tree', paths₁, paths₂, hfirst, hsecond, rfl⟩ := ih hrest
      exact ⟨tree', _, paths₂,
        publishAll_cons_eq_ok.mpr ⟨between, paths₁, hpublish, hfirst, rfl⟩, hsecond, rfl⟩
  · rintro ⟨tree', paths₁, paths₂, hfirst, hsecond, rfl⟩
    exact publishAll_append hfirst hsecond

/-- **What it takes to generate all modules**: those with documents are rendered, and then all of
their files are published. -/
theorem generateAll_eq_ok_iff {report : Report} :
    generateAll host config helpers run tree modules = (tree', .ok report) ↔
      ∃ outputs paths, (modules.filter (·.present.any)).mapM (·.generate run config helpers) =
          .ok outputs ∧
        publishAll host config.outDir tree outputs.flatten = (tree', .ok paths) ∧
        report = ⟨outputs.length, paths⟩ := by
  constructor
  · intro h
    obtain ⟨published, hgenerates⟩ := exists_generates host config helpers run modules tree
    rw [h] at hgenerates
    cases hgenerates with
    | done outputs hrendered hpublish => exact ⟨outputs, _, hrendered, hpublish, rfl⟩
  · rintro ⟨outputs, paths, hrendered, hpublish, rfl⟩
    induction modules generalizing tree outputs paths with
    | nil =>
      cases hrendered
      cases hpublish
      rfl
    | cons m rest ih =>
      by_cases hpresent : m.present.any
      · rw [List.filter_cons_of_pos (by exact hpresent), mapM_eq_ok] at hrendered
        obtain ⟨files, outputs, hfiles, hrest, rfl⟩ := List.forall₂_cons_left_iff.mp hrendered
        obtain ⟨between, paths₁, paths₂, hfirst, hsecond, rfl⟩ :=
          publishAll_append_eq_ok.mp hpublish
        simp only [generateAll, hpresent, hfiles, hfirst,
          ih _ _ (mapM_eq_ok.mpr hrest) hsecond]
        rfl
      · rw [List.filter_cons_of_neg (by exact hpresent)] at hrendered
        simp only [generateAll, hpresent, ih _ _ hrendered hpublish]
        rfl

/-! ## Reading documents again -/

/-- The documents that a configuration names for a module. -/
def ModuleConfig.documents (m : ModuleConfig) : List String :=
  m.types.toList ++ m.events.toList ++ m.commands.toList ++ m.uiRoutes.toList

theorem readOptional_mono {α : Type} {source source' : Source} {module : String}
    {decode : Json.Decoder α} {path : Option String} {doc : Option (Sourced α)}
    (h : ∀ p ∈ path, ∀ text, source p = .ok text → source' p = .ok text)
    (hread : readOptional source module decode path = .ok doc) :
    readOptional source' module decode path = .ok doc := by
  cases path with
  | none => exact hread
  | some path =>
    cases htext : source path with
    | error fault =>
      simp only [readOptional, readDocument, htext] at hread
      cases hread
    | ok text =>
      have htext' := h path rfl text htext
      simpa only [readOptional, readDocument, htext, htext'] using hread

/-- A module is read again where its documents are. -/
theorem Documents.read_mono {source source' : Source} {m : ModuleConfig} {d : Documents}
    (h : ∀ path ∈ m.documents, ∀ text, source path = .ok text → source' path = .ok text)
    (hread : Documents.read source m = .ok d) : Documents.read source' m = .ok d := by
  simp only [ModuleConfig.documents, List.forall_mem_append, Option.mem_toList] at h
  obtain ⟨⟨⟨htypes, hevents⟩, hcommands⟩, hroutes⟩ := h
  unfold Documents.read at hread ⊢
  simp only [bind_eq_ok] at hread ⊢
  obtain ⟨types, h₁, events, h₂, commands, h₃, routes, h₄, hd⟩ := hread
  exact ⟨types, readOptional_mono htypes h₁, events, readOptional_mono hevents h₂, commands,
    readOptional_mono hcommands h₃, routes, readOptional_mono hroutes h₄, hd⟩

/-- The modules of a run are loaded again where their documents are. -/
theorem load_mono {source source' : Source} {configs : List ModuleConfig}
    (h : ∀ m ∈ configs, ∀ path ∈ m.documents, ∀ text, source path = .ok text →
      source' path = .ok text)
    (hload : load source configs = .ok run) : load source' configs = .ok run := by
  obtain ⟨docs, hdocs, hall⟩ := bind_eq_ok.mp hload
  have hread := (List.forall₂_and_left _ _).mpr ⟨h, mapM_eq_ok.mp hdocs⟩
  exact bind_eq_ok.mpr ⟨docs, mapM_eq_ok.mpr (hread.imp fun _ _ ⟨hm, hd⟩ =>
    Documents.read_mono hm hd), hall⟩

/-! ## The second run -/

/-- **A second run changes nothing.** Where a run succeeds that replaces none of its own documents,
on a host that grants again what it has granted, running it again succeeds with the same report and
leaves everything in the tree as it is. -/
theorem Config.generateOn_again (hsteady : host.Steady) {report : Report}
    (h : config.generateOn host helpers tree = (tree', .ok report))
    (hdocuments : ∀ m ∈ config.modules, ∀ document ∈ m.documents, ∀ path ∈ report.files,
      tree'.walk document ≠ tree'.walk path) :
    ∃ tree'', config.generateOn host helpers tree' = (tree'', .ok report) ∧
      ∀ place, tree''.find? place = tree'.find? place := by
  unfold generateOn at h ⊢
  split at h
  · cases h
  rename_i run hcheck
  obtain ⟨outputs, paths, hrendered, hpublish, rfl⟩ := generateAll_eq_ok_iff.mp h
  have hpublishes := publishes_of_publishAll hpublish
  -- no file was put in the place of a document, so the documents are read as before
  have hcheck' : config.check tree' = .ok run := by
    refine load_mono (fun m hm document hdocument text htext => ?_) hcheck
    refine hpublishes.readText htext fun file hfile => ?_
    obtain ⟨output, houtput, rfl⟩ := List.mem_map.mp hfile
    refine hdocuments m hm document hdocument _ ?_
    rw [paths_of_publishAll hpublish]
    exact List.mem_map_of_mem houtput
  obtain ⟨tree'', hagain, hsame⟩ := publishAll_again hsteady hpublish
  refine ⟨tree'', ?_, hsame⟩
  rw [hcheck']
  exact generateAll_eq_ok_iff.mpr ⟨outputs, paths, hrendered, hagain, rfl⟩

/-- A module with an enum, whose document lies beside the output directory. -/
theorem Config.generateOn_again_enum : ∃ tree' tree'',
    Config.generateOn ⟨"out", "", "", "rt", "rt/", false, [⟨"m", some "t.json", none, none, none⟩]⟩
        .plain .standard ⟨[(["t.json"], .file "[[],[[\"E\",[]]],[],[]]".toUTF8)]⟩ =
      (tree', .ok ⟨1, ["out/backend/m/types.gen.go", "out/frontend/m_types.ts"]⟩) ∧
    Config.generateOn ⟨"out", "", "", "rt", "rt/", false, [⟨"m", some "t.json", none, none, none⟩]⟩
        .plain .standard tree' =
      (tree'', .ok ⟨1, ["out/backend/m/types.gen.go", "out/frontend/m_types.ts"]⟩) ∧
    ∀ place, tree''.find? place = tree'.find? place := by
  generalize hrun : Config.generateOn _ _ _ _ = result
  have hreport : result.2.toOption =
      some ⟨1, ["out/backend/m/types.gen.go", "out/frontend/m_types.ts"]⟩ := by
    rw [← hrun]
    decide +kernel
  have hdocument : ∀ path ∈ ["out/backend/m/types.gen.go", "out/frontend/m_types.ts"],
      result.1.walk "t.json" ≠ result.1.walk path := by
    rw [← hrun]
    decide +kernel
  obtain ⟨tree', _ | report⟩ := result
  · cases hreport
  · cases hreport
    obtain ⟨tree'', hagain, hsame⟩ := Config.generateOn_again Host.steady_plain hrun (by
      intro m hm document hdoc
      rw [List.mem_singleton.mp hm] at hdoc
      rw [List.mem_singleton.mp hdoc]
      exact hdocument)
    exact ⟨tree', tree'', rfl, hagain, hsame⟩

end Specloom
