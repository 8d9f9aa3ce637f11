import Specloom.Proofs.Checked
import Specloom.Proofs.FileTree.Publish
import Specloom.Run

/-!
# What a run leaves

A run publishes files one after the other until the first error. Whenever it ends, the files that it
has published are found whole, and nothing else has changed except that directories were made.

## Main definitions

* `Generates`, `Config.Ends`: the ways in which a run ends, with the files published so far

## Main results

* `publishes_of_publishAll`, `exists_of_publishAll`: publishing files one after the other
* `exists_generates`: generating modules one after the other
* `Config.exists_ends`: a run
-/

namespace Specloom

open FileTree (Publishes)

variable {host : Host} {config : Config} {helpers : Template.Helpers} {outDir : String}
  {run modules : List Module} {m : Module} {files : List OutputFile} {paths : List String}
  {tree tree' tree'' : FileTree} {e : Error}

/-! ## Publishing files -/

/-- Where a file is published, and what. -/
def OutputFile.placed (outDir : String) (file : OutputFile) : String × ByteArray :=
  (joinPath outDir file.path, file.content.toUTF8)

theorem publishAll_cons_eq_ok {file : OutputFile} {rest : List OutputFile} :
    publishAll host outDir tree (file :: rest) = (tree'', .ok paths) ↔
      ∃ tree' paths', tree.publishOn host (file.placed outDir).1
          (.ok (file.placed outDir).2) = (tree', .ok ()) ∧
        publishAll host outDir tree' rest = (tree'', .ok paths') ∧
        paths = (file.placed outDir).1 :: paths' := by
  rw [publishAll]
  constructor
  · intro h
    split at h
    · cases h
    rename_i tree' hpublish
    split at h
    · cases h
    rename_i paths' hrest
    cases h
    exact ⟨tree', paths', hpublish, hrest, rfl⟩
  · rintro ⟨tree', paths', hpublish, hrest, rfl⟩
    unfold OutputFile.placed at hpublish
    rw [hpublish]
    dsimp only
    rw [hrest]
    rfl

theorem publishes_of_publishAll (h : publishAll host outDir tree files = (tree', .ok paths)) :
    Publishes (files.map (·.placed outDir)) tree tree' := by
  induction files generalizing tree paths with
  | nil =>
    cases h
    exact (FileTree.Grows.refl _).publishes
  | cons file rest ih =>
    obtain ⟨between, paths', hpublish, hrest, rfl⟩ := publishAll_cons_eq_ok.mp h
    exact (FileTree.publishes_of_publishOn hpublish).append (ih hrest)

theorem publishAll_append {first second : List OutputFile} {paths paths' : List String}
    (h : publishAll host outDir tree first = (tree', .ok paths))
    (h' : publishAll host outDir tree' second = (tree'', .ok paths')) :
    publishAll host outDir tree (first ++ second) = (tree'', .ok (paths ++ paths')) := by
  induction first generalizing tree paths with
  | nil =>
    cases h
    exact h'
  | cons file rest ih =>
    obtain ⟨between, paths'', hpublish, hrest, rfl⟩ := publishAll_cons_eq_ok.mp h
    exact publishAll_cons_eq_ok.mpr ⟨between, _, hpublish, ih hrest, rfl⟩

/-- Publishing ends with the first file that is not published. -/
theorem exists_of_publishAll (h : publishAll host outDir tree files = (tree', .error e)) :
    ∃ earlier file later between paths, files = earlier ++ file :: later ∧
      publishAll host outDir tree earlier = (between, .ok paths) ∧
      between.publishOn host (file.placed outDir).1 (.ok (file.placed outDir).2) =
        (tree', .error e) := by
  induction files generalizing tree with
  | nil => cases h
  | cons file rest ih =>
    rw [publishAll] at h
    split at h
    · rename_i hpublish
      cases h
      exact ⟨[], file, rest, tree, [], rfl, rfl, hpublish⟩
    rename_i hpublish
    split at h
    · rename_i hrest
      cases h
      obtain ⟨earlier, failed, later, between, paths, rfl, hearlier, hfailed⟩ := ih hrest
      have hcons := publishAll_cons_eq_ok.mpr ⟨_, paths, hpublish, hearlier, rfl⟩
      exact ⟨file :: earlier, failed, later, between, _, rfl, hcons, hfailed⟩
    · cases h

/-! ## Generating modules -/

/-- How generating modules one after the other ends, which all have documents: the files published
by then, the tree afterwards and the result. -/
inductive Generates (host : Host) (config : Config) (helpers : Template.Helpers)
    (run modules : List Module) (tree : FileTree) :
    List OutputFile → FileTree × Except Error Report → Prop
  /-- A module is not rendered. The files of the modules before it are published. -/
  | notRendered (before : List Module) (m : Module) (after : List Module)
      (outputs : List (List OutputFile)) {paths : List String} {tree' : FileTree} {e : Error} :
      modules = before ++ m :: after →
      before.mapM (·.generate run config helpers) = .ok outputs →
      m.generate run config helpers = .error e →
      publishAll host config.outDir tree outputs.flatten = (tree', .ok paths) →
      Generates host config helpers run modules tree outputs.flatten (tree', .error e)
  /-- A file of a module is not published. The files before it are. -/
  | notPublished (before : List Module) (m : Module) (after : List Module)
      (outputs : List (List OutputFile)) (earlier : List OutputFile) {file : OutputFile}
      {later : List OutputFile} {paths : List String} {between tree' : FileTree} {e : Error} :
      modules = before ++ m :: after →
      before.mapM (·.generate run config helpers) = .ok outputs →
      m.generate run config helpers = .ok (earlier ++ file :: later) →
      publishAll host config.outDir tree (outputs.flatten ++ earlier) = (between, .ok paths) →
      between.publishOn host (file.placed config.outDir).1
        (.ok (file.placed config.outDir).2) = (tree', .error e) →
      Generates host config helpers run modules tree (outputs.flatten ++ earlier)
        (tree', .error e)
  /-- All files of all modules are published. -/
  | done (outputs : List (List OutputFile)) {paths : List String} {tree' : FileTree} :
      modules.mapM (·.generate run config helpers) = .ok outputs →
      publishAll host config.outDir tree outputs.flatten = (tree', .ok paths) →
      Generates host config helpers run modules tree outputs.flatten
        (tree', .ok ⟨outputs.length, paths⟩)

/-- One more module at the begin. -/
theorem Generates.cons {published : List OutputFile} {result : Except Error Report}
    (hfiles : m.generate run config helpers = .ok files)
    (hpublish : publishAll host config.outDir tree files = (tree', .ok paths))
    (h : Generates host config helpers run modules tree' published (tree'', result)) :
    Generates host config helpers run (m :: modules) tree (files ++ published)
      (tree'', result.map fun report => ⟨report.modules + 1, paths ++ report.files⟩) := by
  have houtputs : ∀ {before outputs}, before.mapM (·.generate run config helpers) = .ok outputs →
      (m :: before).mapM (·.generate run config helpers) = .ok (files :: outputs) := by
    intro before outputs hbefore
    rw [mapM_eq_ok] at hbefore ⊢
    exact .cons hfiles hbefore
  cases h with
  | notRendered before failed after outputs hmodules hbefore hfailed hpublished =>
    exact .notRendered (m :: before) failed after (files :: outputs) (by rw [hmodules]; rfl)
      (houtputs hbefore) hfailed (publishAll_append hpublish hpublished)
  | notPublished before failed after outputs earlier hmodules hbefore hrendered hpublished
      hfailed =>
    have hall := publishAll_append hpublish hpublished
    rw [← List.append_assoc] at hall ⊢
    exact .notPublished (m :: before) failed after (files :: outputs) earlier
      (by rw [hmodules]; rfl) (houtputs hbefore) hrendered hall hfailed
  | done outputs hmodules hpublished =>
    exact .done (files :: outputs) (houtputs hmodules) (publishAll_append hpublish hpublished)

theorem exists_generates (host : Host) (config : Config) (helpers : Template.Helpers)
    (run modules : List Module) (tree : FileTree) :
    ∃ published, Generates host config helpers run (modules.filter (·.present.any)) tree published
      (generateAll host config helpers run tree modules) := by
  induction modules generalizing tree with
  | nil => exact ⟨_, .done [] rfl rfl⟩
  | cons m rest ih =>
    rw [generateAll]
    split
    -- a module without documents
    · rename_i hpresent
      rw [List.filter_cons_of_neg (by simpa using hpresent)]
      exact ih tree
    rename_i hpresent
    rw [List.filter_cons_of_pos (by simpa using hpresent)]
    split
    · rename_i hfailed
      exact ⟨[], .notRendered [] m _ [] rfl rfl hfailed rfl⟩
    rename_i files hfiles
    split
    · rename_i hpublish
      obtain ⟨earlier, file, later, between, paths, rfl, hearlier, hfailed⟩ :=
        exists_of_publishAll hpublish
      exact ⟨_, .notPublished [] m _ [] earlier rfl rfl hfiles hearlier hfailed⟩
    rename_i between paths hpublish
    obtain ⟨published, hrest⟩ := ih between
    refine ⟨files ++ published, ?_⟩
    split
    · rename_i hresult
      rw [hresult] at hrest
      exact .cons hfiles hpublish hrest
    · rename_i hresult
      rw [hresult] at hrest
      exact .cons hfiles hpublish hrest

/-- The files that are published are found whole, however generating them ends. -/
theorem Generates.publishes {published : List OutputFile} {result : Except Error Report}
    (h : Generates host config helpers run modules tree published (tree', result)) :
    Publishes (published.map (·.placed config.outDir)) tree tree' := by
  cases h with
  | notRendered _ _ _ _ _ _ _ hpublished => exact publishes_of_publishAll hpublished
  | notPublished _ _ _ _ _ _ _ _ hpublished hfailed =>
    -- what fails leaves no file, so it publishes none
    rw [← List.append_nil (List.map _ _)]
    exact (publishes_of_publishAll hpublished).append
      (FileTree.grows_of_publishOn hfailed).publishes
  | done _ _ hpublished => exact publishes_of_publishAll hpublished

/-! ## Runs -/

/-- How a run ends: the files published by then, the tree afterwards and the result. -/
inductive Config.Ends (config : Config) (host : Host) (helpers : Template.Helpers)
    (tree : FileTree) : List OutputFile → FileTree × Except Error Report → Prop
  /-- The modules are not loaded. The tree is left as it is. -/
  | notLoaded {e : Error} :
      config.check tree = .error e → config.Ends host helpers tree [] (tree, .error e)
  /-- The modules are loaded, and those with documents are generated. -/
  | loaded {run : List Module} {published : List OutputFile}
      {result : FileTree × Except Error Report} :
      config.check tree = .ok run →
      Generates host config helpers run (run.filter (·.present.any)) tree published result →
      config.Ends host helpers tree published result

/-- **A run leaves what it has published, and nothing else.** A run ends because the modules are not
loaded, because a module is not rendered, because a file is not published, or because all is done.
Whichever it is, the files that were published by then are found whole, and all that has changed
elsewhere is that directories were made: files keep their content, that of the failure included, and
no temporary file is left. -/
theorem Config.exists_ends (config : Config) (host : Host) (helpers : Template.Helpers)
    (tree : FileTree) :
    ∃ published, config.Ends host helpers tree published (config.generateOn host helpers tree) ∧
      Publishes (published.map (·.placed config.outDir)) tree
        (config.generateOn host helpers tree).1 := by
  rw [generateOn]
  split
  · rename_i hcheck
    exact ⟨[], .notLoaded hcheck, (FileTree.Grows.refl tree).publishes⟩
  · rename_i run hcheck
    obtain ⟨published, hgenerates⟩ := exists_generates host config helpers run run tree
    exact ⟨published, .loaded hcheck hgenerates, hgenerates.publishes⟩

end Specloom
