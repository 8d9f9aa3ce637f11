import Specloom.Proofs.Module.Loaded
import Specloom.Proofs.Output.Published
import Specloom.Proofs.Output.Rendered

/-!
# Runs after loading

Once the modules of a run are loaded, nothing that depends on them can fail any more: what is left
to go wrong is the writing of files.

## Main results

* `category_of_generateAll`: what fails while files are published
* `generate_of_load`: a run after loading, on every host
-/

namespace Specloom

/-- Publishing fails with errors of the file system only. -/
theorem FileTree.category_of_publishOn {host : Host} {tree tree' : FileTree} {path : String}
    {content : Except String ByteArray} {e : Error}
    (h : tree.publishOn host path content = (tree', .error e)) : e.category = .fileSystem := by
  rw [publishOn] at h
  split at h
  · cases h
    rfl
  split at h
  · cases h
    rfl
  split at h
  · cases h
  · cases h
    rfl

/-- If the files of all modules are rendered, generating fails with errors of the file system
only. -/
theorem category_of_generateAll {host : Host} {config : Config} {helpers : Template.Helpers}
    {run modules : List Module} {tree tree' : FileTree}
    (hmodules : ∀ m ∈ modules, ∃ files, m.generate run config helpers = .ok files) {e : Error}
    (h : generateAll host config helpers run tree modules = (tree', .error e)) :
    e.category = .fileSystem := by
  obtain ⟨published, hends⟩ := exists_generates host config helpers run modules tree
  rw [h] at hends
  cases hends with
  | notRendered before m after outputs hpresent _ hfailed =>
    have hm : m ∈ modules.filter (·.present.any) := by simp [hpresent]
    obtain ⟨files, hfiles⟩ := hmodules m (List.mem_of_mem_filter hm)
    rw [hfiles] at hfailed
    cases hfailed
  | notPublished _ _ _ _ _ _ _ _ _ hfailed => exact FileTree.category_of_publishOn hfailed

/-- **After loading, only writing can fail.** Every module of a loaded run has a context and all of
its files are rendered, whatever the configuration says of prefixes and documentation; and on every
host, whatever it refuses, a run whose modules load fails with errors of the file system only. -/
theorem generate_of_load {source : Source} {configs : List ModuleConfig} {run : List Module}
    (h : load source configs = .ok run) :
    (∀ config : Config, ∀ m ∈ run, (∃ context, m.context run config = .ok context) ∧
      ∃ files, m.generate run config .standard = .ok files) ∧
    ∀ (host : Host) (config : Config) (tree : FileTree), config.modules = configs →
      tree.readText = source → ∀ tree' e,
        config.generateOn host .standard tree = (tree', .error e) → e.category = .fileSystem := by
  obtain ⟨docs, declared, -, hloaded⟩ := load_eq_ok.mp h
  -- All that rendering needs is that the commands are accepted, which loading has checked.
  have hcommands : ∀ m ∈ run, ∀ c ∈ m.commands, m.checkCommand c = .ok () :=
    fun m hm => (Module.check_eq_ok.mp (hloaded.check m hm)).2.2
  constructor
  · intro config m hm
    exact ⟨m.exists_context (hcommands m hm) run config,
      m.exists_generate (hcommands m hm) run config⟩
  · rintro host config tree rfl rfl tree' e he
    -- the check before generating is the same load
    have hcheck : config.check tree = .ok run := h
    rw [Config.generateOn, hcheck] at he
    exact category_of_generateAll
      (fun m hm => m.exists_generate (hcommands m hm) run config) he

/-- A module with an enum and a command that has a field of it, whose documents lie beside the
output directory: it loads, and no file of it is written on a host that lets nothing be changed. -/
theorem generate_of_load_enum :
    (∃ run, load
        (FileTree.readText ⟨[(["t.json"], .file "[[],[[\"E\",[]]],[],[]]".toUTF8),
          (["c.json"], .file ("[[\"x\",\"\",\"create\",\"\",\"\",[]," ++
            "[[\"f\",\"\",\"E\",\"\",\"\",7,false,false,\"\",\"\"]],[]]]").toUTF8)]⟩)
        [⟨"a", some "t.json", none, some "c.json", none⟩] = .ok run ∧
      ∀ config : Config, ∀ m ∈ run, (∃ context, m.context run config = .ok context) ∧
        ∃ files, m.generate run config .standard = .ok files) ∧
    ∃ tree' e, Config.generateOn
        ⟨"out", "", "", "rt", "rt/", true, [⟨"a", some "t.json", none, some "c.json", none⟩]⟩
        { Host.plain with refusal? := fun _ _ => some "Read-only file system" } .standard
        ⟨[(["t.json"], .file "[[],[[\"E\",[]]],[],[]]".toUTF8),
          (["c.json"], .file ("[[\"x\",\"\",\"create\",\"\",\"\",[]," ++
            "[[\"f\",\"\",\"E\",\"\",\"\",7,false,false,\"\",\"\"]],[]]]").toUTF8)]⟩ =
          (tree', .error e) ∧ e.category = .fileSystem := by
  generalize hload : load _ _ = loaded
  have hok : loaded.isOk = true := by
    rw [← hload]
    decide +kernel
  generalize hrun : Config.generateOn _ _ _ _ = result
  have hfails : result.2.isOk = false := by
    rw [← hrun]
    decide +kernel
  cases loaded with
  | error e => cases hok
  | ok run =>
    obtain ⟨hrendered, hpublished⟩ := generate_of_load hload
    obtain ⟨tree', e | report⟩ := result
    · exact ⟨⟨run, rfl, hrendered⟩, tree', e, rfl, hpublished _ _ _ rfl rfl tree' e hrun⟩
    · cases hfails

end Specloom
