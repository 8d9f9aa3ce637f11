import Specloom.FileTree.Publish
import Specloom.Module.Load
import Specloom.Output.Files

/-!
# Runs

A run loads and checks all modules of a configuration before it writes anything. Then it generates
and publishes module by module; the first error ends it, and what is published stays.

## Main definitions

* `Config.load`: the configuration in a file of a tree
* `Config.check`: the modules of a configuration
* `Config.generateOn`, `Config.generate`: a run on a host, and on one that refuses nothing
-/

namespace Specloom

/-- The configuration in a file. -/
def Config.load (tree : FileTree) (path : String) : Except Error Config :=
  match tree.readText path with
  | .ok text => Config.decode path text
  | .error fault => .error (.unreadable path fault)

/-- The modules of a configuration, loaded and checked. -/
def Config.check (config : Config) (tree : FileTree) : Except Error (List Module) :=
  Specloom.load tree.readText config.modules

/-- What a run has done: the number of modules with output, and the files in order. -/
structure Report where
  modules : Nat
  files : List String
deriving DecidableEq, Repr

/-- Publishes files one after the other. The paths of those published are returned with the tree
afterwards and the error, if any. -/
def publishAll (host : Host) (outDir : String) (tree : FileTree) :
    List OutputFile → FileTree × Except Error (List String)
  | [] => (tree, .ok [])
  | file :: rest =>
    let path := joinPath outDir file.path
    match tree.publishOn host path (.ok file.content.toUTF8) with
    | (tree, .error e) => (tree, .error e)
    | (tree, .ok ()) =>
      match publishAll host outDir tree rest with
      | (tree, .error e) => (tree, .error e)
      | (tree, .ok paths) => (tree, .ok (path :: paths))

/-- Generates and publishes the modules of a run one after the other. A module without documents is
passed over. -/
def generateAll (host : Host) (config : Config) (helpers : Template.Helpers) (run : List Module)
    (tree : FileTree) : List Module → FileTree × Except Error Report
  | [] => (tree, .ok ⟨0, []⟩)
  | m :: rest =>
    if !m.present.any then generateAll host config helpers run tree rest
    else
      match m.generate run config helpers with
      | .error e => (tree, .error e)
      | .ok files =>
        match publishAll host config.outDir tree files with
        | (tree, .error e) => (tree, .error e)
        | (tree, .ok paths) =>
          match generateAll host config helpers run tree rest with
          | (tree, .error e) => (tree, .error e)
          | (tree, .ok report) => (tree, .ok ⟨report.modules + 1, paths ++ report.files⟩)

/-- A run on a host: the tree afterwards, and what was done or the first error. -/
def Config.generateOn (config : Config) (host : Host) (helpers : Template.Helpers)
    (tree : FileTree) : FileTree × Except Error Report :=
  match config.check tree with
  | .error e => (tree, .error e)
  | .ok run => generateAll host config helpers run tree run

/-- A run on a host that refuses nothing. -/
def Config.generate (config : Config) (helpers : Template.Helpers) (tree : FileTree) :
    FileTree × Except Error Report :=
  config.generateOn .plain helpers tree

end Specloom
