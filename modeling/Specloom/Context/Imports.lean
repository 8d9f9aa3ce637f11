import Specloom.Config
import Specloom.Datatype.Flatten
import Specloom.Module.Basic

/-!
# Imports of generated files

What a generated file imports: the modules that its types belong to, and helpers for some of the
built-in types.

## Main definitions

* `ModuleImport`: another module of the run, as generated code imports it
* `moduleImports`: the imports of the modules with given ids
-/

namespace Specloom

open Template

/-- Another module of the run, as generated code imports it. -/
structure ModuleImport where
  id : String
  goPath : String
  tsPath : String
deriving DecidableEq, Repr

instance : ToValue ModuleImport := ⟨fun m => .record [
  ("id", toValue m.id),
  ("go_path", toValue m.goPath),
  ("ts_path", toValue m.tsPath)]⟩

/-- A module as generated code imports it. -/
def Module.import (config : Config) (m : Module) : ModuleImport where
  id := m.id
  goPath := config.backendModulePrefix ++ m.path
  tsPath := config.frontendModulePrefix ++ m.path ++ "_types"

/-- The imports of the modules with given ids; an id that is not of the run has none. -/
def moduleImports (run : List Module) (config : Config) (ids : List String) : List ModuleImport :=
  ids.filterMap fun id => (run.find? (·.id == id)).map (Module.import config)

instance : ToValue ImportNeeds := ⟨fun i => .record [
  ("flags", .record [
    ("date", toValue i.date),
    ("datetime", toValue i.datetime),
    ("binary", toValue i.binary)]),
  ("module_ids", toValue i.modules),
  ("local_types", toValue i.localTypes)]⟩

end Specloom
