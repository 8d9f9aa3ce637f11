import Specloom.Error
import Specloom.FileTree.Path

/-!
# Configurations

A configuration names the modules of a run with their documents, where the output goes, and how the
generated code imports modules and the runtime. Relative paths in it are relative to its directory.

## Main definitions

* `Config`, `ModuleConfig`: a configuration and a module in it, each with its record
* `Config.decode`: the configuration of a text
-/

namespace Specloom

open Json

/-- A module of a run and the paths of its documents. -/
structure ModuleConfig where
  path : String
  types : Option String
  events : Option String
  commands : Option String
  uiRoutes : Option String
deriving DecidableEq, Repr

/-- A configuration. -/
structure Config where
  /-- The directory that output paths are relative to. -/
  outDir : String
  /-- What Go imports of modules begin with. -/
  backendModulePrefix : String
  /-- What TypeScript imports of modules begin with. -/
  frontendModulePrefix : String
  /-- The Go path of the runtime. -/
  backendRuntime : String
  /-- What TypeScript imports of the runtime begin with. -/
  frontendRuntime : String
  /-- Whether documentation is generated too. -/
  docs : Bool
  modules : List ModuleConfig
deriving DecidableEq, Repr

/-- The decoder of paths. -/
def pathDecoder : Decoder String :=
  Decoder.stringAs "path string"

/-- The fields of a module. -/
def ModuleConfig.record : Record ModuleConfig where
  name := "ModuleConfig"
  types := [String, Option String, Option String, Option String, Option String]
  fields :=
    .cons (.required "path" .string) <|
    .cons (.default "types" (.option pathDecoder) none) <|
    .cons (.default "events" (.option pathDecoder) none) <|
    .cons (.default "commands" (.option pathDecoder) none) <|
    .cons (.default "ui_routes" (.option pathDecoder) none) .nil
  make := fun (path, types, events, commands, uiRoutes, ()) =>
    ⟨path, types, events, commands, uiRoutes⟩

/-- The configuration of an empty document. -/
def Config.default : Config where
  outDir := "."
  backendModulePrefix := ""
  frontendModulePrefix := ""
  backendRuntime := "github.com/eventkit/eventkit"
  frontendRuntime := "eventkit/"
  docs := false
  modules := []

/-- The fields of a configuration. -/
def Config.record : Record Config where
  name := "CodegenConfig"
  types := [String, String, String, String, String, Bool, List ModuleConfig]
  fields :=
    .cons (.default "out_dir" pathDecoder Config.default.outDir) <|
    .cons (.default "backend_module_prefix" .string Config.default.backendModulePrefix) <|
    .cons (.default "frontend_module_prefix" .string Config.default.frontendModulePrefix) <|
    .cons (.default "backend_runtime_package" .string Config.default.backendRuntime) <|
    .cons (.default "frontend_runtime_package" .string Config.default.frontendRuntime) <|
    .cons (.default "autogenerate_module_docs" .bool Config.default.docs) <|
    .cons (.default "modules" (.list ModuleConfig.record.decode) []) .nil
  make := fun (outDir, backendPrefix, frontendPrefix, backend, frontend, docs, modules, ()) =>
    ⟨outDir, backendPrefix, frontendPrefix, backend, frontend, docs, modules⟩

/-- The module with its paths relative to a directory. -/
def ModuleConfig.under (base : String) (m : ModuleConfig) : ModuleConfig :=
  let resolve := Option.map (joinPath base)
  { m with
    types := resolve m.types
    events := resolve m.events
    commands := resolve m.commands
    uiRoutes := resolve m.uiRoutes }

/-- The configuration with its paths relative to a directory. -/
def Config.under (base : String) (c : Config) : Config :=
  { c with outDir := joinPath base c.outDir, modules := c.modules.map (·.under base) }

/-- The configuration that the text of a file holds. -/
def Config.decode (path text : String) : Except Error Config :=
  match decodeText Config.record.decode text with
  | .ok config => .ok (config.under (parentPath path))
  | .error fault => .error (.invalidConfig path fault)

end Specloom
