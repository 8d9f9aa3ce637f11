import Specloom.Config
import Specloom.Document.Commands
import Specloom.Document.Events
import Specloom.Document.Types
import Specloom.Document.UiRoutes
import Specloom.Module.Basic

/-!
# The documents of a module

The documents that a configuration names for a module, read and decoded. A document that is not
named is absent.

## Main definitions

* `Documents`: the documents of a module with their paths
* `Documents.read`: reads the documents that a configuration names
-/

namespace Specloom

open Document Json

/-- A document with the path of its file. -/
structure Sourced (α : Type) where
  path : String
  doc : α

/-- The documents of a module. -/
structure Documents where
  path : String
  types : Option (Sourced TypesDoc)
  events : Option (Sourced EventsDoc)
  commands : Option (Sourced (List CommandDoc))
  uiRoutes : Option (Sourced (List UiRouteDoc))

/-- Where texts come from: the content of the file at a path. -/
abbrev Source := String → Except FileFault String

/-- Reads and decodes a document of the module with a given id. -/
def readDocument {α : Type} (source : Source) (module : String) (decode : Decoder α)
    (path : String) : Except Error α :=
  match source path with
  | .error fault => .error (.unreadable path fault)
  | .ok text =>
    match decodeText decode text with
    | .ok doc => .ok doc
    | .error fault => .error (.undecodable module path (.text fault))

/-- Reads and decodes a document if it is named. -/
def readOptional {α : Type} (source : Source) (module : String) (decode : Decoder α)
    (path : Option String) : Except Error (Option (Sourced α)) :=
  match path with
  | none => .ok none
  | some path => (readDocument source module decode path).map fun doc => some ⟨path, doc⟩

namespace Documents

/-- The id of the module. -/
def id (d : Documents) : String :=
  Name.ofPath d.path

/-- Reads the documents that a configuration names, in the order types, events, commands, routes. -/
def read (source : Source) (config : ModuleConfig) : Except Error Documents := do
  let id := Name.ofPath config.path
  let types ← readOptional source id TypesDoc.record.decode config.types
  let events ← readOptional source id EventsDoc.record.decode config.events
  let commands ← readOptional source id (.list CommandDoc.record.decode) config.commands
  let uiRoutes ← readOptional source id (.list UiRouteDoc.record.decode) config.uiRoutes
  return ⟨config.path, types, events, commands, uiRoutes⟩

/-- Which documents there are. -/
def present (d : Documents) : Presence where
  types := d.types.isSome
  events := d.events.isSome
  commands := d.commands.isSome
  uiRoutes := d.uiRoutes.isSome

end Documents

end Specloom
