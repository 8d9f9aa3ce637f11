import Specloom.Context.Imports
import Specloom.Datatype.Texts

/-!
# What the files of events show

Each event is a struct with a constructor; its parameters are the fields, and the meta data last.

## Main definitions

* `EventsSection`, `EventView`: the events of a module as the templates see them
* `goParam`: the name of a constructor's parameter
-/

namespace Specloom

open Template

/-- The keywords of Go. -/
def goKeywords : List String :=
  ["break", "case", "chan", "const", "continue", "default", "defer", "else", "fallthrough", "for",
    "func", "go", "goto", "if", "import", "interface", "map", "package", "range", "return",
    "select", "struct", "switch", "type", "var"]

/-- The name of the parameter for a field: kept apart from keywords and from the meta data. -/
def goParam (key : String) : String :=
  let name := Name.lowerFirst key
  if name = "meta" ∨ goKeywords.contains name then name ++ "_" else name

/-- A field of an event as the templates see it. -/
structure EventFieldView where
  key : String
  goName : String
  goType : String
  goParam : String
  typeName : String
  notes : String
deriving DecidableEq, Repr

instance : ToValue EventFieldView := ⟨fun f => .record [
  ("key", toValue f.key),
  ("go_name", toValue f.goName),
  ("go_type", toValue f.goType),
  ("go_param", toValue f.goParam),
  ("type_name", toValue f.typeName),
  ("notes", toValue f.notes)]⟩

/-- An event as the templates see it. -/
structure EventView where
  key : String
  structName : String
  fields : List EventFieldView
  ctorArgs : String
  changelog : List String
deriving DecidableEq, Repr

instance : ToValue EventView := ⟨fun e => .record [
  ("key", toValue e.key),
  ("struct_name", toValue e.structName),
  ("fields", toValue e.fields),
  ("ctor_args", toValue e.ctorArgs),
  ("changelog", toValue e.changelog)]⟩

/-- What the templates see of a field. -/
def EventField.view (f : EventField) : EventFieldView where
  key := f.key
  goName := Name.upperFirst f.key
  goType := f.type.go
  goParam := Specloom.goParam f.key
  typeName := f.type.ts
  notes := f.notes

/-- The parameters of the constructor, with the meta data last. -/
def Event.ctorArgs (e : Event) : List String :=
  e.fields.map (fun f => goParam f.key ++ " " ++ f.type.go) ++ ["meta event.EventMeta"]

/-- What the templates see of an event. -/
def Event.view (e : Event) : EventView where
  key := e.key
  structName := Name.ofKey e.key
  fields := e.fields.map EventField.view
  ctorArgs := ", ".intercalate e.ctorArgs
  changelog := e.changelog

/-- The events of a module as the templates see them. -/
structure EventsSection where
  imports : ImportNeeds
  modules : List ModuleImport
  events : List EventView
deriving Repr

instance : ToValue EventsSection := ⟨fun s => .record [
  ("imports", toValue s.imports),
  ("modules", toValue s.modules),
  ("events", toValue s.events)]⟩

/-- What a file that shows the events has to import. -/
def Module.eventNeeds (m : Module) : ImportNeeds :=
  .ofTypes (flatten (m.events.flatMap fun e => e.fields.map (·.type)))

/-- What the templates see of the events of a module. -/
def Module.eventsSection (m : Module) (run : List Module) (config : Config) : EventsSection where
  imports := m.eventNeeds
  modules := moduleImports run config m.eventNeeds.modules
  events := m.events.map Event.view

end Specloom
