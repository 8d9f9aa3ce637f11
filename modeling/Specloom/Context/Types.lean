import Specloom.Context.Imports
import Specloom.Datatype.Texts

/-!
# What the files of types show

## Main definitions

* `TypesSection`: the types, enums and constants of a module as the templates see them
-/

namespace Specloom

open Template

/-- A named type with its declarations. -/
structure TypeDeclaration where
  name : String
  go : String
  ts : String
deriving DecidableEq, Repr

instance : ToValue TypeDeclaration := ⟨fun d => .record [
  ("name", toValue d.name),
  ("go", toValue d.go),
  ("ts", toValue d.ts)]⟩

instance : ToValue Member := ⟨fun m => .record [
  ("key", toValue m.key),
  ("go_const", toValue m.goConst),
  ("value", toValue m.value)]⟩

instance : ToValue EnumDecl := ⟨fun e => .record [
  ("name", toValue e.name),
  ("members", toValue e.allMembers),
  ("digest", toValue e.digest)]⟩

instance : ToValue StringConst := ⟨fun c => .record [
  ("key", toValue c.key),
  ("value", toValue c.value)]⟩

/-- The types, enums and constants of a module as the templates see them. -/
structure TypesSection where
  imports : ImportNeeds
  modules : List ModuleImport
  enums : List EnumDecl
  declarations : List TypeDeclaration
  stringConsts : List StringConst
deriving Repr

instance : ToValue TypesSection := ⟨fun s => .record [
  ("imports", toValue s.imports),
  ("modules", toValue s.modules),
  ("enums", toValue s.enums),
  ("declarations", toValue s.declarations),
  ("string_consts", toValue s.stringConsts)]⟩

/-- The declarations of a named type. -/
def NamedType.declaration (t : NamedType) : TypeDeclaration where
  name := t.name
  go := goDeclaration t.name t.type
  ts := tsDeclaration t.name t.type

/-- What a file that shows the named types has to import. -/
def Module.typeNeeds (m : Module) : ImportNeeds :=
  .ofTypes (flatten (m.types.map (·.type)))

/-- What the templates see of the types of a module. -/
def Module.typesSection (m : Module) (run : List Module) (config : Config) : TypesSection where
  imports := m.typeNeeds
  modules := moduleImports run config m.typeNeeds.modules
  enums := m.enums
  declarations := m.types.map NamedType.declaration
  stringConsts := m.stringConsts

end Specloom
