import Specloom.Context.Module
import Specloom.Proofs.Template.Shape

/-!
# The shape of a context

What templates see of a module has the same shape for every module: every field of every view is
there, and what is a list in one module is a list in all of them. So each type of a view has its
shape, made of the shapes of its fields.

## Main definitions

* `Shaped`, `shapeOf`: types all of whose values have one shape
* `contextShapes`: the shapes of the names at hand in the templates of a module

## Main results

* `Context.admits_fields`: a context has these shapes
-/

namespace Specloom

open Template

namespace Template

/-- Types all of whose values in templates have one shape. For a record whose fields have the shapes
of their types, this is proved field by field. -/
class Shaped (α : Type) [ToValue α] where
  /-- The shape of the values. -/
  shape : Shape
  admits (a : α) : shape.Admits (toValue a) := by
    intro a
    refine admits_record ?_
    repeat' refine admitsFields_cons ?_
    trivial

/-- The shape of the values of a type. -/
abbrev shapeOf (α : Type) [ToValue α] [Shaped α] : Shape :=
  Shaped.shape α

instance : Shaped String := ⟨.any, fun _ => trivial⟩

instance : Shaped Bool := ⟨.any, fun _ => trivial⟩

instance : Shaped Nat := ⟨.any, fun _ => trivial⟩

instance {α : Type} [ToValue α] [Shaped α] : Shaped (List α) where
  shape := .list (shapeOf α)
  admits xs := by
    intro v hv
    obtain ⟨x, -, rfl⟩ := List.mem_map.mp hv
    exact Shaped.admits x

instance {α : Type} [ToValue α] [Shaped α] : Shaped (Option α) where
  shape := .optional (shapeOf α)
  admits
    | none => trivial
    | some x => (Shaped.admits x).optional

/-- A field of a record, and the fields after it. -/
theorem admitsFields_cons {α : Type} [ToValue α] [Shaped α] {key : String} {a : α}
    {shapes : Shapes} {fields : List (String × Value)} (h : admitsFields shapes fields) :
    admitsFields ((key, shapeOf α) :: shapes) ((key, toValue a) :: fields) :=
  ⟨rfl, Shaped.admits a, h⟩

theorem admits_record {shapes : Shapes} {fields : List (String × Value)}
    (h : admitsFields shapes fields) : (Shape.record shapes).Admits (.record fields) :=
  h

end Template

/-! ## Commands -/

instance : Shaped GoFieldView where
  shape := .record [
    ("name", shapeOf String),
    ("go_type", shapeOf String),
    ("key", shapeOf String)]

instance : Shaped RegexpView where
  shape := .record [
    ("var", shapeOf String),
    ("pattern", shapeOf String)]

instance : Shaped DocFieldView where
  shape := .record [
    ("key", shapeOf String),
    ("type_tag", shapeOf String),
    ("required", shapeOf Bool),
    ("help", shapeOf String)]

instance : Shaped CommandView where
  shape := .record [
    ("key", shapeOf String),
    ("struct_name", shapeOf String),
    ("title", shapeOf String),
    ("crud_nature", shapeOf String),
    ("additional_confirmation", shapeOf (Option String)),
    ("chain", shapeOf String),
    ("info", shapeOf (List String)),
    ("go_fields", shapeOf (List GoFieldView)),
    ("go_validation", shapeOf String),
    ("regexps", shapeOf (List RegexpView)),
    ("ts_ctor_args", shapeOf String),
    ("ts_fields", shapeOf (List String)),
    ("doc_fields", shapeOf (List DocFieldView))]

instance : Shaped ModuleImport where
  shape := .record [
    ("id", shapeOf String),
    ("go_path", shapeOf String),
    ("ts_path", shapeOf String)]

instance : Shaped CommandNeeds where
  shape := .record [
    ("date", shapeOf Bool),
    ("regexp", shapeOf Bool),
    ("strings", shapeOf Bool),
    ("utf8", shapeOf Bool),
    ("go_module_ids", shapeOf (List String)),
    ("ts_date", shapeOf Bool),
    ("ts_local_types", shapeOf (List String)),
    ("ts_module_ids", shapeOf (List String))]

instance : Shaped CommandsSection where
  shape := .record [
    ("imports", shapeOf CommandNeeds),
    ("go_modules", shapeOf (List ModuleImport)),
    ("ts_modules", shapeOf (List ModuleImport)),
    ("commands", shapeOf (List CommandView))]

/-! ## Endpoints -/

instance : Shaped ImportNeeds where
  shape := .record [
    ("flags", .record [
      ("date", shapeOf Bool),
      ("datetime", shapeOf Bool),
      ("binary", shapeOf Bool)]),
    ("module_ids", shapeOf (List String)),
    ("local_types", shapeOf (List String))]
  admits i := by
    refine admits_record ⟨rfl, admits_record ?_, ?_⟩
    all_goals
      repeat' refine admitsFields_cons ?_
      trivial

instance : Shaped TypeTexts where
  shape := .record [
    ("go", shapeOf String),
    ("ts", shapeOf String)]

instance : Shaped EndpointView where
  shape := .record [
    ("name", shapeOf String),
    ("name_upper", shapeOf String),
    ("method", shapeOf String),
    ("path_raw", shapeOf String),
    ("registration_path", shapeOf String),
    ("chain", shapeOf String),
    ("description", shapeOf String),
    ("consumes", shapeOf (Option TypeTexts)),
    ("produces", shapeOf (Option TypeTexts)),
    ("go_args", shapeOf String),
    ("go_url", shapeOf String),
    ("go_handler_signature", shapeOf String),
    ("go_handler_call_args", shapeOf String),
    ("ts_args", shapeOf String),
    ("ts_result", shapeOf String),
    ("ts_url_args", shapeOf String),
    ("ts_path", shapeOf String)]

instance : Shaped EndpointsSection where
  shape := .record [
    ("imports", shapeOf ImportNeeds),
    ("modules", shapeOf (List ModuleImport)),
    ("uses_url_escape", shapeOf Bool),
    ("endpoints", shapeOf (List EndpointView))]

/-! ## Events -/

instance : Shaped EventFieldView where
  shape := .record [
    ("key", shapeOf String),
    ("go_name", shapeOf String),
    ("go_type", shapeOf String),
    ("go_param", shapeOf String),
    ("type_name", shapeOf String),
    ("notes", shapeOf String)]

instance : Shaped EventView where
  shape := .record [
    ("key", shapeOf String),
    ("struct_name", shapeOf String),
    ("fields", shapeOf (List EventFieldView)),
    ("ctor_args", shapeOf String),
    ("changelog", shapeOf (List String))]

instance : Shaped EventsSection where
  shape := .record [
    ("imports", shapeOf ImportNeeds),
    ("modules", shapeOf (List ModuleImport)),
    ("events", shapeOf (List EventView))]

/-! ## Types -/

instance : Shaped TypeDeclaration where
  shape := .record [
    ("name", shapeOf String),
    ("go", shapeOf String),
    ("ts", shapeOf String)]

instance : Shaped Member where
  shape := .record [
    ("key", shapeOf String),
    ("go_const", shapeOf String),
    ("value", shapeOf String)]

instance : Shaped EnumDecl where
  shape := .record [
    ("name", shapeOf String),
    ("members", shapeOf (List Member)),
    ("digest", shapeOf String)]

instance : Shaped StringConst where
  shape := .record [
    ("key", shapeOf String),
    ("value", shapeOf String)]

instance : Shaped TypesSection where
  shape := .record [
    ("imports", shapeOf ImportNeeds),
    ("modules", shapeOf (List ModuleImport)),
    ("enums", shapeOf (List EnumDecl)),
    ("declarations", shapeOf (List TypeDeclaration)),
    ("string_consts", shapeOf (List StringConst))]

/-! ## Routes -/

instance : Shaped Route.PlaceholderView where
  shape := .record [
    ("name", shapeOf String),
    ("group", shapeOf Nat)]

instance : Shaped Route.QueryView where
  shape := .record [
    ("key", shapeOf String),
    ("integer", shapeOf Bool),
    ("nullable", shapeOf Bool),
    ("ts_type", shapeOf String),
    ("decoder", shapeOf String)]

instance : Shaped Route.UiRouteView where
  shape := .record [
    ("id", shapeOf String),
    ("opts_name", shapeOf String),
    ("has_opts", shapeOf Bool),
    ("path_raw", shapeOf String),
    ("backend_path", shapeOf (Option String)),
    ("js_regex", shapeOf String),
    ("ts_path", shapeOf String),
    ("placeholders", shapeOf (List Route.PlaceholderView)),
    ("query", shapeOf (List Route.QueryView))]

instance : Shaped UiRoutesSection where
  shape := .record [
    ("routes", shapeOf (List Route.UiRouteView)),
    ("route_union", shapeOf String)]

/-! ## Modules -/

/-- The shapes of the names at hand in the templates of a module. -/
def contextShapes : Shapes := [
  ("module", .record [
    ("id", shapeOf String),
    ("path", shapeOf String)]),
  ("opts", .record [
    ("backend_module_prefix", shapeOf String),
    ("frontend_module_prefix", shapeOf String),
    ("backend_runtime_package", shapeOf String),
    ("frontend_runtime_package", shapeOf String)]),
  ("types", shapeOf TypesSection),
  ("events", shapeOf EventsSection),
  ("commands", shapeOf CommandsSection),
  ("endpoints", shapeOf EndpointsSection),
  ("ui_routes", shapeOf UiRoutesSection)]

/-- **A context has the shape of all contexts.** -/
theorem Context.admits_fields (c : Context) : contextShapes.Admits c.fields := by
  have hfields : admitsFields contextShapes c.fields := by
    refine ⟨rfl, admits_record ?_, rfl, admits_record ?_, ?_⟩
    all_goals
      repeat' refine admitsFields_cons ?_
      trivial
  exact fun n s hs => hfields.lookup hs

end Specloom
