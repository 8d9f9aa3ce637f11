import Specloom.Datatype.OfDocument
import Specloom.Module.Basic
import Specloom.Module.Documents

/-!
# The declarations of a module

The documents of a module become a module in two steps. Declarations come first and need no other
module; commands come second, since the type of a field can be a type or an enum of any module of
the run.

## Main definitions

* `Documents.declare`: a module without its commands
* `Command.ofDoc`: a command, given the modules of the run
* `UiRoute.ofDoc`: a route of the frontend
-/

namespace Specloom

open Document Specloom.Path Route

/-! ### Types, endpoints and events -/

/-- A named type. -/
def NamedType.ofDoc (module : String) (doc : NamedTypeDoc) : Except Error NamedType :=
  (Datatype.ofDoc module (.type doc.name) doc.type).map (⟨doc.name, ·⟩)

/-- An endpoint of the document at a path: its method is read first, then its path, and its
datatypes last. -/
def Endpoint.ofDoc (module path : String) (doc : EndpointDoc) : Except Error Endpoint :=
  match HttpMethod.ofName? doc.method with
  | none => .error (.undecodable module path (.method doc.name doc.method))
  | some method =>
    match PathTemplate.parse doc.path with
    | .error fault => .error (.invalidPath module (.endpoint doc.name) doc.path fault)
    | .ok template => do
      let consumes ← Datatype.ofOptionalDoc module (.consumes doc.name) doc.consumes
      let produces ← Datatype.ofOptionalDoc module (.produces doc.name) doc.produces
      return ⟨doc.name, method, template, doc.chain, consumes, produces, doc.description⟩

/-- A field of an event. -/
def EventField.ofDoc (module event : String) (doc : EventFieldDoc) : Except Error EventField :=
  (Datatype.ofDoc module (.eventField event doc.key) doc.type).map (⟨doc.key, ·, doc.notes⟩)

/-- An event. -/
def Event.ofDoc (module : String) (doc : EventDoc) : Except Error Event :=
  (doc.fields.mapM (EventField.ofDoc module doc.event)).map (⟨doc.event, ·, doc.changelog⟩)

/-! ### Routes -/

/-- A query parameter of a route of the document at a path. -/
def QueryParam.ofDoc (module path route : String) (doc : QueryParamDoc) :
    Except Error QueryParam :=
  match ParamKind.ofName? doc.type with
  | some kind => .ok ⟨doc.key, kind, doc.nullable⟩
  | none => .error (.undecodable module path (.paramType route doc.key doc.type))

/-- A route of the document at a path. What stands in the query of its path template is a required
string parameter, ahead of the declared ones. -/
def UiRoute.ofDoc (module path : String) (doc : UiRouteDoc) : Except Error UiRoute :=
  match PathTemplate.parse doc.path with
  | .error fault => .error (.invalidPath module (.route doc.id) doc.path fault)
  | .ok template => do
    let declared ← doc.query.mapM (QueryParam.ofDoc module path doc.id)
    let inPath := template.query.map fun (key, _) => (⟨key, .string, false⟩ : QueryParam)
    return ⟨doc.id, { template with query := [] }, inPath ++ declared⟩

/-! ### Modules without commands -/

/-- The module of some documents, but for its commands. -/
def Documents.declare (d : Documents) : Except Error Module := do
  let typesDoc := (d.types.map (·.doc)).getD ⟨[], [], [], []⟩
  let typesPath := (d.types.map (·.path)).getD ""
  let eventsDoc := (d.events.map (·.doc)).getD ⟨[]⟩
  let routesDoc := (d.uiRoutes.map (·.doc)).getD []
  let routesPath := (d.uiRoutes.map (·.path)).getD ""
  let types ← typesDoc.types.mapM (NamedType.ofDoc d.id)
  let endpoints ← typesDoc.endpoints.mapM (Endpoint.ofDoc d.id typesPath)
  let events ← eventsDoc.events.mapM (Event.ofDoc d.id)
  let uiRoutes ← routesDoc.mapM (UiRoute.ofDoc d.id routesPath)
  return {
    id := d.id
    path := d.path
    present := d.present
    types := types
    enums := typesDoc.enums.map fun e => ⟨e.name, e.members⟩
    stringConsts := typesDoc.stringConsts.map fun c => ⟨c.key, c.value⟩
    endpoints := endpoints
    events := events
    commands := []
    uiRoutes := uiRoutes }

/-! ### Commands -/

/-- A text, unless it is empty. -/
def nonEmpty? (s : String) : Option String :=
  if s = "" then none else some s

/-- The type with a tag in a field of a command: a built-in one, or a reference that is resolved
against the modules of the run. -/
def FieldType.ofDoc (m : Module) (run : List Module) (command : String) (doc : CommandFieldDoc) :
    Except Error FieldType :=
  match FieldType.ofTag? doc.type with
  | some type => .ok type
  | none =>
    match TypeRef.parse? doc.type with
    | none => .error (.unmappedFieldType m.id command doc.key doc.type)
    | some ref =>
      match m.resolve? run ref with
      | some .enum => .ok (.custom (.enum ref))
      | some .struct => .ok (.custom (.struct ref))
      | none => .error (.unresolvedReference m.id (.commandField command doc.key) doc.type)

/-- A field of a command. -/
def CommandField.ofDoc (m : Module) (run : List Module) (command : String)
    (doc : CommandFieldDoc) : Except Error CommandField := do
  return {
    key := doc.key
    title := doc.title
    type := ← FieldType.ofDoc m run command doc
    unit := nonEmpty? doc.unit
    validationRegex := nonEmpty? doc.validationRegex
    maxLength := doc.maxLength
    optional := doc.optional
    hideIfDefaultValue := doc.hideIfDefaultValue
    help := doc.help
    placeholder := doc.placeholder }

/-- A command of the document at a path, in a module of a run. -/
def Command.ofDoc (path : String) (m : Module) (run : List Module) (doc : CommandDoc) :
    Except Error Command :=
  match CrudNature.ofName? doc.crudNature with
  | none => .error (.undecodable m.id path (.nature doc.command doc.crudNature))
  | some nature => do
    let fields ← doc.fields.mapM (CommandField.ofDoc m run doc.command)
    return {
      key := doc.command
      title := doc.title
      nature := nature
      confirmation := nonEmpty? doc.additionalConfirmation
      chain := doc.chain
      args := doc.ctor
      fields := fields
      info := doc.info }

/-- Adds the commands of the documents to a module of a run. -/
def Documents.addCommands (run : List Module) (d : Documents) (m : Module) :
    Except Error Module :=
  match d.commands with
  | none => .ok m
  | some source => do
    return { m with commands := ← source.doc.mapM (Command.ofDoc source.path m run) }

end Specloom
