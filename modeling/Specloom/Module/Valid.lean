import Specloom.Command.Widget
import Specloom.Datatype.Flatten
import Specloom.Module.Basic
import Specloom.Unique

/-!
# Valid modules

A module is valid if no name repeats where names must be distinct, no field hides a generated
method, every constructor argument is a field, every reference stands for something, and every
command compiles.

## Main definitions

* `Module.checkStructure`: the names of a module
* `Module.checkReferences`: the references of a module
* `Module.checkCommands`: the commands of a module
* `Module.check`: all of it, in this order
-/

namespace Specloom

/-- Refuses names of which one repeats. -/
def checkDistinct (module : String) (location : Location) (kind : NameKind)
    (names : List String) : Except Error Unit :=
  match firstRepeat? names with
  | some name => .error (.duplicate module location kind name)
  | none => .ok ()

theorem checkDistinct_eq_ok_iff (module : String) (location : Location) (kind : NameKind)
    (names : List String) : checkDistinct module location kind names = .ok () ↔ names.Nodup := by
  rw [← firstRepeat?_eq_none_iff]
  cases h : firstRepeat? names <;> simp [checkDistinct, h]

/-- The methods of every event struct. -/
def eventMethods : List String :=
  ["Meta", "MetaType"]

/-- The methods of every command struct. -/
def commandMethods : List String :=
  ["Key", "Validate", "MiddlewareChain"]

/-- Refuses a key whose struct field would hide one of the methods. -/
def checkNotReserved (module : String) (location : Location) (methods keys : List String) :
    Except Error Unit :=
  match keys.find? fun key => methods.contains (Name.upperFirst key) with
  | some key => .error (.reservedName module location key (Name.upperFirst key))
  | none => .ok ()

/-! ### Names -/

/-- The members of an enum: their texts and their identifiers are distinct. -/
def EnumDecl.check (module : String) (e : EnumDecl) : Except Error Unit := do
  checkDistinct module (.enum e.name) .enumMember e.members
  checkDistinct module (.enum e.name) .enumMemberKey (e.members.map Name.pascal)

/-- The fields of an event. -/
def Event.check (module : String) (e : Event) : Except Error Unit := do
  checkDistinct module (.event e.key) .field (e.fields.map (·.key))
  checkNotReserved module (.event e.key) eventMethods (e.fields.map (·.key))

/-- The fields and the arguments of a command. -/
def Command.check (module : String) (c : Command) : Except Error Unit := do
  let keys := c.fields.map (·.key)
  checkDistinct module (.command c.key) .field keys
  checkDistinct module (.command c.key) .argument c.args
  checkNotReserved module (.command c.key) commandMethods keys
  match c.args.find? fun arg => !keys.contains arg with
  | some arg => throw (.unknownArgument module c.key arg)
  | none => return

/-- The parameters of a route: those of the path and those of the query are distinct. -/
def checkRoute (module : String) (r : Route.UiRoute) : Except Error Unit :=
  checkDistinct module (.route r.id) .queryParam (r.path.placeholders ++ r.query.map (·.key))

namespace Module

/-- Checks the names of a module, document by document. -/
def checkStructure (m : Module) : Except Error Unit := do
  checkDistinct m.id .types .type (m.types.map (·.name) ++ m.enums.map (·.name))
  checkDistinct m.id .types .stringConst (m.stringConsts.map (·.key))
  checkDistinct m.id .types .endpoint (m.endpoints.map (·.name))
  m.enums.forM (EnumDecl.check m.id)
  checkDistinct m.id .events .event (m.events.map (·.key))
  m.events.forM (Event.check m.id)
  checkDistinct m.id .commands .command (m.commands.map (·.key))
  m.commands.forM (Command.check m.id)
  checkDistinct m.id .uiRoutes .route (m.uiRoutes.map (·.id))
  m.uiRoutes.forM (checkRoute m.id)

/-! ### References -/

/-- Refuses the first reference inside a datatype that stands for nothing. -/
def checkDatatype (m : Module) (run : List Module) (location : Location) (t : Datatype) :
    Except Error Unit :=
  match (references (flatten [t])).find? fun ref => (m.resolve? run ref).isNone with
  | some ref => .error (.unresolvedReference m.id location ref.qualified)
  | none => .ok ()

/-- The datatypes of a module with their locations, in the order in which they are checked. -/
def locatedTypes (m : Module) : List (Location × Datatype) :=
  m.types.map (fun t => (.type t.name, t.type)) ++
    m.endpoints.flatMap (fun e => e.types.map (.endpoint e.name, ·)) ++
      m.events.flatMap fun e => e.fields.map fun f => (.eventField e.key f.key, f.type)

/-- Checks that every reference stands for something. -/
def checkReferences (m : Module) (run : List Module) : Except Error Unit :=
  m.locatedTypes.forM fun (location, t) => m.checkDatatype run location t

/-! ### Commands -/

/-- Checks that a command compiles and that every field has a widget. -/
def checkCommand (m : Module) (c : Command) : Except Error Unit := do
  let _ ← c.compile m.id
  c.fields.forM fun f => (c.widget m.id f).map fun _ => ()

/-- Checks that every command compiles. -/
def checkCommands (m : Module) : Except Error Unit :=
  m.commands.forM m.checkCommand

/-- Checks a module of a run. -/
def check (m : Module) (run : List Module) : Except Error Unit := do
  m.checkStructure
  m.checkReferences run
  m.checkCommands

end Module

end Specloom
