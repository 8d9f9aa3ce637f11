import Specloom.Module.Declare
import Specloom.Module.Valid

/-!
# Loading the modules of a run

All documents are read before any is declared, all declarations are made before any command, and
all commands before anything is checked. The first error in this order ends the run.

## Main definitions

* `load`: the modules of a run
* `loadAll`: the modules of some documents
* `addAllCommands`: the modules of a run with their commands
* `checkIds`: the ids of the modules of a run
-/

namespace Specloom

/-- The first module whose id an earlier one has, after that one; `seen` are earlier modules. -/
def idClash? (seen : List Module) : List Module → Option (Module × Module)
  | [] => none
  | m :: rest =>
    match seen.find? (·.id == m.id) with
    | some first => some (first, m)
    | none => idClash? (m :: seen) rest

/-- Refuses modules of which two have the same id, since references name modules by their ids. -/
def checkIds (run : List Module) : Except Error Unit :=
  match idClash? [] run with
  | some (first, second) =>
    .error (.duplicate second.id (.modules first.path second.path) .moduleId second.id)
  | none => .ok ()

/-- Adds the commands of each module in its place. Those of the next module are resolved against the
modules that have theirs already, itself, and the ones behind it. -/
def addAllCommands (done : List Module) : List Documents → List Module → Except Error (List Module)
  | d :: docs, m :: modules => do
    let m' ← d.addCommands (done ++ m :: modules) m
    addAllCommands (done ++ [m']) docs modules
  | _, modules => .ok (done ++ modules)

/-- The valid modules of some documents. -/
def loadAll (docs : List Documents) : Except Error (List Module) := do
  let declared ← docs.mapM Documents.declare
  checkIds declared
  let modules ← addAllCommands [] docs declared
  modules.forM fun m => m.check modules
  return modules

/-- The valid modules that configurations name. -/
def load (source : Source) (configs : List ModuleConfig) : Except Error (List Module) := do
  loadAll (← configs.mapM (Documents.read source))

end Specloom
