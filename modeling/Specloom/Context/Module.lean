import Specloom.Context.Commands
import Specloom.Context.Endpoints
import Specloom.Context.Events
import Specloom.Context.Types
import Specloom.Context.UiRoutes

/-!
# What the files of a module show

Every file of a module is rendered against one record, which is made once.

## Main definitions

* `Context`: everything the templates see of a module
* `Module.context`: the context of a module of a run
-/

namespace Specloom

open Template

/-- Everything the templates see of a module. -/
structure Context where
  module : Module
  config : Config
  types : TypesSection
  events : EventsSection
  commands : CommandsSection
  endpoints : EndpointsSection
  uiRoutes : UiRoutesSection
deriving Repr

/-- The fields of a context, which are the names at hand in a template. -/
def Context.fields (c : Context) : List (String × Value) := [
  ("module", .record [
    ("id", toValue c.module.id),
    ("path", toValue c.module.path)]),
  ("opts", .record [
    ("backend_module_prefix", toValue c.config.backendModulePrefix),
    ("frontend_module_prefix", toValue c.config.frontendModulePrefix),
    ("backend_runtime_package", toValue c.config.backendRuntime),
    ("frontend_runtime_package", toValue c.config.frontendRuntime)]),
  ("types", toValue c.types),
  ("events", toValue c.events),
  ("commands", toValue c.commands),
  ("endpoints", toValue c.endpoints),
  ("ui_routes", toValue c.uiRoutes)]

/-- The context of a module of a run. -/
def Module.context (m : Module) (run : List Module) (config : Config) :
    Except Error Context := do
  return {
    module := m
    config := config
    types := m.typesSection run config
    events := m.eventsSection run config
    commands := ← m.commandsSection run config
    endpoints := m.endpointsSection run config
    uiRoutes := m.uiRoutesSection }

end Specloom
