import Specloom.Proofs.Command.Builder
import Specloom.Proofs.Module.Loaded
import Specloom.Proofs.Output.Rendered

/-!
# The commands of a loaded module

Every module of a run that loads has a context, and the context shows each command of the module as
what the command compiles to. So what is known of single commands is known of what templates see.

## Main results

* `Module.commands_of_context`: the commands of a context are those of the module
* `builds_of_load`: the functions that the frontend gets for commands
* `exists_captured_default`: an argument that is the default value of two fields
-/

namespace Specloom

/-- The commands of a context are those of the module, and the imports are what these need. -/
theorem Module.commands_of_context {m : Module} {run : List Module} {config : Config}
    {context : Context} (h : m.context run config = .ok context) :
    context.commands.imports = CommandNeeds.ofCommands m.commands ∧
      List.Forall₂ (fun c view => c.view m.id = .ok view) m.commands context.commands.commands := by
  obtain ⟨commands, hsection, h⟩ := bind_eq_ok.mp h
  cases pure_eq_ok.mp h
  obtain ⟨views, hviews, hsection⟩ := bind_eq_ok.mp hsection
  cases pure_eq_ok.mp hsection
  exact ⟨rfl, mapM_eq_ok.mp hviews⟩

/-- A module of a run that loads has a context. -/
theorem exists_context_of_load {source : Source} {configs : List ModuleConfig} {run : List Module}
    (h : load source configs = .ok run) {m : Module} (hm : m ∈ run) (config : Config) :
    m.WellNamed ∧ ∃ context, m.context run config = .ok context := by
  obtain ⟨docs, declared, -, hloaded⟩ := load_eq_ok.mp h
  obtain ⟨hnames, -, hcommands⟩ := Module.check_eq_ok.mp (hloaded.check m hm)
  exact ⟨hnames, m.exists_context hcommands run config⟩

/-! ## Functions of the frontend -/

/-- The function that the templates show of a command. -/
def CommandView.BuildsIn (module : String) (c : Command) (view : CommandView) : Prop :=
  ∃ compiled params widgets, c.compile module = .ok compiled ∧
    c.fields.mapM (c.widget module) = .ok widgets ∧
    view.Builds c compiled.fields params widgets

/-- **The functions of a loaded module.** Every module of a run that loads has a context, and the
function of each of its commands fits together: the parameters are the arguments with the types of
the fields of that name, the default value of a field is its own parameter if it is an argument and
`false` or `undefined` otherwise, and each parameter is the default value of exactly one field,
unless it has the name of one of these words and a field shows the word. -/
theorem builds_of_load {source : Source} {configs : List ModuleConfig} {run : List Module}
    (h : load source configs = .ok run) {m : Module} (hm : m ∈ run) (config : Config) :
    ∃ context, m.context run config = .ok context ∧
      List.Forall₂ (CommandView.BuildsIn m.id) m.commands context.commands.commands := by
  obtain ⟨hnames, context, hcontext⟩ := exists_context_of_load h hm config
  refine ⟨context, hcontext, ?_⟩
  obtain ⟨-, hviews⟩ := Module.commands_of_context hcontext
  exact ((List.forall₂_and_left _ _).mpr ⟨hnames.command, hviews⟩).imp fun c view hc =>
    Command.exists_builds hc.1 hc.2

/-- A command to rename, of which the argument is one of two fields. -/
theorem builds_of_load_rename : ∃ run m, load
      (fun _ => .ok <| "[\x7b\"command\":\"user.rename\",\"title\":\"\"," ++
        "\"crudNature\":\"update\",\"chain\":\"\",\"ctor\":[\"id\"],\"fields\":[\x7b\"key\":\"id\"\x7d," ++
        "\x7b\"key\":\"admin\",\"type\":\"checkbox\"\x7d]\x7d]")
      [⟨"users", none, none, some "commands", none⟩] = .ok run ∧ m ∈ run ∧
    ∃ context, m.context run .default = .ok context ∧
      List.Forall₂ (CommandView.BuildsIn m.id) m.commands context.commands.commands ∧
      m.commands.map (·.args) = [["id"]] := by
  generalize hload : load _ _ = loaded
  have hargs : loaded.toOption.map (fun run => run.map fun m => m.commands.map (·.args)) =
      some [[["id"]]] := by
    rw [← hload]
    decide +kernel
  obtain ⟨run, rfl, hrun⟩ := map_toOption_eq_some.mp hargs
  obtain ⟨m, hm, hcommands⟩ := List.mem_map.mp (hrun ▸ List.mem_singleton_self _)
  obtain ⟨context, hcontext, hbuilds⟩ := builds_of_load hload hm .default
  exact ⟨run, m, rfl, hm, context, hcontext, hbuilds, hcommands⟩

/-- A command with an argument that has the name of a word of the language. -/
def Command.createUndefined : Command where
  key := "user.create"
  title := ""
  nature := .create
  confirmation := none
  chain := ""
  args := ["undefined"]
  fields := ["undefined", "name"].map fun key =>
    ⟨key, "", .text, none, none, none, false, false, "", ""⟩
  info := []

/-- An argument captures the default value of another field: loading accepts the command, its only
parameter is `undefined`, and both descriptions have the parameter as their default value, although
the second field is no argument. -/
theorem exists_captured_default : ∃ run m context view, ∃ widgets : List Widget, load
      (fun _ => .ok <| "[\x7b\"command\":\"user.create\",\"title\":\"\"," ++
        "\"crudNature\":\"create\",\"chain\":\"\",\"ctor\":[\"undefined\"],\"fields\":[\x7b\"key\":\"undefined\"\x7d," ++
        "\x7b\"key\":\"name\"\x7d]\x7d]")
      [⟨"users", none, none, some "commands", none⟩] = .ok run ∧ m ∈ run ∧
    m.commands = [.createUndefined] ∧ m.context run .default = .ok context ∧
    context.commands.commands = [view] ∧ view.tsCtorArgs = "undefined: string" ∧
    view.tsFields = widgets.map Widget.typescript ∧
    widgets.map (fun w => (w.key, w.defaultValue)) =
      [("undefined", "undefined"), ("name", "undefined")] := by
  generalize hload : load _ _ = loaded
  have hcommands : loaded.toOption.map (fun run => run.map fun m => (m.id, m.commands)) =
      some [("users", [.createUndefined])] := by
    rw [← hload]
    decide +kernel
  obtain ⟨run, rfl, hrun⟩ := map_toOption_eq_some.mp hcommands
  obtain ⟨m, hm, hdata⟩ := List.mem_map.mp (hrun ▸ List.mem_singleton_self _)
  obtain ⟨hid, hm'⟩ := Prod.mk.inj hdata
  obtain ⟨-, context, hcontext⟩ := exists_context_of_load hload hm .default
  obtain ⟨-, hviews⟩ := Module.commands_of_context hcontext
  rw [hm', hid, List.forall₂_cons_left_iff] at hviews
  obtain ⟨view, _, hview, hnil, hcontextViews⟩ := hviews
  obtain rfl := List.forall₂_nil_left_iff.mp hnil
  have hparams : (Command.createUndefined.view "users").toOption.map (·.tsCtorArgs) =
      some "undefined: string" := by
    decide +kernel
  have hdefaults : (Command.createUndefined.fields.mapM
      (Command.createUndefined.widget "users")).toOption.map
        (fun widgets => widgets.map fun w => (w.key, w.defaultValue)) =
      some [("undefined", "undefined"), ("name", "undefined")] := by
    decide +kernel
  rw [hview] at hparams
  obtain ⟨_, -, hview⟩ := bind_eq_ok.mp hview
  obtain ⟨widgets, hwidgets, hview⟩ := bind_eq_ok.mp hview
  rw [hwidgets] at hdefaults
  exact ⟨run, m, context, view, widgets, rfl, hm, hm', hcontext, hcontextViews,
    Option.some.inj hparams, pure_eq_ok.mp hview ▸ rfl, Option.some.inj hdefaults⟩

end Specloom
