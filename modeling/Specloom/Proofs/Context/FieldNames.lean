import Specloom.Proofs.Context.Commands
import Specloom.Proofs.Document.Written
import Specloom.Proofs.Name

/-!
# Names of struct fields

A command, an event and an object of a datatype are structs in Go, with a field for each key. The
name of a field is its key with a capital first letter, since only such fields are exported. Loading
compares the keys of a struct, not the names, so two fields have the same name exactly if their keys
differ in the case of the first letter only.

## Main definitions

* `Module.GoStruct`: the fields of a struct of a module
* `HasFieldNames`: what loading makes sure of for the fields of a struct

## Main results

* `exists_repeated_fieldName`: a command whose struct has two fields of one name
* `fieldNames_of_load`: the fields of all structs of a loaded module
-/

namespace Specloom

/-- The fields of a struct of a module, each with its key and its name: those of a command and of an
event as the templates see them, and those of an object at any depth of a datatype, whose fields are
written by `goField`. -/
inductive Module.GoStruct (m : Module) (c : Context) : List (String × String) → Prop where
  | command {view : CommandView} (hview : view ∈ c.commands.commands) :
    m.GoStruct c (view.goFields.map fun f => (f.key, f.name))
  | event {view : EventView} (hview : view ∈ c.events.events) :
    m.GoStruct c (view.fields.map fun f => (f.key, f.goName))
  | object {p : Location × Datatype} {fields : List (String × Datatype)} {nullable : Bool}
    (hp : p ∈ m.locatedTypes) (hobject : (Datatype.object fields nullable).Within p.2) :
    m.GoStruct c (fields.map fun f => (f.1, Name.upperFirst f.1))

/-- The keys of the fields are distinct, and the names are the keys with a capital first letter. So
the names are distinct if no two keys differ in the case of that letter only. -/
structure HasFieldNames (fields : List (String × String)) : Prop where
  keys : (fields.map (·.1)).Nodup
  names : fields.map (·.2) = (fields.map (·.1)).map Name.upperFirst
  distinct : (fields.map (·.2)).Nodup ↔
    ∀ f ∈ fields, ∀ g ∈ fields, ¬ Name.DifferInCase f.1 g.1

/-- Fields that are named after distinct keys. -/
theorem hasFieldNames_of_keys {fields : List (String × String)} (hkeys : (fields.map (·.1)).Nodup)
    (hnames : fields.map (·.2) = (fields.map (·.1)).map Name.upperFirst) :
    HasFieldNames fields where
  keys := hkeys
  names := hnames
  distinct := by
    rw [hnames, Name.nodup_map_upperFirst_iff hkeys, List.forall_mem_map]
    simp only [List.forall_mem_map]

/-- The fields of the struct of a command, as the templates see them, are those of the command. -/
theorem Command.goFields_of_view {module : String} {c : Command} {view : CommandView}
    (h : c.view module = .ok view) :
    view.goFields.map (fun f => (f.key, f.name)) =
      c.fields.map fun f => (f.key, Name.upperFirst f.key) := by
  obtain ⟨compiled, hcompiled, hview⟩ := bind_eq_ok.mp h
  obtain ⟨widgets, -, hview⟩ := bind_eq_ok.mp hview
  cases pure_eq_ok.mp hview
  rw [← fields_of_compile hcompiled, List.map_map, List.map_map]
  rfl

/-- The events of a context are those of the module. -/
theorem Module.events_of_context {m : Module} {run : List Module} {config : Config} {c : Context}
    (h : m.context run config = .ok c) : c.events.events = m.events.map Event.view := by
  obtain ⟨commands, -, h⟩ := bind_eq_ok.mp h
  cases pure_eq_ok.mp h
  rfl

/-- **The fields of the structs of a loaded module** have distinct keys, and distinct names unless
two keys differ in the case of their first letter only. -/
theorem fieldNames_of_load {source : Source} {configs : List ModuleConfig} {run : List Module}
    (h : load source configs = .ok run) {m : Module} (hm : m ∈ run) (config : Config) :
    ∃ c, m.context run config = .ok c ∧
      ∀ fields, m.GoStruct c fields → HasFieldNames fields := by
  obtain ⟨hnames, c, hc⟩ := exists_context_of_load h hm config
  refine ⟨c, hc, fun fields hstruct => ?_⟩
  cases hstruct with
  | command hview =>
    obtain ⟨-, hviews⟩ := Module.commands_of_context hc
    obtain ⟨command, hcommand, hview⟩ := exists_mem_of_mapM (mapM_eq_ok.mpr hviews) hview
    have hkeys : (command.fields.map (·.key)).Nodup :=
      (checkDistinct_eq_ok_iff ..).mp (check_bind_eq_ok.mp (hnames.command command hcommand)).1
    rw [Command.goFields_of_view hview]
    exact hasFieldNames_of_keys (by rwa [List.map_map]) (by simp)
  | event hview =>
    rw [Module.events_of_context hc] at hview
    obtain ⟨event, hevent, rfl⟩ := List.mem_map.mp hview
    have hkeys : (event.fields.map (·.key)).Nodup :=
      (checkDistinct_eq_ok_iff ..).mp (check_bind_eq_ok.mp (hnames.event event hevent)).1
    rw [Event.view, List.map_map]
    exact hasFieldNames_of_keys (by rwa [List.map_map]) (by simp [EventField.view])
  | object hp hobject =>
    have hkeys := nodup_keys_of_load h hm hp hobject
    exact hasFieldNames_of_keys (by rwa [List.map_map]) (by simp)

/-- The struct of a command, and an object inside a type: the keys of the object differ in case. -/
theorem fieldNames_of_load_object : ∃ run m c, load
      (fun path => .ok (
        if path = "types" then
          "[[[\"Profile\",[\"array\",false,[\"object\",false,null," ++
            "\x7b\"city\":\"string\",\"City\":\"string\"\x7d]]]],[],[],[]]"
        else "[[\"user.create\",\"\",\"create\",\"\",\"\",[],[[\"name\"],[\"mail\"]],[]]]"))
      [⟨"users", some "types", none, some "commands", none⟩] = .ok run ∧ m ∈ run ∧
    m.context run .default = .ok c ∧
    m.GoStruct c [("name", "Name"), ("mail", "Mail")] ∧
    m.GoStruct c [("city", "City"), ("City", "City")] ∧
    ∀ fields, m.GoStruct c fields → HasFieldNames fields := by
  generalize hload : load _ _ = loaded
  have hdata : loaded.toOption.map (fun run => run.map fun m =>
      ((m.locatedTypes.flatMap fun p => p.2.nodes).map fun t => t.fields.map (·.1),
        m.commands.map fun command => command.fields.map (·.key))) =
      some [([[], ["city", "City"], [], []], [["name", "mail"]])] := by
    rw [← hload]
    decide +kernel
  obtain ⟨run, rfl, hrun⟩ := map_toOption_eq_some.mp hdata
  obtain ⟨m, hm, hdata⟩ := List.mem_map.mp (hrun ▸ List.mem_singleton_self _)
  obtain ⟨hkeys, hcommands⟩ := Prod.mk.inj hdata
  obtain ⟨c, hc, hstructs⟩ := fieldNames_of_load hload hm .default
  refine ⟨run, m, c, rfl, hm, hc, ?_, ?_, hstructs⟩
  · obtain ⟨command, hcommand, hkeys⟩ := List.mem_map.mp (hcommands ▸ List.mem_singleton_self _)
    obtain ⟨view, hview, hshows⟩ :=
      exists_mem_of_mem_mapM (mapM_eq_ok.mpr (Module.commands_of_context hc).2) hcommand
    have hnames : [("name", "Name"), ("mail", "Mail")] =
        ["name", "mail"].map fun key => (key, Name.upperFirst key) := by
      decide +kernel
    rw [hnames, ← hkeys, List.map_map]
    exact Command.goFields_of_view hshows ▸ .command hview
  · have hobject : ["city", "City"] ∈ [[], ["city", "City"], [], []] := by decide
    rw [← hkeys] at hobject
    obtain ⟨t, ht, hkeys⟩ := List.mem_map.mp hobject
    obtain ⟨p, hp, hnode⟩ := List.mem_flatMap.mp ht
    have hwithin := Datatype.mem_nodes_iff.mp hnode
    have hnames : [("city", "City"), ("City", "City")] =
        ["city", "City"].map fun key => (key, Name.upperFirst key) := by
      decide +kernel
    rw [hnames, ← hkeys, List.map_map]
    -- only an object has fields
    cases t with
    | object fields nullable => exact .object hp hwithin
    | scalar s nullable => cases hkeys
    | array element nullable => cases hkeys
    | reference ref nullable => cases hkeys

/-- Two fields of one name: loading accepts a command whose keys differ in the case of their first
letter, and its struct has the field `Name` twice. -/
theorem exists_repeated_fieldName : ∃ run m c view, load
      (fun _ => .ok "[[\"user.create\",\"\",\"create\",\"\",\"\",[],[[\"name\"],[\"Name\"]],[]]]")
      [⟨"users", none, none, some "commands", none⟩] = .ok run ∧ m ∈ run ∧
    m.context run .default = .ok c ∧ c.commands.commands = [view] ∧
    view.goFields.map (·.name) = ["Name", "Name"] := by
  generalize hload : load _ _ = loaded
  have hviews : loaded.toOption.map (fun run => run.map fun m =>
      (m.context run .default).toOption.map fun c =>
        c.commands.commands.map fun view => view.goFields.map (·.name)) =
      some [some [["Name", "Name"]]] := by
    rw [← hload]
    decide +kernel
  obtain ⟨run, rfl, hrun⟩ := map_toOption_eq_some.mp hviews
  obtain ⟨m, hm, hcontext⟩ := List.mem_map.mp (hrun ▸ List.mem_singleton_self _)
  obtain ⟨c, hc, hnames⟩ := map_toOption_eq_some.mp hcontext
  obtain ⟨view, hview, hname⟩ := List.map_eq_singleton_iff.mp hnames
  exact ⟨run, m, c, view, rfl, hm, hc, hview, hname⟩

end Specloom
