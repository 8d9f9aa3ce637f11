import Mathlib.Data.List.Nodup
import Specloom.Proofs.Command.Compiled

/-!
# The function that builds a form

The frontend gets a function for each command. Its parameters are the arguments of the constructor,
and the descriptions of the fields, which are its result, mention them as default values. The
parameters come from the arguments and the default values from the fields, so that they fit together
rests on what loading checks: the fields of a command are distinct, so are its arguments, and every
argument is a field.

The default value of a field that is no argument is a word of the language, `false` or `undefined`.
Loading compares no argument with these words. An argument of that name captures the word, and it is
then the default value of more than one field.

## Main definitions

* `Widget.emptyDefault`: the default value of a field that is no argument
* `CommandView.Builds`: the parameters and the default values of the function of a command

## Main results

* `Command.check_eq_ok`: what loading checks of the names of a command
* `count_defaultValue_eq`: the fields that an argument is the default value of
* `Command.exists_builds`: the function of a command whose names are accepted
-/

namespace Specloom

/-- The default value of a field that is no argument, as an expression. -/
def Widget.emptyDefault (w : Widget) : String :=
  if w.kind = .checkbox then "false" else "undefined"

/-- The function of a command: `params` are the fields that are its parameters, `widgets` the
descriptions that it returns. -/
structure CommandView.Builds (view : CommandView) (c : Command) (fields params : List CompiledField)
    (widgets : List Widget) : Prop where
  /-- The parameters are the arguments in their order, each once. -/
  args : params.map (·.field.key) = c.args ∧ c.args.Nodup
  /-- A parameter is the one field with its key. -/
  param : ∀ p ∈ params, p ∈ fields ∧ ∀ f ∈ fields, f.field.key = p.field.key → f = p
  /-- The parameters have the types of their fields. -/
  tsCtorArgs : view.tsCtorArgs =
    ", ".intercalate (params.map fun p => p.field.key ++ ": " ++ p.types.ts)
  /-- The result is one description for each field, in order. -/
  tsFields : view.tsFields = widgets.map Widget.typescript
  /-- The default value of a field. -/
  defaultValue : List.Forall₂ (fun f w => w.key = f.key ∧
      w.defaultValue = if f.key ∈ c.args then f.key
        else if f.type = .checkbox then "false" else "undefined") c.fields widgets
  /-- A default value names a parameter if its field is one, or if the word in its place is one. -/
  mem_args : ∀ w ∈ widgets,
    (w.defaultValue ∈ c.args ↔ w.key ∈ c.args ∨ w.emptyDefault ∈ c.args)
  /-- A parameter is the default value of one field, unless it captures the word of another. -/
  count_defaultValue : ∀ arg ∈ c.args, ((widgets.map (·.defaultValue)).count arg = 1 ↔
    ∀ w ∈ widgets, w.key ∉ c.args → w.emptyDefault ≠ arg)

/-! ## Names of a command -/

/-- **What loading checks of the names of a command.** -/
theorem Command.check_eq_ok {module : String} {c : Command} : c.check module = .ok () ↔
    (c.fields.map (·.key)).Nodup ∧ c.args.Nodup ∧
      checkNotReserved module (.command c.key) commandMethods (c.fields.map (·.key)) = .ok () ∧
        ∀ arg ∈ c.args, arg ∈ c.fields.map (·.key) := by
  rw [check]
  simp only [check_bind_eq_ok, checkDistinct_eq_ok_iff]
  refine and_congr_right fun _ => and_congr_right fun _ => and_congr_right fun _ => ?_
  cases hfind : c.args.find? fun arg => !(c.fields.map (·.key)).contains arg with
  | none =>
    refine iff_of_true rfl fun arg harg => ?_
    simpa using List.find?_eq_none.mp hfind arg harg
  | some arg =>
    have hunknown : arg ∉ c.fields.map (·.key) := by simpa using List.find?_some hfind
    exact iff_of_false nofun fun h => hunknown (h arg (List.mem_of_find?_eq_some hfind))

/-! ## Parameters -/

/-- The fields that are looked up for some keys: if each key is that of a field, the keys of what is
found are those that were looked up. -/
theorem map_key_filterMap_find? {fields : List CompiledField} {keys : List String}
    (h : ∀ key ∈ keys, key ∈ fields.map (·.field.key)) :
    (keys.filterMap fun key => fields.find? (·.field.key == key)).map (·.field.key) = keys := by
  induction keys with
  | nil => rfl
  | cons key keys ih =>
    rw [List.forall_mem_cons] at h
    obtain ⟨f, hf, hkey⟩ := List.mem_map.mp h.1
    cases hfind : fields.find? (·.field.key == key) with
    | none => exact absurd hkey (by simpa using List.find?_eq_none.mp hfind f hf)
    | some found =>
      have hfound : found.field.key = key := by simpa using List.find?_some hfind
      simp [hfind, hfound, ih h.2]

/-- Of fields with distinct keys, the one that is found for a key is the only one with it. -/
theorem eq_of_mem_filterMap_find? {fields : List CompiledField} {keys : List String}
    (hnodup : (fields.map (·.field.key)).Nodup) {p : CompiledField}
    (hp : p ∈ keys.filterMap fun key => fields.find? (·.field.key == key)) :
    p ∈ fields ∧ ∀ f ∈ fields, f.field.key = p.field.key → f = p := by
  obtain ⟨key, -, hfind⟩ := List.mem_filterMap.mp hp
  have hmem := List.mem_of_find?_eq_some hfind
  exact ⟨hmem, fun f hf hkey => List.inj_on_of_nodup_map hnodup hf hmem hkey⟩

/-- The text of a parameter is made of the field that is found for it. -/
theorem CompiledCommand.tsArgs_eq (c : CompiledCommand) : c.tsArgs =
    (c.command.args.filterMap fun key => c.fields.find? (·.field.key == key)).map
      fun p => p.field.key ++ ": " ++ p.types.ts := by
  rw [tsArgs, List.map_filterMap]
  refine List.filterMap_congr fun arg _ => ?_
  cases hfind : c.fields.find? (·.field.key == arg) with
  | none => rfl
  | some f =>
    have hkey : f.field.key = arg := by simpa using List.find?_some hfind
    rw [Option.map_some, Option.map_some, hkey]

/-! ## Default values -/

/-- Only checkboxes are shown as such. -/
theorem FieldType.widgetKind?_eq_checkbox_iff {type : FieldType} :
    type.widgetKind? = some .checkbox ↔ type = .checkbox := by
  cases type with
  | custom type => cases type <;> simp [widgetKind?]
  | _ => simp [widgetKind?]

namespace Command

variable {module : String} {c : Command} {f : CommandField} {w : Widget}

/-- A description has the key and the kind of its field, and the default value that they have. -/
theorem widget_eq_ok (h : c.widget module f = .ok w) :
    w.key = f.key ∧ f.type.widgetKind? = some w.kind ∧
      w.defaultValue = if f.key ∈ c.args then f.key else w.emptyDefault := by
  rw [widget] at h
  split at h
  · cases h
  · rename_i kind hkind
    cases h
    exact ⟨rfl, hkind, by simp [defaultValue, isArg, Widget.emptyDefault]⟩

theorem emptyDefault_of_widget (h : c.widget module f = .ok w) :
    w.emptyDefault = if f.type = .checkbox then "false" else "undefined" := by
  obtain ⟨-, hkind, -⟩ := widget_eq_ok h
  have hcheckbox : w.kind = .checkbox ↔ f.type = .checkbox := by
    rw [← FieldType.widgetKind?_eq_checkbox_iff, hkind, Option.some_inj]
  simp only [Widget.emptyDefault, hcheckbox]

end Command

section Defaults

variable {args : List String} {widgets : List Widget}
  (hdefault : ∀ w ∈ widgets, w.defaultValue = if w.key ∈ args then w.key else w.emptyDefault)

include hdefault

theorem defaultValue_mem_iff {w : Widget} (hw : w ∈ widgets) :
    w.defaultValue ∈ args ↔ w.key ∈ args ∨ w.emptyDefault ∈ args := by
  rw [hdefault w hw]
  split <;> simp [*]

/-- Induction on the descriptions: an argument is the default value of the fields that have its
name, and of those whose word it captures. -/
theorem count_defaultValue_eq {arg : String} (harg : arg ∈ args) :
    (widgets.map (·.defaultValue)).count arg = (widgets.map (·.key)).count arg +
      widgets.countP fun w => w.key ∉ args ∧ w.emptyDefault = arg := by
  induction widgets with
  | nil => rfl
  | cons w widgets ih =>
    rw [List.forall_mem_cons] at hdefault
    rw [List.map_cons, List.map_cons, List.count_cons, List.count_cons, List.countP_cons,
      ih hdefault.2, hdefault.1]
    by_cases hkey : w.key ∈ args
    · simp [hkey]
      omega
    · have hne : w.key ≠ arg := fun heq => hkey (heq ▸ harg)
      simp [hkey, hne]
      omega

/-- An argument that is the key of one field is one default value exactly if it captures no word. -/
theorem count_defaultValue_eq_one_iff (hnodup : (widgets.map (·.key)).Nodup) {arg : String}
    (harg : arg ∈ args) (hkey : arg ∈ widgets.map (·.key)) :
    (widgets.map (·.defaultValue)).count arg = 1 ↔
      ∀ w ∈ widgets, w.key ∉ args → w.emptyDefault ≠ arg := by
  rw [count_defaultValue_eq hdefault harg, List.count_eq_one_of_mem hnodup hkey,
    Nat.add_eq_left, List.countP_eq_zero]
  simp

end Defaults

/-- **A command that is accepted has a function that fits together**, if the names of the command
are accepted. -/
theorem Command.exists_builds {module : String} {c : Command} {view : CommandView}
    (hcheck : c.check module = .ok ()) (hview : c.view module = .ok view) :
    ∃ compiled params widgets, c.compile module = .ok compiled ∧
      c.fields.mapM (c.widget module) = .ok widgets ∧
      view.Builds c compiled.fields params widgets := by
  obtain ⟨hkeys, hargs, -, hknown⟩ := check_eq_ok.mp hcheck
  obtain ⟨compiled, hcompiled, hview⟩ := bind_eq_ok.mp hview
  obtain ⟨widgets, hwidgets, hview⟩ := bind_eq_ok.mp hview
  cases pure_eq_ok.mp hview
  have hfields : compiled.fields.map (·.field.key) = c.fields.map (·.key) := by
    rw [← fields_of_compile hcompiled, List.map_map]
    rfl
  have hmap := map_key_filterMap_find? (hfields ▸ hknown)
  have hwidget := mapM_eq_ok.mp hwidgets
  have hwidgetKeys : widgets.map (·.key) = c.fields.map (·.key) := by
    refine List.forall₂_eq_eq_eq ▸ ?_
    rw [List.forall₂_map_left_iff, List.forall₂_map_right_iff]
    exact (hwidget.imp fun f w hf => (widget_eq_ok hf).1).flip
  have hdefault : ∀ w ∈ widgets,
      w.defaultValue = if w.key ∈ c.args then w.key else w.emptyDefault := by
    intro w hw
    obtain ⟨f, -, hf⟩ := exists_mem_of_mapM hwidgets hw
    obtain ⟨hkey, -, hdefault⟩ := widget_eq_ok hf
    rw [hkey, hdefault]
  refine ⟨compiled, c.args.filterMap fun key => compiled.fields.find? (·.field.key == key), widgets,
    hcompiled, hwidgets, ?_⟩
  constructor
  case args => exact ⟨hmap, hargs⟩
  case param => exact fun p hp => eq_of_mem_filterMap_find? (hfields ▸ hkeys) hp
  case tsCtorArgs =>
    obtain ⟨hcommand, -⟩ := compile_eq_ok.mp hcompiled
    exact congrArg (", ".intercalate ·) (hcommand ▸ compiled.tsArgs_eq)
  case tsFields => rfl
  case defaultValue =>
    refine hwidget.imp fun f w hf => ?_
    obtain ⟨hkey, -, hdefault⟩ := widget_eq_ok hf
    exact ⟨hkey, emptyDefault_of_widget hf ▸ hdefault⟩
  case mem_args => exact fun w hw => defaultValue_mem_iff hdefault hw
  case count_defaultValue =>
    intro arg harg
    exact count_defaultValue_eq_one_iff hdefault (hwidgetKeys ▸ hkeys) harg
      (hwidgetKeys ▸ hknown arg harg)

end Specloom
