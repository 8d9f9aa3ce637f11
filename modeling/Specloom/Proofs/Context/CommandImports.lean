import Specloom.Proofs.Command.Calls
import Specloom.Proofs.Command.Signature
import Specloom.Proofs.Context.Commands
import Specloom.Proofs.Context.Imports

/-!
# Imports of the files of commands

What the files of commands import is collected from the rules and the types of the fields, while the
texts that need it are made elsewhere. Read back, the texts need exactly what is collected: the body
of a method calls what its rules stand for, and the types of a struct and of a signature name what
the fields refer to.

Loading compares names, but it never looks at the characters of a key or of the name of a type. So a
key can hold code, and the name of a type more than one name. A type can also be written as the date
is, if a module has the name of its package.

## Main definitions

* `CommandView.Tells`: what the texts of a command tell of its fields
* `Module.HasCommandNames`: keys and names of types have characters of names only
* `Module.ExactCommandImports`: the files of commands import what their texts need

## Main results

* `Command.tells`: the texts of a command tell the kinds of its rules and the types of its fields
* `exactCommandImports_of_load`: the imports of a loaded module
* `exists_inexact_commandImports`: names that are none, and a module with the name of a package
-/

namespace Specloom

open Go Text

/-! ## Lists side by side -/

section Lists

variable {α β : Type} {R : α → β → Prop} {as : List α} {bs : List β}

theorem exists_mem_zip_iff (h : List.Forall₂ R as bs) {P : α × β → Prop} {Q : α → Prop}
    (hPQ : ∀ a b, R a b → (P (a, b) ↔ Q a)) : (∃ p ∈ as.zip bs, P p) ↔ ∃ a ∈ as, Q a := by
  induction h with
  | nil => simp
  | cons hab _ ih =>
    rw [List.zip_cons_cons, List.exists_mem_cons_iff, List.exists_mem_cons_iff, ih, hPQ _ _ hab]

theorem exists_mem_flatMap_iff {f : α → List β} {P : β → Prop} :
    (∃ b ∈ as.flatMap f, P b) ↔ ∃ a ∈ as, ∃ b ∈ f a, P b := by
  simp only [List.mem_flatMap]
  constructor
  · rintro ⟨b, ⟨a, ha, hb⟩, h⟩
    exact ⟨a, ha, b, hb, h⟩
  · rintro ⟨a, ha, b, hb, h⟩
    exact ⟨b, ⟨a, ha, hb⟩, h⟩

theorem exists_mem_right_iff (h : List.Forall₂ R as bs) {P : β → Prop} {Q : α → Prop}
    (hPQ : ∀ a b, R a b → (P b ↔ Q a)) : (∃ b ∈ bs, P b) ↔ ∃ a ∈ as, Q a := by
  induction h with
  | nil => simp
  | cons hab _ ih =>
    rw [List.exists_mem_cons_iff, List.exists_mem_cons_iff, ih, hPQ _ _ hab]

/-- If the second lists are no longer than the first ones, all of them are in the pairs. -/
theorem map_snd_flatMap_zip {γ δ : Type} {f : α → List γ} {g : β → List δ}
    (h : List.Forall₂ (fun a b => (g b).length ≤ (f a).length) as bs) :
    ((as.zip bs).flatMap fun p => (f p.1).zip (g p.2)).map (·.2) = bs.flatMap g := by
  induction h with
  | nil => rfl
  | cons hab _ ih =>
    rw [List.zip_cons_cons, List.flatMap_cons, List.map_append, ih, List.flatMap_cons,
      List.map_snd_zip hab]

end Lists

/-! ## One command -/

/-- What the texts of a command tell of its fields. -/
structure CommandView.Tells (c : Command) (view : CommandView) : Prop where
  runeCount : "utf8.RuneCountInString" ∈ callees view.goValidation ↔
    ∃ f ∈ c.fields, ∃ r ∈ f.rules, r.isMaxLength = true
  containsAny : "strings.ContainsAny" ∈ callees view.goValidation ↔
    ∃ f ∈ c.fields, .singleLine ∈ f.rules
  matchString : (∃ r ∈ view.regexps, r.var ++ ".MatchString" ∈ callees view.goValidation) ↔
    ∃ f ∈ c.fields, ∃ r ∈ f.rules, r.isPattern = true
  goFields : view.goFields.length = c.fields.length
  goDate : (∃ p ∈ c.fields.zip view.goFields,
      p.2.goType = "guts.Date" ∧ p.1.type.reference? = none) ↔ ∃ f ∈ c.fields, f.type = .date
  goModule (id : String) : (∃ p ∈ c.fields.zip view.goFields,
      p.1.type ≠ .date ∧ ∃ name ∈ namesIn p.2.goType.toList, qualifier? name = some id) ↔
    ∃ f ∈ c.fields, ∃ ref, f.type.reference? = some ref ∧ ref.owner = some id
  tsDate : "dateRFC3339" ∈ typeNames view.tsCtorArgs.toList ↔
    ∃ f ∈ c.fields, c.isArg f.key = true ∧ f.type = .date
  tsLocalType (name : String) : (name ∈ typeNames view.tsCtorArgs.toList ∧
      '.' ∉ name.toList ∧ name ∉ tsBuiltins) ↔
    ∃ f ∈ c.fields, c.isArg f.key = true ∧
      ∃ ref, f.type.reference? = some ref ∧ ref.owner = none ∧ ref.name = name
  tsModule (id : String) : (∃ name ∈ typeNames view.tsCtorArgs.toList, qualifier? name = some id) ↔
    ∃ f ∈ c.fields, c.isArg f.key = true ∧
      ∃ ref, f.type.reference? = some ref ∧ ref.owner = some id

/-- What a view shows of what its command compiles to. -/
theorem Command.shows_of_view {module : String} {c : Command} {compiled : CompiledCommand}
    {view : CommandView} (hcompiled : c.compile module = .ok compiled)
    (hview : c.view module = .ok view) : view.Shows compiled := by
  obtain ⟨compiled', hcompiled', hview⟩ := bind_eq_ok.mp hview
  obtain ⟨widgets, -, hview⟩ := bind_eq_ok.mp hview
  rw [hcompiled] at hcompiled'
  cases hcompiled'
  cases pure_eq_ok.mp hview
  exact ⟨rfl, rfl, rfl⟩

/-- **The texts of a command tell** the kinds of its rules and the types of its fields. -/
theorem Command.tells {module : String} {c : Command} {view : CommandView}
    (hcheck : c.check module = .ok ()) (hview : c.view module = .ok view) (hnames : c.HasNames)
    (hplain : ∀ f ∈ c.fields, ∀ ref ∈ f.type.reference?, ref.IsPlain) : view.Tells c := by
  obtain ⟨compiled, params, widgets, hcompiled, -, hbuilds⟩ := exists_builds hcheck hview
  have hshows := shows_of_view hcompiled hview
  have hcommand : compiled.command = c := (compile_eq_ok.mp hcompiled).1
  have hfields := fields_of_compile hcompiled
  have hcallees {callee : String} : callee ∈ callees view.goValidation ↔
      ∃ f ∈ c.fields, ∃ r ∈ f.rules, callee ∈ r.callees (compiled.regexpName f) := by
    rw [hshows.goValidation, CompiledCommand.mem_callees_goValidation (hcommand ▸ hnames)
      (hcommand ▸ hfields), hcommand]
  have hgo : List.Forall₂ (fun f (g : GoFieldView) => ∃ t, f.HasTexts t ∧ g.goType = t.go)
      c.fields view.goFields := by
    rw [hshows.goFields, ← hfields, List.forall₂_map_left_iff, List.forall₂_map_right_iff,
      List.forall₂_same]
    intro g hg
    obtain ⟨hf, htexts⟩ := texts?_of_mem hcompiled hg
    exact ⟨g.types, CommandField.hasTexts htexts (hplain _ hf), rfl⟩
  have hts (name : String) : name ∈ typeNames view.tsCtorArgs.toList ↔
      ∃ f ∈ c.fields, c.isArg f.key = true ∧ ∃ t, f.texts? = some t ∧ name ∈ namesIn t.ts.toList :=
    hbuilds.mem_typeNames_iff hcompiled hnames.key hplain
  have htexts : ∀ f ∈ c.fields, ∃ t, f.texts? = some t ∧ f.HasTexts t := by
    intro f hf
    obtain ⟨g, hg, rfl⟩ := List.mem_map.mp (hfields ▸ hf)
    have ht := (texts?_of_mem hcompiled hg).2
    exact ⟨g.types, ht, CommandField.hasTexts ht (hplain _ hf)⟩
  constructor
  case runeCount => simp only [hcallees, Rule.runeCount_mem_callees]
  case containsAny =>
    simp only [hcallees, Rule.containsAny_mem_callees, exists_eq_right]
  case matchString =>
    simp only [hshows.regexps, CompiledCommand.mem_regexps, hcallees, Rule.matchString_mem_callees]
    constructor
    · rintro ⟨_, ⟨f, hf, source, hsource, rfl⟩, -⟩
      exact ⟨f.field, hfields ▸ List.mem_map_of_mem hf, _, hsource, rfl⟩
    · rintro ⟨f, hf, r, hr, hpattern⟩
      obtain ⟨g, hg, rfl⟩ := List.mem_map.mp (hfields ▸ hf)
      cases r with
      | pattern source => exact ⟨_, ⟨g, hg, source, hr, rfl⟩, g.field, hf, _, hr, rfl, rfl⟩
      | nonEmpty object => cases hpattern
      | maxLength limit => cases hpattern
      | singleLine => cases hpattern
  case goFields => exact hgo.length_eq.symm
  case goDate =>
    refine exists_mem_zip_iff hgo fun f g h => ?_
    obtain ⟨t, ht, hgoType⟩ := h
    exact hgoType ▸ ht.goType_eq_date_iff
  case goModule =>
    refine fun id => exists_mem_zip_iff hgo fun f g h => ?_
    obtain ⟨t, ht, hgoType⟩ := h
    exact hgoType ▸ ht.exists_qualifier?_go_iff
  case tsDate =>
    rw [hts]
    refine exists_congr fun f => and_congr_right fun hf => and_congr_right fun _ => ?_
    obtain ⟨t, ht, htypes⟩ := htexts f hf
    simp only [ht, Option.some.injEq, exists_eq_left', htypes.date_mem_namesIn_ts_iff]
  case tsLocalType =>
    intro name
    rw [hts]
    constructor
    · rintro ⟨⟨f, hf, harg, t, ht, hname⟩, hdot, hbuiltin⟩
      have htypes := CommandField.hasTexts ht (hplain f hf)
      exact ⟨f, hf, harg, htypes.mem_namesIn_ts_iff.mp ⟨hname, hdot, hbuiltin⟩⟩
    · rintro ⟨f, hf, harg, href⟩
      obtain ⟨t, ht, htypes⟩ := htexts f hf
      obtain ⟨hname, hdot, hbuiltin⟩ := htypes.mem_namesIn_ts_iff.mpr href
      exact ⟨⟨f, hf, harg, t, ht, hname⟩, hdot, hbuiltin⟩
  case tsModule =>
    intro id
    simp only [hts]
    constructor
    · rintro ⟨name, ⟨f, hf, harg, t, ht, hname⟩, hid⟩
      have htypes := CommandField.hasTexts ht (hplain f hf)
      exact ⟨f, hf, harg, htypes.exists_qualifier?_ts_iff.mp ⟨name, hname, hid⟩⟩
    · rintro ⟨f, hf, harg, href⟩
      obtain ⟨t, ht, htypes⟩ := htexts f hf
      obtain ⟨name, hname, hid⟩ := htypes.exists_qualifier?_ts_iff.mpr href
      exact ⟨name, ⟨f, hf, harg, t, ht, hname⟩, hid⟩

/-! ## References of fields -/

/-- A field that is lowered to a reference was written as one. -/
theorem FieldType.isWritable_of_ofDoc {m : Module} {run : List Module} {command : String}
    {doc : Document.CommandFieldDoc} {type : FieldType} {ref : TypeRef}
    (h : FieldType.ofDoc m run command doc = .ok type) (href : type.reference? = some ref) :
    ref.IsWritable :=
  ((isDeclared_of_ofDoc h).1.of_reference? href).1

/-- What the fields of a loaded command refer to can be written. -/
theorem Loaded.isWritable_reference {docs : List Documents} {declared run : List Module}
    (h : Loaded docs declared run) {m : Module} (hm : m ∈ run) {c : Command} (hc : c ∈ m.commands)
    {f : CommandField} (hf : f ∈ c.fields) {ref : TypeRef} (href : f.type.reference? = some ref) :
    ref.IsWritable := by
  obtain ⟨d, -, m₀, -, hdeclare, hcommands⟩ := h.exists_documents hm
  -- the command is one of the document, since declaring adds none
  rcases (Documents.addCommands_eq_ok hcommands).2 c hc with hold | ⟨path, doc, hdoc⟩
  · rw [Documents.commands_of_declare hdeclare] at hold
    cases hold
  · obtain ⟨fieldDoc, hfield⟩ := Command.exists_ofDoc_field hdoc hf
    exact FieldType.isWritable_of_ofDoc hfield href

/-! ## All commands of a module -/

/-- The names that commands are made of have characters of names only: keys of fields, what is made
of the keys of fields and of commands, and the types that fields refer to. Loading checks nothing of
it. -/
structure Module.HasCommandNames (m : Module) : Prop where
  command : ∀ c ∈ m.commands, c.HasNames
  reference : ∀ c ∈ m.commands, ∀ f ∈ c.fields, ∀ ref ∈ f.type.reference?, IsPathText ref.qualified

/-- The fields of all commands, each with what the struct of its command shows of it. -/
def Module.shownFields (m : Module) (context : Context) : List (CommandField × GoFieldView) :=
  (m.commands.zip context.commands.commands).flatMap fun p => p.1.fields.zip p.2.goFields

/-- The files of commands import what their texts need. -/
structure Module.ExactCommandImports (m : Module) (context : Context) : Prop where
  /-- The length of a text is checked. -/
  utf8 : context.commands.imports.utf8 = true ↔ ∃ view ∈ context.commands.commands,
    "utf8.RuneCountInString" ∈ callees view.goValidation
  /-- A text is checked for line ends. -/
  strings : context.commands.imports.strings = true ↔ ∃ view ∈ context.commands.commands,
    "strings.ContainsAny" ∈ callees view.goValidation
  /-- A regular expression is matched that is declared as a variable. -/
  regexp : context.commands.imports.regexp = true ↔ ∃ view ∈ context.commands.commands,
    ∃ r ∈ view.regexps, r.var ++ ".MatchString" ∈ callees view.goValidation
  /-- A regular expression of a field counts if the field is a free text, and not otherwise. -/
  regexp_field : context.commands.imports.regexp = true ↔ ∃ c ∈ m.commands, ∃ f ∈ c.fields,
    f.type.isFreeText = true ∧ f.validationRegex ≠ none
  /-- All fields of all structs are shown fields. -/
  shown : (m.shownFields context).map (·.2) =
    context.commands.commands.flatMap (·.goFields)
  /-- A struct has a field of the type of dates, and it is no type of a module of that name. -/
  date : context.commands.imports.date = true ↔ ∃ p ∈ m.shownFields context,
    p.2.goType = "guts.Date" ∧ p.1.type.reference? = none
  /-- A module qualifies the type of a field of a struct, other than that of dates. -/
  goModules (id : String) : id ∈ context.commands.imports.goModules ↔
    ∃ p ∈ m.shownFields context, p.1.type ≠ .date ∧
      ∃ name ∈ namesIn p.2.goType.toList, qualifier? name = some id
  /-- A signature names the type of dates. -/
  tsDate : context.commands.imports.tsDate = true ↔ ∃ view ∈ context.commands.commands,
    "dateRFC3339" ∈ typeNames view.tsCtorArgs.toList
  /-- A signature has a name without dots that is no built-in type. -/
  tsLocalTypes (name : String) : name ∈ context.commands.imports.tsLocalTypes ↔
    ∃ view ∈ context.commands.commands, name ∈ typeNames view.tsCtorArgs.toList ∧
      '.' ∉ name.toList ∧ name ∉ tsBuiltins
  /-- A module qualifies a name in a signature. -/
  tsModules (id : String) : id ∈ context.commands.imports.tsModules ↔
    ∃ view ∈ context.commands.commands,
      ∃ name ∈ typeNames view.tsCtorArgs.toList, qualifier? name = some id
  /-- Nothing is imported twice. -/
  nodup : context.commands.imports.goModules.Nodup ∧ context.commands.imports.tsLocalTypes.Nodup ∧
    context.commands.imports.tsModules.Nodup

/-- Something of an argument of a command is something of one of its fields. -/
theorem exists_arg_iff {commands : List Command} {P : CommandField → Prop} :
    (∃ f ∈ commands.flatMap fun c => c.fields.filter fun f => c.isArg f.key, P f) ↔
      ∃ c ∈ commands, ∃ f ∈ c.fields, c.isArg f.key = true ∧ P f := by
  simp only [exists_mem_flatMap_iff, List.mem_filter, and_assoc]

/-- What is collected from the fields of some commands. -/
theorem mem_goModules_iff {commands : List Command} {id : String} :
    id ∈ (CommandNeeds.ofCommands commands).goModules ↔ ∃ c ∈ commands, ∃ f ∈ c.fields,
      ∃ ref, f.type.reference? = some ref ∧ ref.owner = some id := by
  simp only [CommandNeeds.ofCommands, mem_sortedTexts, List.mem_filterMap, Option.bind_eq_some_iff,
    exists_mem_flatMap_iff]

theorem mem_tsLocalTypes_iff {commands : List Command} {name : String} :
    name ∈ (CommandNeeds.ofCommands commands).tsLocalTypes ↔ ∃ c ∈ commands, ∃ f ∈ c.fields,
      c.isArg f.key = true ∧
        ∃ ref, f.type.reference? = some ref ∧ ref.owner = none ∧ ref.name = name := by
  rw [← exists_arg_iff]
  simp only [CommandNeeds.ofCommands, mem_sortedTexts, List.mem_map, List.mem_filter,
    List.mem_filterMap, Option.isNone_iff_eq_none]
  constructor
  · rintro ⟨ref, ⟨⟨f, hf, href⟩, howner⟩, hname⟩
    exact ⟨f, hf, ref, href, howner, hname⟩
  · rintro ⟨f, hf, ref, href, howner, hname⟩
    exact ⟨ref, ⟨⟨f, hf, href⟩, howner⟩, hname⟩

theorem mem_tsModules_iff {commands : List Command} {id : String} :
    id ∈ (CommandNeeds.ofCommands commands).tsModules ↔ ∃ c ∈ commands, ∃ f ∈ c.fields,
      c.isArg f.key = true ∧ ∃ ref, f.type.reference? = some ref ∧ ref.owner = some id := by
  rw [← exists_arg_iff]
  simp only [CommandNeeds.ofCommands, mem_sortedTexts, List.mem_filterMap]
  constructor
  · rintro ⟨ref, ⟨f, hf, href⟩, howner⟩
    exact ⟨f, hf, ref, href, howner⟩
  · rintro ⟨f, hf, ref, href, howner⟩
    exact ⟨ref, ⟨f, hf, href⟩, howner⟩

theorem any_rules_iff {commands : List Command} {p : Rule → Bool} :
    ((commands.flatMap (·.fields)).flatMap (·.rules)).any p = true ↔
      ∃ c ∈ commands, ∃ f ∈ c.fields, ∃ r ∈ f.rules, p r = true := by
  simp only [List.any_eq_true, exists_mem_flatMap_iff]

/-- **What is collected from the fields is what the texts need**, if the texts of each command tell
it. -/
theorem Module.exactCommandImports {m : Module} {context : Context}
    (himports : context.commands.imports = CommandNeeds.ofCommands m.commands)
    (htells : List.Forall₂ (fun c view => CommandView.Tells c view) m.commands
      context.commands.commands) : m.ExactCommandImports context := by
  have hregexp : context.commands.imports.regexp = true ↔
      ∃ c ∈ m.commands, ∃ f ∈ c.fields, ∃ r ∈ f.rules, r.isPattern = true := by
    rw [himports]
    exact any_rules_iff
  constructor
  case utf8 =>
    rw [exists_mem_right_iff htells fun _ _ h => h.runeCount, himports]
    exact any_rules_iff
  case strings =>
    rw [exists_mem_right_iff htells fun _ _ h => h.containsAny, himports]
    simp only [CommandNeeds.ofCommands, List.contains_iff_mem]
    rw [List.mem_flatMap, exists_mem_flatMap_iff]
  case regexp => rw [exists_mem_right_iff htells fun _ _ h => h.matchString, hregexp]
  case regexp_field =>
    rw [hregexp]
    refine exists_congr fun c => and_congr_right fun _ => exists_congr fun f =>
      and_congr_right fun _ => ?_
    simp only [mem_rules_iff]
    constructor
    · rintro ⟨r, hr, hpattern⟩
      cases r with
      | pattern source => exact ⟨hr.1, by simp [hr.2]⟩
      | nonEmpty object => cases hpattern
      | maxLength limit => cases hpattern
      | singleLine => cases hpattern
    · rintro ⟨hfree, hregex⟩
      obtain ⟨source, hsource⟩ := Option.ne_none_iff_exists'.mp hregex
      exact ⟨.pattern source, ⟨hfree, hsource⟩, rfl⟩
  case shown =>
    exact map_snd_flatMap_zip (htells.imp fun _ _ h => h.goFields.le)
  case date =>
    rw [shownFields, exists_mem_flatMap_iff, exists_mem_zip_iff htells fun _ _ h => h.goDate,
      himports]
    simp only [CommandNeeds.ofCommands, List.any_eq_true, exists_mem_flatMap_iff, beq_iff_eq]
  case goModules =>
    intro id
    rw [shownFields, exists_mem_flatMap_iff, exists_mem_zip_iff htells fun _ _ h => h.goModule id,
      himports, mem_goModules_iff]
  case tsDate =>
    rw [exists_mem_right_iff htells fun _ _ h => h.tsDate, himports]
    simp only [CommandNeeds.ofCommands, List.any_eq_true, exists_arg_iff, beq_iff_eq]
  case tsLocalTypes =>
    intro name
    rw [exists_mem_right_iff htells fun _ _ h => h.tsLocalType name, himports,
      mem_tsLocalTypes_iff]
  case tsModules =>
    intro id
    rw [exists_mem_right_iff htells fun _ _ h => h.tsModule id, himports, mem_tsModules_iff]
  case nodup =>
    rw [himports]
    exact ⟨nodup_sortedTexts _, nodup_sortedTexts _, nodup_sortedTexts _⟩

/-- **The imports of a loaded module.** Every module of a run that loads has a context. If the names
that its commands are made of have characters of names only, the files of its commands import what
their texts need: a package of Go for each function that a check calls, the type of dates and the
modules for the types in structs, and the type of dates, the types and the modules for the types in
signatures. -/
theorem exactCommandImports_of_load {source : Source} {configs : List ModuleConfig}
    {run : List Module} (h : load source configs = .ok run) {m : Module} (hm : m ∈ run)
    (hnames : m.HasCommandNames) (config : Config) :
    ∃ context, m.context run config = .ok context ∧ m.ExactCommandImports context := by
  obtain ⟨hwellNamed, context, hcontext⟩ := exists_context_of_load h hm config
  obtain ⟨himports, hviews⟩ := Module.commands_of_context hcontext
  obtain ⟨docs, declared, -, hloaded⟩ := load_eq_ok.mp h
  have hcommand : ∀ c ∈ m.commands, c.check m.id = .ok () ∧ c.HasNames ∧
      ∀ f ∈ c.fields, ∀ ref ∈ f.type.reference?, ref.IsPlain := fun c hc =>
    ⟨hwellNamed.command c hc, hnames.command c hc, fun f hf ref href =>
      ⟨hloaded.isWritable_reference hm hc hf href, hnames.reference c hc f hf ref href⟩⟩
  refine ⟨context, hcontext, Module.exactCommandImports himports ?_⟩
  refine ((List.forall₂_and_left _ _).mpr ⟨hcommand, hviews⟩).imp fun c view hc => ?_
  obtain ⟨⟨hcheck, hnames, hplain⟩, hview⟩ := hc
  exact Command.tells hcheck hview hnames hplain

/-- A command that is ordered for a date, with a text that is matched and an enum of another
module. -/
def Command.orderPlan : Command where
  key := "plan.order"
  title := ""
  nature := .create
  confirmation := none
  chain := ""
  args := ["due", "level"]
  fields := [
    ⟨"name", "", .text, none, some "^[a-z]+$", none, false, false, "", ""⟩,
    ⟨"due", "", .date, none, none, none, false, false, "", ""⟩,
    ⟨"level", "", .custom (.enum ⟨some "plans", "Level"⟩), none, none, none, true, false, "", ""⟩]
  info := []

/-- The names of this command have characters of names only. -/
theorem Command.hasNames_orderPlan : orderPlan.HasNames :=
  ⟨by decide +kernel, by decide +kernel, by decide +kernel⟩

/-- The imports of the module of this command. -/
theorem exactCommandImports_of_load_orderPlan : ∃ run m, load
      (fun path => .ok (if path = "types" then "[[],[[\"Level\",[\"low\"]]],[],[]]"
        else "[[\"plan.order\",\"\",\"create\",\"\",\"\",[\"due\",\"level\"]," ++
          "[[\"name\",\"\",\"\",\"\",\"^[a-z]+$\"],[\"due\",\"\",\"date\"]," ++
          "[\"level\",\"\",\"plans.Level\",\"\",\"\",null,true]]]]"))
      [⟨"orders", none, none, some "commands", none⟩, ⟨"plans", some "types", none, none, none⟩] =
        .ok run ∧
    m ∈ run ∧ m.commands = [.orderPlan] ∧ m.HasCommandNames ∧
    ∃ context, m.context run .default = .ok context ∧ m.ExactCommandImports context := by
  generalize hload : load _ _ = loaded
  have hcommands : loaded.toOption.map (fun run => run.map (·.commands)) =
      some [[.orderPlan], []] := by
    rw [← hload]
    decide +kernel
  obtain ⟨run, rfl, hrun⟩ := map_toOption_eq_some.mp hcommands
  obtain ⟨m, hm, hcommand⟩ := List.mem_map.mp (hrun ▸ List.mem_cons_self)
  have hnames : m.HasCommandNames := by
    refine ⟨?_, ?_⟩ <;> rw [hcommand, List.forall_mem_singleton]
    · exact Command.hasNames_orderPlan
    · decide +kernel
  obtain ⟨context, hcontext, hexact⟩ := exactCommandImports_of_load hload hm hnames .default
  exact ⟨run, m, rfl, hm, hcommand, hnames, context, hcontext, hexact⟩

/-- A command whose names are not what they seem: the type of its first field is written as that of
dates, the key of the second one is a comment of Go around code, and the third one has a type with a
name that could be a parameter more. -/
def Command.createUnchecked : Command where
  key := "user.create"
  title := ""
  nature := .create
  confirmation := none
  chain := ""
  args := ["level"]
  fields := [
    ⟨"due", "", .custom (.enum ⟨some "guts", "Date"⟩), none, none, none, true, false, "", ""⟩,
    ⟨"A/*\"+string(rune(utf8.RuneCountInString(\"\")))+\"*/", "", .custom .string, none, none,
      none, false, false, "", ""⟩,
    ⟨"level", "", .custom (.enum ⟨none, "Level, to: Mode"⟩), none, none, none, false, false, "",
      ""⟩]
  info := []

/-- Without conditions on names the imports are not what the texts need: a type is shown as that of
dates, which is not imported; a check calls a function of a package that is not imported; and a
signature names two types, neither of which is imported. -/
theorem exists_inexact_commandImports : ∃ run m context view, load
      (fun path => .ok (if path = "dates" then "[[],[[\"Date\",[\"today\"]]],[],[]]"
        else if path = "types" then "[[],[[\"Level, to: Mode\",[\"low\"]]],[],[]]"
        else "[[\"user.create\",\"\",\"create\",\"\",\"\",[\"level\"]," ++
          "[[\"due\",\"\",\"guts.Date\",\"\",\"\",null,true]," ++
          "[\"A/*\\\"+string(rune(utf8.RuneCountInString(\\\"\\\")))+\\\"*/\"," ++
          "\"\",\"custom/string\"]," ++
          "[\"level\",\"\",\"Level, to: Mode\"]]]]"))
      [⟨"users", some "types", none, some "commands", none⟩,
        ⟨"guts", some "dates", none, none, none⟩] = .ok run ∧
    m ∈ run ∧ m.context run .default = .ok context ∧ context.commands.commands = [view] ∧
    ("guts.Date" ∈ view.goFields.map (·.goType) ∧ context.commands.imports.date = false) ∧
    ("utf8.RuneCountInString" ∈ callees view.goValidation ∧
      context.commands.imports.utf8 = false) ∧
    typeNames view.tsCtorArgs.toList = ["Level", "Mode"] ∧
      ∀ name ∈ ["Level", "Mode"], name ∉ context.commands.imports.tsLocalTypes := by
  generalize hload : load _ _ = loaded
  have hcommands : loaded.toOption.map (fun run => run.map fun m => (m.id, m.commands)) =
      some [("users", [.createUnchecked]), ("guts", [])] := by
    rw [← hload]
    decide +kernel
  obtain ⟨run, rfl, hrun⟩ := map_toOption_eq_some.mp hcommands
  obtain ⟨m, hm, hdata⟩ := List.mem_map.mp (hrun ▸ List.mem_cons_self)
  obtain ⟨hid, hm'⟩ := Prod.mk.inj hdata
  obtain ⟨-, context, hcontext⟩ := exists_context_of_load hload hm .default
  obtain ⟨himports, hviews⟩ := Module.commands_of_context hcontext
  rw [hm', hid, List.forall₂_cons_left_iff] at hviews
  rw [hm'] at himports
  obtain ⟨view, _, hview, hnil, hcontextViews⟩ := hviews
  obtain rfl := List.forall₂_nil_left_iff.mp hnil
  have htexts : (Command.createUnchecked.view "users").toOption.map (fun view =>
      ((view.goFields.map (·.goType)).contains "guts.Date",
        (callees view.goValidation).contains "utf8.RuneCountInString",
        typeNames view.tsCtorArgs.toList)) = some (true, true, ["Level", "Mode"]) := by
    decide +kernel
  rw [hview] at htexts
  obtain ⟨hdate, hrest⟩ := Prod.mk.inj (Option.some.inj htexts)
  obtain ⟨hcallees, htypes⟩ := Prod.mk.inj hrest
  refine ⟨run, m, context, view, rfl, hm, hcontext, hcontextViews,
    ⟨List.contains_iff_mem.mp hdate, ?_⟩, ⟨List.contains_iff_mem.mp hcallees, ?_⟩, htypes, ?_⟩
  · rw [himports]
    decide +kernel
  · rw [himports]
    decide +kernel
  · intro name hname hlocal
    rw [himports, mem_tsLocalTypes_iff] at hlocal
    obtain ⟨c, hc, f, hf, -, ref, href, -, rfl⟩ := hlocal
    -- what the fields refer to has none of these names
    have hrefs : ∀ f ∈ Command.createUnchecked.fields, ∀ ref ∈ f.type.reference?,
        ref.name ∉ ["Level", "Mode"] := by
      decide +kernel
    rw [List.mem_singleton.mp hc] at hf
    exact hrefs f hf ref href hname

end Specloom
