import Specloom.Proofs.Module.Loaded

/-!
# The names of a module

The names of a module are checked place by place, and the first place whose names are refused gives
the error. What is required at a place is one of three things: the names are distinct, no key
becomes the name of a generated method, or the arguments of a command are its fields. So the checks
are one list of requirements that is gone through in order.

## Main definitions

* `NameRule`, `NameRule.Holds`: what is required of the names at a place
* `NameRule.Breaks`: how names break it, with the first of them in the error
* `Module.nameRules`: the requirements of a module, in the order in which they are checked
* `Module.ProperNames`: all of them together

## Main results

* `Module.checkStructure_eq_forM`: the checks of a module are those of its requirements
* `Module.checkStructure_eq_ok_iff`: what is accepted
* `Module.checkStructure_reports_first`: what is accepted, and what is reported otherwise
-/

namespace Specloom

/-! ## Requirements -/

/-- What is required of the names at a place of a module. -/
inductive NameRule where
  /-- The names are distinct. -/
  | distinct (location : Location) (kind : NameKind) (names : List String)
  /-- No key becomes the name of a method. -/
  | notReserved (location : Location) (methods keys : List String)
  /-- The arguments of a command are keys of its fields. -/
  | known (command : String) (args keys : List String)

namespace NameRule

/-- The names are as required. -/
def Holds : NameRule → Prop
  | .distinct _ _ names => names.Nodup
  | .notReserved _ methods keys => ∀ key ∈ keys, Name.upperFirst key ∉ methods
  | .known _ args keys => ∀ arg ∈ args, arg ∈ keys

/-- The names are not as required. The error is about the first of them that is not: it repeats one
before it, it becomes the name of a method, or it is no key. -/
inductive Breaks (module : String) : NameRule → Error → Prop
  | repeated {location : Location} {kind : NameKind} {name : String} {before after : List String}
    (hname : name ∈ before) (hfirst : before.Nodup) :
    Breaks module (.distinct location kind (before ++ name :: after))
      (.duplicate module location kind name)
  | reserved {location : Location} {methods : List String} {key : String}
    {before after : List String} (hkey : Name.upperFirst key ∈ methods)
    (hfirst : ∀ other ∈ before, Name.upperFirst other ∉ methods) :
    Breaks module (.notReserved location methods (before ++ key :: after))
      (.reservedName module location key (Name.upperFirst key))
  | unknown {command arg : String} {keys before after : List String} (harg : arg ∉ keys)
    (hfirst : ∀ other ∈ before, other ∈ keys) :
    Breaks module (.known command (before ++ arg :: after) keys)
      (.unknownArgument module command arg)

/-- Checks the names at a place. -/
def check (module : String) : NameRule → Except Error Unit
  | .distinct location kind names => checkDistinct module location kind names
  | .notReserved location methods keys => checkNotReserved module location methods keys
  | .known command args keys =>
    match args.find? fun arg => !keys.contains arg with
    | some arg => .error (.unknownArgument module command arg)
    | none => .ok ()

variable {module : String} {rule : NameRule} {e : Error}

section FirstFault

variable {names : List String} {refused : String → Bool} {fault : String → Error}

/-- A search passes if no name is refused. -/
theorem firstFault_eq_ok_iff :
    (match names.find? refused with
      | some name => .error (fault name)
      | none => .ok ()) = (.ok () : Except Error Unit) ↔ ∀ name ∈ names, ¬ refused name := by
  rw [← List.find?_eq_none]
  cases names.find? refused <;> simp

/-- A search that ends with the first name that is refused. -/
theorem firstFault_eq_error_iff :
    (match names.find? refused with
      | some name => .error (fault name)
      | none => .ok ()) = (.error e : Except Error Unit) ↔ ∃ before name after,
        names = before ++ name :: after ∧ refused name ∧ (∀ other ∈ before, ¬ refused other) ∧
          fault name = e := by
  constructor
  · intro h
    split at h
    · rename_i name hfind
      obtain ⟨hname, before, after, rfl, hfirst⟩ := List.find?_eq_some_iff_append.mp hfind
      cases h
      exact ⟨before, name, after, rfl, hname, by simpa using hfirst, rfl⟩
    · cases h
  · rintro ⟨before, name, after, rfl, hname, hfirst, rfl⟩
    rw [List.find?_eq_some_iff_append.mpr ⟨hname, before, after, rfl, by simpa using hfirst⟩]

end FirstFault

theorem check_eq_ok_iff : rule.check module = .ok () ↔ rule.Holds := by
  cases rule with
  | distinct location kind names => exact checkDistinct_eq_ok_iff ..
  | notReserved location methods keys =>
    refine firstFault_eq_ok_iff.trans ?_
    simp only [List.contains_iff_mem, Holds]
  | known command args keys =>
    refine firstFault_eq_ok_iff.trans ?_
    simp only [Bool.not_eq_true', Bool.not_eq_false, List.contains_iff_mem, Holds]

theorem checkDistinct_eq_error_iff {location : Location} {kind : NameKind} {names : List String} :
    checkDistinct module location kind names = .error e ↔
      (distinct location kind names).Breaks module e := by
  rw [checkDistinct]
  constructor
  · intro h
    split at h
    · rename_i name hrepeat
      obtain ⟨before, after, rfl, hname, hfirst⟩ := firstRepeat?_eq_some_iff.mp hrepeat
      cases h
      exact .repeated hname hfirst
    · cases h
  · rintro ⟨⟩
    rename_i name before after hname hfirst
    rw [firstRepeat?_eq_some_iff.mpr ⟨before, after, rfl, hname, hfirst⟩]

theorem check_eq_error_iff : rule.check module = .error e ↔ rule.Breaks module e := by
  cases rule with
  | distinct location kind names => exact checkDistinct_eq_error_iff
  | notReserved location methods keys =>
    refine firstFault_eq_error_iff.trans ?_
    simp only [List.contains_iff_mem]
    constructor
    · rintro ⟨before, key, after, rfl, hkey, hfirst, rfl⟩
      exact .reserved hkey hfirst
    · rintro ⟨⟩
      rename_i key before after hkey hfirst
      exact ⟨before, key, after, rfl, hkey, hfirst, rfl⟩
  | known command args keys =>
    refine firstFault_eq_error_iff.trans ?_
    simp only [Bool.not_eq_true', List.contains_eq_mem, decide_eq_false_iff_not, not_not]
    constructor
    · rintro ⟨before, arg, after, rfl, harg, hfirst, rfl⟩
      exact .unknown harg hfirst
    · rintro ⟨⟩
      rename_i arg before after harg hfirst
      exact ⟨before, arg, after, rfl, harg, hfirst, rfl⟩

end NameRule

/-! ## The requirements of a module -/

/-- The members of an enum, and their identifiers. -/
def EnumDecl.nameRules (e : EnumDecl) : List NameRule :=
  [.distinct (.enum e.name) .enumMember e.members,
    .distinct (.enum e.name) .enumMemberKey (e.members.map Name.pascal)]

/-- The fields of an event. -/
def Event.nameRules (e : Event) : List NameRule :=
  [.distinct (.event e.key) .field (e.fields.map (·.key)),
    .notReserved (.event e.key) eventMethods (e.fields.map (·.key))]

/-- The fields and the arguments of a command. -/
def Command.nameRules (c : Command) : List NameRule :=
  [.distinct (.command c.key) .field (c.fields.map (·.key)),
    .distinct (.command c.key) .argument c.args,
    .notReserved (.command c.key) commandMethods (c.fields.map (·.key)),
    .known c.key c.args (c.fields.map (·.key))]

/-- The parameters of a route, in its path and in its query. -/
def Route.UiRoute.nameRule (r : Route.UiRoute) : NameRule :=
  .distinct (.route r.id) .queryParam (r.path.placeholders ++ r.query.map (·.key))

/-- The requirements of a module, in the order in which they are checked: document by document, and
in each the names of its entries before what is inside of them. -/
def Module.nameRules (m : Module) : List NameRule :=
  [.distinct .types .type m.declaredNames,
    .distinct .types .stringConst (m.stringConsts.map (·.key)),
    .distinct .types .endpoint (m.endpoints.map (·.name))] ++
  m.enums.flatMap EnumDecl.nameRules ++
  .distinct .events .event (m.events.map (·.key)) :: m.events.flatMap Event.nameRules ++
  .distinct .commands .command (m.commands.map (·.key)) ::
    m.commands.flatMap Command.nameRules ++
  .distinct .uiRoutes .route (m.uiRoutes.map (·.id)) :: m.uiRoutes.map Route.UiRoute.nameRule

/-- The names of a module are distinct where they have to be, none becomes that of a method, and
arguments are fields. -/
structure Module.ProperNames (m : Module) : Prop where
  declared : (m.types.map (·.name) ++ m.enums.map (·.name)).Nodup
  stringConsts : (m.stringConsts.map (·.key)).Nodup
  endpoints : (m.endpoints.map (·.name)).Nodup
  events : (m.events.map (·.key)).Nodup
  commands : (m.commands.map (·.key)).Nodup
  routes : (m.uiRoutes.map (·.id)).Nodup
  enum : ∀ e ∈ m.enums, e.members.Nodup ∧ (e.members.map Name.pascal).Nodup
  event : ∀ e ∈ m.events, (e.fields.map (·.key)).Nodup ∧
    ∀ f ∈ e.fields, Name.upperFirst f.key ∉ ["Meta", "MetaType"]
  command : ∀ c ∈ m.commands, (c.fields.map (·.key)).Nodup ∧ c.args.Nodup ∧
    (∀ arg ∈ c.args, arg ∈ c.fields.map (·.key)) ∧
    ∀ f ∈ c.fields, Name.upperFirst f.key ∉ ["Key", "Validate", "MiddlewareChain"]
  route : ∀ r ∈ m.uiRoutes, (r.path.placeholders ++ r.query.map (·.key)).Nodup

/-! ## Checks -/

theorem EnumDecl.check_eq_forM (module : String) (e : EnumDecl) :
    e.check module = e.nameRules.forM (NameRule.check module) := by
  simp only [check, nameRules, forM_cons, NameRule.check]
  exact congrArg _ (funext fun _ => (bind_pure _).symm)

theorem Event.check_eq_forM (module : String) (e : Event) :
    e.check module = e.nameRules.forM (NameRule.check module) := by
  simp only [check, nameRules, forM_cons, NameRule.check]
  exact congrArg _ (funext fun _ => (bind_pure _).symm)

theorem Command.check_eq_forM (module : String) (c : Command) :
    c.check module = c.nameRules.forM (NameRule.check module) := by
  simp only [check, nameRules, forM_cons, NameRule.check]
  refine congrArg _ (funext fun _ => congrArg _ (funext fun _ => congrArg _ (funext fun _ => ?_)))
  exact (bind_pure _).symm

/-- **The checks of a module are those of its requirements**, in order. -/
theorem Module.checkStructure_eq_forM (m : Module) :
    m.checkStructure = m.nameRules.forM (NameRule.check m.id) := by
  have henums : m.enums.forM (EnumDecl.check m.id) =
      m.enums.forM fun e => e.nameRules.forM (NameRule.check m.id) :=
    forM_congr fun e _ => e.check_eq_forM m.id
  have hevents : m.events.forM (Event.check m.id) =
      m.events.forM fun e => e.nameRules.forM (NameRule.check m.id) :=
    forM_congr fun e _ => e.check_eq_forM m.id
  have hcommands : m.commands.forM (Command.check m.id) =
      m.commands.forM fun c => c.nameRules.forM (NameRule.check m.id) :=
    forM_congr fun c _ => c.check_eq_forM m.id
  rw [checkStructure, henums, hevents, hcommands]
  simp only [nameRules, forM_append, forM_cons, forM_flatMap, forM_map, NameRule.check, bind_assoc]
  rfl

/-- All requirements hold exactly if the names are proper. -/
theorem Module.forall_nameRules_iff {m : Module} :
    (∀ rule ∈ m.nameRules, rule.Holds) ↔ m.ProperNames := by
  simp only [nameRules, EnumDecl.nameRules, Event.nameRules, Command.nameRules,
    Route.UiRoute.nameRule, List.forall_mem_append, List.forall_mem_cons, List.forall_mem_map,
    List.forall_mem_flatMap, NameRule.Holds, List.not_mem_nil, false_imp_iff, implies_true,
    and_true]
  constructor
  · rintro ⟨⟨⟨⟨⟨hdeclared, hconsts, hendpoints⟩, henum⟩, hevents, hevent⟩, hcommands, hcommand⟩,
      hroutes, hroute⟩
    exact {
      declared := hdeclared
      stringConsts := hconsts
      endpoints := hendpoints
      events := hevents
      commands := hcommands
      routes := hroutes
      enum := henum
      event := hevent
      command := fun c hc => by
        obtain ⟨hfields, hargs, hreserved, hknown⟩ := hcommand c hc
        exact ⟨hfields, hargs, hknown, hreserved⟩
      route := hroute }
  · intro h
    refine ⟨⟨⟨⟨⟨h.declared, h.stringConsts, h.endpoints⟩, h.enum⟩, h.events, h.event⟩, h.commands,
      fun c hc => ?_⟩, h.routes, h.route⟩
    obtain ⟨hfields, hargs, hknown, hreserved⟩ := h.command c hc
    exact ⟨hfields, hargs, hreserved, hknown⟩

/-- **A module is accepted exactly if its names are proper.** -/
theorem Module.checkStructure_eq_ok_iff {m : Module} :
    m.checkStructure = .ok () ↔ m.ProperNames := by
  rw [checkStructure_eq_forM, forM_eq_ok, ← forall_nameRules_iff]
  simp only [NameRule.check_eq_ok_iff]

/-- **The names of a module are accepted exactly if they are proper; otherwise the error is about
the first requirement that they break**, and about the first name that breaks it. -/
theorem Module.checkStructure_reports_first (m : Module) :
    (m.checkStructure = .ok () ↔ m.ProperNames) ∧
      ∀ e, m.checkStructure = .error e ↔ ∃ before rule after,
        m.nameRules = before ++ rule :: after ∧ rule.Breaks m.id e ∧ ∀ r ∈ before, r.Holds := by
  refine ⟨checkStructure_eq_ok_iff, fun e => ?_⟩
  rw [checkStructure_eq_forM, forM_eq_error_iff]
  simp only [NameRule.check_eq_error_iff, NameRule.check_eq_ok_iff]

end Specloom
