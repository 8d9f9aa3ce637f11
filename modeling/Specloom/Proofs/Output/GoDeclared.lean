import Specloom.Proofs.Context.Imports

/-!
# What the Go files of a module declare

The Go files of a module are one package. They declare types and enums, what comes with an enum,
constants, structs with constructors, and variables for regular expressions: a file of a module
holds a declaration of each of these names.

## Main definitions

* `Context.goNames`: the names that the Go files of a module declare
* `GoDeclares`: the text that declares a name

## Main results

* `Loaded.exists_declaresIn`: every such name is declared in a Go file of the module
-/

namespace Specloom

open Template

/-- The names that come with an enum: its members, the check and the function with the digest. -/
def EnumDecl.goFunctions (e : EnumDecl) : List String :=
  [e.name ++ "Members", e.name ++ "Validate", e.exhaustiveName]

/-- The names that the Go files of a module declare, family by family: types and enums, what comes
with enums, constants for texts, structs of commands and of events with their constructors,
variables for regular expressions, and the constants of each enum. -/
def Context.goNames (c : Context) : List (List String) :=
  [c.types.declarations.map (·.name) ++ c.types.enums.map (·.name),
    c.types.enums.flatMap EnumDecl.goFunctions,
    c.types.stringConsts.map (·.key),
    c.commands.commands.map (·.structName),
    c.events.events.map (·.structName),
    c.events.events.map ("New" ++ ·.structName),
    c.commands.commands.flatMap fun v => v.regexps.map (·.var)] ++
  c.types.enums.map fun e => e.allMembers.map (·.goConst)

theorem Command.structName_of_view {module : String} {command : Command} {view : CommandView}
    (h : command.view module = .ok view) : view.structName = command.structName := by
  unfold Command.view at h
  simp only [bind_eq_ok, pure_eq_ok] at h
  obtain ⟨_, -, _, -, rfl⟩ := h
  rfl

/-- A context shows the names of its module. -/
structure Context.ShowsNames (c : Context) (m : Module) : Prop where
  types : c.types.declarations = m.types.map NamedType.declaration
  enums : c.types.enums = m.enums
  stringConsts : c.types.stringConsts = m.stringConsts
  commands : c.commands.commands.map (·.structName) = m.commands.map (·.structName)
  events : c.events.events.map (·.structName) = m.events.map fun e => Name.ofKey e.key

theorem Module.showsNames_of_context {m : Module} {run : List Module} {config : Config}
    {c : Context} (h : m.context run config = .ok c) : c.ShowsNames m := by
  simp only [Module.context, Module.commandsSection, bind_eq_ok, pure_eq_ok] at h
  obtain ⟨_, ⟨views, hviews, rfl⟩, rfl⟩ := h
  have hcommands : views.map (·.structName) = m.commands.map (·.structName) := by
    have hnames := (mapM_eq_ok.mp hviews).imp fun _ _ hview => Command.structName_of_view hview
    generalize m.commands = commands at hnames
    clear hviews
    induction hnames with
    | nil => rfl
    | cons hname _ ih => exact congrArg₂ List.cons hname ih
  exact {
    types := rfl
    enums := rfl
    stringConsts := rfl
    commands := hcommands
    events := by simp [Module.eventsSection, Event.view] }

/-! ## Declarations -/

/-- A text declares a name: a keyword before it, and a blank or a parenthesis behind it. In a group
of constants the name stands first in its line, with its type behind it. -/
inductive GoDeclares (name : String) : String → Prop where
  | keyword {text : String} (keyword after : String)
      (hkeyword : keyword ∈ ["type ", "func ", "var ", "const "])
      (hafter : after.toList.head?.any fun c => c == ' ' || c == '(')
      (htext : text = keyword ++ name ++ after) : GoDeclares name text
  | grouped (type : String) : GoDeclares name ("\t" ++ name ++ " " ++ type ++ " = ")

/-- The declaration of a named type declares its name. -/
theorem goDeclares_goDeclaration (name : String) (t : Datatype) :
    GoDeclares name (goDeclaration name t) := by
  unfold goDeclaration
  split
  · generalize "".intercalate _ = lines
    refine .keyword "type " (" struct \x7b\n" ++ lines ++ "\x7d") (by decide) ?_ ?_
    · simp [String.toList_append]
    · simp only [String.append_assoc]
  · refine .keyword "type " (" " ++ Datatype.go _) (by decide) ?_ (String.append_assoc ..)
    simp [String.toList_append]

variable {h : Helpers} {c : Context}

/-- A template shows a declaration of a name. -/
def ShowsDeclaration (h : Helpers) (c : Context) (template : Template) (name : String) : Prop :=
  ∃ text, GoDeclares name text ∧ Shows h c.fields template text

theorem showsDeclaration_type {d : TypeDeclaration} (hd : d ∈ c.types.declarations)
    (hgo : GoDeclares d.name d.go) : ShowsDeclaration h c Output.Go.types d.name :=
  ⟨_, hgo, .item 9 rfl rfl (List.mem_map_of_mem hd) fun _ => .parts 1 1 (renderNodes_print rfl)⟩

theorem showsDeclaration_enum {e : EnumDecl} (he : e ∈ c.types.enums) :
    ShowsDeclaration h c Output.Go.types e.name :=
  ⟨_, .keyword "type " " string\n" (by decide) (by decide) rfl,
    .item 10 rfl rfl (List.mem_map_of_mem he) fun _ => .parts 1 3 (renderNodes_between rfl _ _)⟩

theorem showsDeclaration_members {e : EnumDecl} (he : e ∈ c.types.enums) :
    ShowsDeclaration h c Output.Go.types (e.name ++ "Members") := by
  refine ⟨_, .keyword "var " " = []" (by decide) (by decide) ?_, .item 10 rfl rfl
    (List.mem_map_of_mem he) fun _ => .parts 7 3 (renderNodes_between rfl _ _)⟩
  simp only [String.append_assoc]
  rfl

theorem showsDeclaration_validate {e : EnumDecl} (he : e ∈ c.types.enums) :
    ShowsDeclaration h c Output.Go.types (e.name ++ "Validate") := by
  refine ⟨_, .keyword "func " "(input string) (" (by decide) (by decide) ?_, .item 10 rfl rfl
    (List.mem_map_of_mem he) fun _ => .parts 29 3 (renderNodes_between rfl _ _)⟩
  simp only [String.append_assoc]
  rfl

theorem showsDeclaration_exhaustive {e : EnumDecl} (he : e ∈ c.types.enums) :
    ShowsDeclaration h c Output.Go.types e.exhaustiveName := by
  refine ⟨_, .keyword "func " "(in " (by decide) (by decide) ?_, .item 10 rfl rfl
    (List.mem_map_of_mem he) fun _ => .parts 49 5 (renderNodes_between₂ rfl rfl _ _ _)⟩
  simp only [EnumDecl.exhaustiveName, String.append_assoc]

theorem showsDeclaration_goConst {e : EnumDecl} (he : e ∈ c.types.enums) {m : Member}
    (hm : m ∈ e.allMembers) : ShowsDeclaration h c Output.Go.types m.goConst :=
  ⟨_, .grouped e.name, .item 10 rfl rfl (List.mem_map_of_mem he) fun _ =>
    .item 5 rfl rfl (List.mem_map_of_mem hm) fun _ =>
      .parts 0 5 (renderNodes_between₂ rfl rfl _ _ _)⟩

theorem showsDeclaration_stringConst {s : StringConst} (hs : s ∈ c.types.stringConsts) :
    ShowsDeclaration h c Output.Go.types s.key :=
  ⟨_, .keyword "const " " = " (by decide) (by decide) rfl,
    .branch 11 rfl rfl (by simp [toValue, Value.isTruthy, List.ne_nil_of_mem hs]) <|
      .item 1 rfl rfl (List.mem_map_of_mem hs) fun _ => .parts 0 3 (renderNodes_between rfl _ _)⟩

theorem showsDeclaration_command {v : CommandView} (hv : v ∈ c.commands.commands) :
    ShowsDeclaration h c Output.Go.commands v.structName :=
  ⟨_, .keyword "type " " struct \x7b\n" (by decide) (by decide) rfl,
    .item 21 rfl rfl (List.mem_map_of_mem hv) fun _ => .parts 5 3 (renderNodes_between rfl _ _)⟩

theorem showsDeclaration_regexp {v : CommandView} (hv : v ∈ c.commands.commands) {r : RegexpView}
    (hr : r ∈ v.regexps) : ShowsDeclaration h c Output.Go.commands r.var :=
  ⟨_, .keyword "var " " = regexp.MustCompile(" (by decide) (by decide) rfl,
    .item 21 rfl rfl (List.mem_map_of_mem hv) fun _ =>
      .item 0 rfl rfl (List.mem_map_of_mem hr) fun _ => .parts 1 3 (renderNodes_between rfl _ _)⟩

theorem showsDeclaration_event {v : EventView} (hv : v ∈ c.events.events) :
    ShowsDeclaration h c Output.Go.events v.structName :=
  ⟨_, .keyword "type " " struct \x7b\n" (by decide) (by decide) rfl,
    .item 13 rfl rfl (List.mem_map_of_mem hv) fun _ => .parts 4 3 (renderNodes_between rfl _ _)⟩

theorem showsDeclaration_constructor {v : EventView} (hv : v ∈ c.events.events) :
    ShowsDeclaration h c Output.Go.events ("New" ++ v.structName) := by
  refine ⟨_, .keyword "func " "(" (by decide) (by decide) ?_, .item 13 rfl rfl
    (List.mem_map_of_mem hv) fun _ => .parts 10 3 (renderNodes_between rfl _ _)⟩
  rw [← String.append_assoc]
  rfl

/-! ## Files -/

/-- A Go file of a module declares a name. -/
def Module.DeclaresIn (m : Module) (files : List OutputFile) (file name : String) : Prop :=
  ∃ output ∈ files, output.path = "backend/" ++ m.path ++ "/" ++ file ++ ".gen.go" ∧
    ∃ text, GoDeclares name text ∧ StandsIn text output.content

/-- What the template of a planned file declares is declared in a generated file. -/
theorem Module.declaresIn_of_mem_plan {m : Module} {run : List Module} {config : Config}
    (hc : m.context run config = .ok c) {files : List OutputFile}
    (hfiles : m.generate run config h = .ok files) {file : String} {template : Template}
    (hfile : m.goFile file template ∈ m.plan config) {name : String}
    (hname : ShowsDeclaration h c template name) : m.DeclaresIn files file name := by
  obtain ⟨text, hdeclares, hshows⟩ := hname
  obtain ⟨body, hbody, hstands⟩ := Module.exists_output_of_shows hc hfiles hfile hshows
  exact ⟨_, hbody, rfl, text, hdeclares, hstands.trans (standsIn_append_right _ _)⟩

/-- What a module has comes from documents that it has. -/
structure Module.HasDocuments (m : Module) : Prop where
  types : m.present.types = true ∨ m.types = [] ∧ m.enums = [] ∧ m.stringConsts = []
  events : m.present.events = true ∨ m.events = []
  commands : m.present.commands = true ∨ m.commands = []

theorem Documents.hasDocuments_of_declare {d : Documents} {m : Module} (h : d.declare = .ok m) :
    m.HasDocuments := by
  rw [declare] at h
  simp only [bind_eq_ok, pure_eq_ok] at h
  obtain ⟨types, htypes, _, -, events, hevents, _, -, rfl⟩ := h
  refine ⟨?_, ?_, .inr rfl⟩
  · cases hd : d.types with
    | some source => simp [present, hd]
    | none =>
      rw [hd] at htypes
      cases htypes
      simp
  · cases hd : d.events with
    | some source => simp [present, hd]
    | none =>
      rw [hd] at hevents
      cases hevents
      simp

theorem Documents.hasDocuments_of_addCommands {run : List Module} {d : Documents} {m m' : Module}
    (hdeclare : d.declare = .ok m) (h : d.addCommands run m = .ok m') : m'.HasDocuments := by
  have hm := hasDocuments_of_declare hdeclare
  obtain ⟨-, -, hpresent⟩ := header_of_declare hdeclare
  rw [addCommands] at h
  split at h
  · cases h
    exact hm
  · rename_i source hsource
    simp only [bind_eq_ok, pure_eq_ok] at h
    obtain ⟨commands, -, rfl⟩ := h
    exact ⟨hm.types, hm.events, .inl (by simp [hpresent, present, hsource])⟩

theorem Loaded.hasDocuments {docs : List Documents} {declared run : List Module}
    (h : Loaded docs declared run) {m : Module} (hm : m ∈ run) : m.HasDocuments := by
  obtain ⟨d, -, m₀, -, hdeclare, hcommands⟩ := h.exists_documents hm
  exact Documents.hasDocuments_of_addCommands hdeclare hcommands

/-- Whether there is something to show from the types document. -/
def TypesSection.NonEmpty (s : TypesSection) : Prop :=
  s.declarations ≠ [] ∨ s.enums ≠ [] ∨ s.stringConsts ≠ []

/-- What a context shows comes from documents that its module has. -/
theorem Context.ShowsNames.present {m : Module} (hshows : c.ShowsNames m) (hdocs : m.HasDocuments) :
    (c.types.NonEmpty → m.present.types = true) ∧
    (c.events.events ≠ [] → m.present.events = true) ∧
    (c.commands.commands ≠ [] → m.present.commands = true) := by
  refine ⟨fun hne => ?_, fun hne => ?_, fun hne => ?_⟩
  · refine hdocs.types.resolve_right fun ⟨htypes, henums, hconsts⟩ => ?_
    simp [TypesSection.NonEmpty, hshows.types, htypes, hshows.enums, henums, hshows.stringConsts,
      hconsts] at hne
  · refine hdocs.events.resolve_right fun hnil => hne ?_
    have hevents := hshows.events
    rwa [hnil, List.map_nil, List.map_eq_nil_iff] at hevents
  · refine hdocs.commands.resolve_right fun hnil => hne ?_
    have hcommands := hshows.commands
    rwa [hnil, List.map_nil, List.map_eq_nil_iff] at hcommands

/-- Every name of a package is declared by one of three templates, which has something to show. -/
theorem Context.ShowsNames.exists_showsDeclaration {m : Module} (hshows : c.ShowsNames m)
    {name : String} (hname : name ∈ c.goNames.flatten) :
    (c.types.NonEmpty ∧ ShowsDeclaration h c Output.Go.types name) ∨
    (c.events.events ≠ [] ∧ ShowsDeclaration h c Output.Go.events name) ∨
    (c.commands.commands ≠ [] ∧ ShowsDeclaration h c Output.Go.commands name) := by
  have henums {e : EnumDecl} (he : e ∈ c.types.enums) : c.types.NonEmpty :=
    .inr (.inl (List.ne_nil_of_mem he))
  obtain ⟨family, hfamily, hname⟩ := List.mem_flatten.mp hname
  rw [goNames, List.mem_append, List.mem_map] at hfamily
  rcases hfamily with hfamily | ⟨e, he, rfl⟩
  · simp only [List.mem_cons, List.not_mem_nil, or_false] at hfamily
    rcases hfamily with rfl | rfl | rfl | rfl | rfl | rfl | rfl
    · rcases List.mem_append.mp hname with hname | hname
      · obtain ⟨d, hd, rfl⟩ := List.mem_map.mp hname
        have hgo : GoDeclares d.name d.go := by
          obtain ⟨t, -, rfl⟩ := List.mem_map.mp (hshows.types ▸ hd)
          exact goDeclares_goDeclaration t.name t.type
        exact .inl ⟨.inl (List.ne_nil_of_mem hd), showsDeclaration_type hd hgo⟩
      · obtain ⟨e, he, rfl⟩ := List.mem_map.mp hname
        exact .inl ⟨henums he, showsDeclaration_enum he⟩
    · obtain ⟨e, he, hname⟩ := List.mem_flatMap.mp hname
      simp only [EnumDecl.goFunctions, List.mem_cons, List.not_mem_nil, or_false] at hname
      refine .inl ⟨henums he, ?_⟩
      rcases hname with rfl | rfl | rfl
      · exact showsDeclaration_members he
      · exact showsDeclaration_validate he
      · exact showsDeclaration_exhaustive he
    · obtain ⟨s, hs, rfl⟩ := List.mem_map.mp hname
      exact .inl ⟨.inr (.inr (List.ne_nil_of_mem hs)), showsDeclaration_stringConst hs⟩
    · obtain ⟨v, hv, rfl⟩ := List.mem_map.mp hname
      exact .inr (.inr ⟨List.ne_nil_of_mem hv, showsDeclaration_command hv⟩)
    · obtain ⟨v, hv, rfl⟩ := List.mem_map.mp hname
      exact .inr (.inl ⟨List.ne_nil_of_mem hv, showsDeclaration_event hv⟩)
    · obtain ⟨v, hv, rfl⟩ := List.mem_map.mp hname
      exact .inr (.inl ⟨List.ne_nil_of_mem hv, showsDeclaration_constructor hv⟩)
    · obtain ⟨v, hv, hname⟩ := List.mem_flatMap.mp hname
      obtain ⟨r, hr, rfl⟩ := List.mem_map.mp hname
      exact .inr (.inr ⟨List.ne_nil_of_mem hv, showsDeclaration_regexp hv hr⟩)
  · obtain ⟨member, hmember, rfl⟩ := List.mem_map.mp hname
    exact .inl ⟨henums he, showsDeclaration_goConst he hmember⟩

/-- **Every name is declared** in one of the Go files of its module. -/
theorem Loaded.exists_declaresIn {docs : List Documents} {declared run : List Module}
    (hloaded : Loaded docs declared run) {m : Module} (hm : m ∈ run) {config : Config}
    (hc : m.context run config = .ok c) {files : List OutputFile}
    (hfiles : m.generate run config h = .ok files) {name : String}
    (hname : name ∈ c.goNames.flatten) : ∃ file, m.DeclaresIn files file name := by
  have hshows := Module.showsNames_of_context hc
  obtain ⟨htypes, hevents, hcommands⟩ := hshows.present (hloaded.hasDocuments hm)
  rcases hshows.exists_showsDeclaration hname with ⟨hne, hname⟩ | ⟨hne, hname⟩ | ⟨hne, hname⟩
  · exact ⟨"types", m.declaresIn_of_mem_plan hc hfiles
      (by simp [Module.plan, filesIf, htypes hne]) hname⟩
  · exact ⟨"events", m.declaresIn_of_mem_plan hc hfiles
      (by simp [Module.plan, filesIf, hevents hne]) hname⟩
  · exact ⟨"commands", m.declaresIn_of_mem_plan hc hfiles
      (by simp [Module.plan, filesIf, hcommands hne]) hname⟩

end Specloom
