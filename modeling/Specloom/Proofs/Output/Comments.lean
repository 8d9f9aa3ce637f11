import Specloom.Proofs.Context.EndpointParams
import Specloom.Proofs.Context.FieldNames
import Specloom.Proofs.Output.GoDeclared

/-!
# Texts behind comment marks

The files of both languages name things in comments: the key of an event or a command, the method
and the path of an endpoint, its description, the path of a route, and enums. These texts are not
escaped, and nothing keeps line ends out of them. The first line of such a text is in a comment; its
other lines are lines of the file on their own.

## Main definitions

* `OutputKind.isLineEnd`, `OutputKind.lines`: what ends a line in a language, and the lines of a text
* `OutputKind.HasComment`: where the lines of a text behind a mark are
* `Module.Comments`: the texts of a module that stand behind marks, with their files

## Main results

* `OutputKind.hasComment_of_standsIn`: the lines of a text behind a mark
* `Loaded.hasComment`: every such text stands behind a mark in its file
* `exists_broken_comment`: a description that leaves its comment
* `comments_of_load`: the comments in the files of a loaded module
-/

namespace Specloom

open Text Template

/-! ## Lines -/

namespace OutputKind

/-- What ends a line of a language, and a comment with it. -/
def isLineEnd : OutputKind → Char → Bool
  | .typescript, c => c == '\n' || c == '\r' || c == '\u2028' || c == '\u2029'
  | .go, c | .markdown, c => c == '\n'

/-- The lines of a text. -/
def lines (kind : OutputKind) (text : String) : List String :=
  (splitWhere kind.isLineEnd text.toList).map String.ofList

/-- The lines of a file have the first line of a text behind the mark of a comment, and then the
other lines of the text as they are. There are none exactly if nothing in the text ends a line. -/
def HasComment (kind : OutputKind) (content text : String) : Prop :=
  ∃ before first rest after, kind.lines content = before ++ ("// " ++ first) :: rest ++ after ∧
    kind.lines text = first :: rest ∧ (rest = [] ↔ ∀ c ∈ text.toList, kind.isLineEnd c = false)

/-- A comment on a line of its own. -/
def comment (text : String) : String :=
  "\n// " ++ text ++ "\n"

variable {kind : OutputKind}

theorem isLineEnd_newline (kind : OutputKind) : kind.isLineEnd '\n' = true := by
  cases kind <;> rfl

theorem lines_append (kind : OutputKind) (before after : String) :
    kind.lines (before ++ "\n" ++ after) = kind.lines before ++ kind.lines after := by
  have hchars : (before ++ "\n" ++ after).toList = before.toList ++ '\n' :: after.toList := by
    simp [String.toList_append]
  rw [lines, hchars, splitWhere_append_cons_append _ _ kind.isLineEnd_newline, List.map_append,
    lines, lines]

/-- **The lines of a text behind a mark.** -/
theorem hasComment_of_standsIn {content text : String} (h : StandsIn (comment text) content) :
    kind.HasComment content text := by
  obtain ⟨before, after, rfl⟩ := h
  obtain ⟨first, rest, hpieces⟩ :=
    List.exists_cons_of_ne_nil (splitWhere_ne_nil kind.isLineEnd text.toList)
  have hmark : ∀ c ∈ "// ".toList, kind.isLineEnd c = false := by
    simpa using show "// ".toList.any kind.isLineEnd = false by cases kind <;> rfl
  have hcomment : kind.lines ("// " ++ text) =
      ("// " ++ String.ofList first) :: rest.map String.ofList := by
    rw [lines, String.toList_append, splitWhere_append hmark hpieces, List.map_cons,
      String.ofList_append, String.ofList_toList]
  have hcontent : before ++ comment text ++ after =
      before ++ "\n" ++ ("// " ++ text) ++ "\n" ++ after := by
    simp only [comment, String.append_assoc]
    rfl
  refine ⟨kind.lines before, String.ofList first, rest.map String.ofList, kind.lines after,
    ?_, ?_, ?_⟩
  · rw [hcontent, lines_append, lines_append, hcomment]
  · rw [lines, hpieces, List.map_cons]
  · rw [List.map_eq_nil_iff]
    exact splitWhere_eq_singleton_iff hpieces

end OutputKind

/-! ## Comments of templates -/

variable {h : Helpers} {c : Context}

/-- Lines of which the last is empty. -/
theorem renderNodes_blankLine {scope : Scope} {lines : List String}
    (hblank : lines.getLast? = some "") : renderNodes h scope [.lines lines] =
      .ok (String.join (lines.dropLast.map (· ++ "\n")) ++ "\n") := by
  conv => lhs; rw [← List.dropLast_append_getLast? "" hblank]
  rw [renderNodes_lines, List.map_append, String.join_append]
  rfl

/-- What follows lines of which the last is empty begins a line. -/
theorem shows_line {scope : Scope} {nodes more : List Node} {lines : List String} {text : String}
    (skip count : Nat) (hnodes : (nodes.drop skip).take (count + 1) = .lines lines :: more)
    (hblank : lines.getLast? = some "") (hmore : renderNodes h scope more = .ok text) :
    Shows h scope nodes (String.join (lines.dropLast.map (· ++ "\n")) ++ "\n" ++ text) :=
  .parts skip (count + 1) <| by
    rw [hnodes]
    exact renderNodes_append (renderNodes_blankLine hblank) hmore

/-- A template shows a comment. -/
def ShowsComment (h : Helpers) (c : Context) (template : Template) (text : String) : Prop :=
  ∃ shown, Shows h c.fields template shown ∧ StandsIn (OutputKind.comment text) shown

theorem standsIn_comment (lead : String) {line text : String} (hline : line = "// " ++ text ++ "\n") :
    StandsIn (OutputKind.comment text) (lead ++ "\n" ++ line) := by
  refine ⟨lead, "", ?_⟩
  have hmark : "\n// " = "\n" ++ "// " := rfl
  simp only [OutputKind.comment, hline, String.append_assoc, hmark, String.append_empty]

theorem showsComment_event {e : Event} (he : e.view ∈ c.events.events) :
    ShowsComment h c Output.Go.events e.key :=
  ⟨_, .item 13 rfl rfl (List.mem_map_of_mem he) fun _ =>
    shows_line 0 3 rfl rfl (renderNodes_between rfl _ _), standsIn_comment _ rfl⟩

theorem showsComment_goCommand {v : CommandView} (hv : v ∈ c.commands.commands) :
    ShowsComment h c Output.Go.commands v.key :=
  ⟨_, .item 21 rfl rfl (List.mem_map_of_mem hv) fun _ =>
    shows_line 1 3 rfl rfl (renderNodes_between rfl _ _), standsIn_comment _ rfl⟩

theorem showsComment_tsCommand {v : CommandView} (hv : v ∈ c.commands.commands) :
    ShowsComment h c Output.TypeScript.commands v.key :=
  ⟨_, .item 7 rfl rfl (List.mem_map_of_mem hv) fun _ =>
    shows_line 0 3 rfl rfl (renderNodes_between rfl _ _), standsIn_comment _ rfl⟩

theorem showsComment_goEndpoint {e : Endpoint} (he : e.view ∈ c.endpoints.endpoints) :
    ShowsComment h c Output.Go.endpoints (e.method.name ++ " " ++ e.path.raw) :=
  ⟨_, .item 17 rfl rfl (List.mem_map_of_mem he) fun _ =>
    shows_line 0 5 rfl rfl (renderNodes_between₂ rfl rfl _ _ _),
    standsIn_comment _ (by simp only [Endpoint.view, String.append_assoc])⟩

theorem showsComment_tsEndpoint {e : Endpoint} (he : e.view ∈ c.endpoints.endpoints) :
    ShowsComment h c Output.TypeScript.endpoints (e.method.name ++ " " ++ e.path.raw) :=
  ⟨_, .item 9 rfl rfl (List.mem_map_of_mem he) fun _ =>
    shows_line 0 5 rfl rfl (renderNodes_between₂ rfl rfl _ _ _),
    standsIn_comment _ (by simp only [Endpoint.view, String.append_assoc])⟩

theorem showsComment_description {e : Endpoint} (he : e.view ∈ c.endpoints.endpoints)
    (hne : e.description ≠ "") :
    ShowsComment h c Output.TypeScript.endpoints e.description := by
  have htruthy : (toValue e.description).isTruthy = true := decide_eq_true hne
  -- the comment is written where there is a description
  refine ⟨"\n" ++ if (toValue e.description).isTruthy then "// " ++ e.description ++ "\n" else "",
    .item 9 rfl rfl (List.mem_map_of_mem he) fun _ => .parts 5 2 ?_,
    standsIn_comment "" (if_pos htruthy)⟩
  exact renderNodes_append (renderNodes_text "\n")
    (renderNodes_cond rfl (renderNodes_between rfl "// " "\n"))

theorem showsComment_route {r : Route.UiRoute} (hr : r.view ∈ c.uiRoutes.routes) :
    ShowsComment h c Output.TypeScript.uiRoutes r.path.raw :=
  ⟨_, .item 8 rfl rfl (List.mem_map_of_mem hr) fun _ =>
    shows_line 1 3 rfl rfl (renderNodes_between rfl _ _), standsIn_comment _ rfl⟩

theorem showsComment_enumCheck {e : EnumDecl} (he : e ∈ c.types.enums) :
    ShowsComment h c Output.Go.types
      (e.name ++ "Validate returns the first member equal to input.") := by
  refine ⟨_, .item 10 rfl rfl (List.mem_map_of_mem he) fun _ =>
    shows_line 25 3 rfl rfl (renderNodes_between rfl _ _), standsIn_comment _ ?_⟩
  simp only [String.append_assoc]
  rfl

theorem showsComment_enumDigest {e : EnumDecl} (he : e ∈ c.types.enums) :
    ShowsComment h c Output.Go.types
      ("Call this wherever you switch over " ++ e.name ++ ". The name carries a digest") := by
  refine ⟨_, .item 10 rfl rfl (List.mem_map_of_mem he) fun _ =>
    shows_line 44 3 rfl rfl (renderNodes_between rfl _ _), standsIn_comment _ ?_⟩
  have hmark : "// Call this wherever you switch over " =
    "// " ++ "Call this wherever you switch over " := rfl
  rw [hmark]
  simp only [String.append_assoc]
  rfl

/-! ## Comments of modules -/

/-- The texts of a module that stand behind marks of comments, each with its file: keys of events and
commands, methods and paths of endpoints, their descriptions, paths of routes, and names of enums
with what is said about them. -/
inductive Module.Comments (m : Module) : PlannedFile → String → Prop where
  | event {e : Event} (he : e ∈ m.events) :
    m.Comments (m.goFile "events" Output.Go.events) e.key
  | goCommand {command : Command} (hcommand : command ∈ m.commands) :
    m.Comments (m.goFile "commands" Output.Go.commands) command.key
  | tsCommand {command : Command} (hcommand : command ∈ m.commands) :
    m.Comments (m.tsFile "commands" Output.TypeScript.commands) command.key
  | goEndpoint {e : Endpoint} (he : e ∈ m.endpoints) :
    m.Comments (m.goFile "restendpoints" Output.Go.endpoints) (e.method.name ++ " " ++ e.path.raw)
  | tsEndpoint {e : Endpoint} (he : e ∈ m.endpoints) :
    m.Comments (m.tsFile "endpoints" Output.TypeScript.endpoints)
      (e.method.name ++ " " ++ e.path.raw)
  | description {e : Endpoint} (he : e ∈ m.endpoints) (hne : e.description ≠ "") :
    m.Comments (m.tsFile "endpoints" Output.TypeScript.endpoints) e.description
  | route {r : Route.UiRoute} (hr : r ∈ m.uiRoutes) :
    m.Comments (m.tsFile "uiroutes" Output.TypeScript.uiRoutes) r.path.raw
  | enumCheck {e : EnumDecl} (he : e ∈ m.enums) :
    m.Comments (m.goFile "types" Output.Go.types)
      (e.name ++ "Validate returns the first member equal to input.")
  | enumDigest {e : EnumDecl} (he : e ∈ m.enums) :
    m.Comments (m.goFile "types" Output.Go.types)
      ("Call this wherever you switch over " ++ e.name ++ ". The name carries a digest")

variable {m : Module} {run : List Module} {config : Config} {file : PlannedFile} {text : String}

theorem Command.key_of_view {module : String} {command : Command} {view : CommandView}
    (h : command.view module = .ok view) : view.key = command.key := by
  unfold Command.view at h
  simp only [bind_eq_ok, pure_eq_ok] at h
  obtain ⟨_, -, _, -, rfl⟩ := h
  rfl

theorem Module.routes_of_context (h : m.context run config = .ok c) :
    c.uiRoutes.routes = m.uiRoutes.map Route.UiRoute.view := by
  obtain ⟨commands, -, h⟩ := bind_eq_ok.mp h
  cases pure_eq_ok.mp h
  rfl

/-- The template of a file shows the comments of the file. -/
theorem Module.showsComment (hc : m.context run config = .ok c) (hcomment : m.Comments file text) :
    ShowsComment h c file.template text := by
  have hcommand {command : Command} (hmem : command ∈ m.commands) :
      ∃ view ∈ c.commands.commands, view.key = command.key := by
    obtain ⟨view, hview, hshows⟩ :=
      exists_mem_of_mem_mapM (mapM_eq_ok.mpr (Module.commands_of_context hc).2) hmem
    exact ⟨view, hview, Command.key_of_view hshows⟩
  have hendpoint {e : Endpoint} (he : e ∈ m.endpoints) : e.view ∈ c.endpoints.endpoints := by
    rw [Module.endpoints_of_context hc]
    exact List.mem_map_of_mem he
  have henums : c.types.enums = m.enums := (Module.showsNames_of_context hc).enums
  cases hcomment with
  | @event e he =>
    have hview : e.view ∈ c.events.events := by
      rw [Module.events_of_context hc]
      exact List.mem_map_of_mem he
    exact showsComment_event hview
  | goCommand hmem =>
    obtain ⟨view, hview, hkey⟩ := hcommand hmem
    rw [← hkey]
    exact showsComment_goCommand hview
  | tsCommand hmem =>
    obtain ⟨view, hview, hkey⟩ := hcommand hmem
    rw [← hkey]
    exact showsComment_tsCommand hview
  | goEndpoint he => exact showsComment_goEndpoint (hendpoint he)
  | tsEndpoint he => exact showsComment_tsEndpoint (hendpoint he)
  | description he hne => exact showsComment_description (hendpoint he) hne
  | @route r hr =>
    have hview : r.view ∈ c.uiRoutes.routes := by
      rw [Module.routes_of_context hc]
      exact List.mem_map_of_mem hr
    exact showsComment_route hview
  | enumCheck he => exact showsComment_enumCheck (henums ▸ he)
  | enumDigest he => exact showsComment_enumDigest (henums ▸ he)

namespace Loaded

variable {docs : List Documents} {declared : List Module}

/-- A module with routes has a document of routes. -/
theorem present_uiRoutes (hloaded : Loaded docs declared run) (hm : m ∈ run)
    (hne : m.uiRoutes ≠ []) : m.present.uiRoutes = true := by
  obtain ⟨d, -, m₀, -, hdeclare, hcommands⟩ := hloaded.exists_documents hm
  rw [(Documents.addCommands_eq_ok hcommands).1] at hne ⊢
  rw [Documents.declare] at hdeclare
  simp only [bind_eq_ok, pure_eq_ok] at hdeclare
  obtain ⟨_, -, _, -, _, -, routes, hroutes, rfl⟩ := hdeclare
  cases hd : d.uiRoutes with
  | some source => simp [Documents.present, hd]
  | none =>
    rw [hd] at hroutes
    cases hroutes
    exact absurd rfl hne

/-- A file with comments is planned. -/
theorem mem_plan_of_comments (hloaded : Loaded docs declared run) (hm : m ∈ run)
    (config : Config) (hcomment : m.Comments file text) : file ∈ m.plan config := by
  have hdocs := hloaded.hasDocuments hm
  have hcommands {command : Command} (hmem : command ∈ m.commands) : m.present.commands = true :=
    hdocs.commands.resolve_right (List.ne_nil_of_mem hmem)
  have hendpoints {e : Endpoint} (he : e ∈ m.endpoints) : m.endpoints.isEmpty = false := by
    simpa using List.ne_nil_of_mem he
  have htypes {e : EnumDecl} (he : e ∈ m.enums) : m.present.types = true :=
    hdocs.types.resolve_right fun hnil => List.ne_nil_of_mem he hnil.2.1
  cases hcomment with
  | event he =>
    simp [Module.plan, filesIf, hdocs.events.resolve_right (List.ne_nil_of_mem he)]
  | goCommand hmem | tsCommand hmem => simp [Module.plan, filesIf, hcommands hmem]
  | goEndpoint he | tsEndpoint he | description he _ =>
    simp [Module.plan, filesIf, hendpoints he]
  | route hr =>
    simp [Module.plan, filesIf, hloaded.present_uiRoutes hm (List.ne_nil_of_mem hr)]
  | enumCheck he | enumDigest he => simp [Module.plan, filesIf, htypes he]

/-- **Every such text stands behind a mark** in a generated file. -/
theorem hasComment (hloaded : Loaded docs declared run) (hm : m ∈ run) {files : List OutputFile}
    (hfiles : m.generate run config h = .ok files) (hcomment : m.Comments file text) :
    ∃ content, ⟨file.path, content⟩ ∈ files ∧ file.kind.HasComment content text := by
  obtain ⟨c, hc, -⟩ := bind_eq_ok.mp hfiles
  obtain ⟨shown, hshows, hstands⟩ := Module.showsComment hc hcomment
  obtain ⟨body, hbody, hshown⟩ := Module.exists_output_of_shows hc hfiles
    (hloaded.mem_plan_of_comments hm config hcomment) hshows
  exact ⟨_, hbody, OutputKind.hasComment_of_standsIn
    ((hstands.trans hshown).trans (standsIn_append_right _ _))⟩

end Loaded

/-- **The comments in the files of a loaded module.** Every text behind a mark begins in a comment,
and stays in it exactly if it has no line end of the language: its other lines are lines of the file
as they are. -/
theorem comments_of_load {source : Source} {configs : List ModuleConfig}
    (hload : load source configs = .ok run) (hm : m ∈ run) (config : Config) :
    ∃ files, m.generate run config .standard = .ok files ∧
      ∀ file text, m.Comments file text → ∃ content, ⟨file.path, content⟩ ∈ files ∧
        file.kind.HasComment content text := by
  obtain ⟨docs, declared, -, hloaded⟩ := load_eq_ok.mp hload
  obtain ⟨files, hfiles⟩ := hloaded.exists_generate hm config
  exact ⟨files, hfiles, fun file text hcomment => hloaded.hasComment hm hfiles hcomment⟩

/-- Of a run of one module, where one endpoint is described, the description is a comment. -/
theorem exists_described {loaded : Except Error (List Module)} {path text : String}
    (h : loaded.toOption.map (fun run => run.map fun m =>
      (m.path, m.endpoints.map (·.description))) = some [(path, [text])]) (hne : text ≠ "") :
    ∃ m, loaded = .ok [m] ∧ m.path = path ∧
      m.Comments (m.tsFile "endpoints" Output.TypeScript.endpoints) text := by
  obtain ⟨run, rfl, hrun⟩ := map_toOption_eq_some.mp h
  obtain ⟨m, rfl, hmodule⟩ := List.map_eq_singleton_iff.mp hrun
  obtain ⟨hpath, hdescriptions⟩ := Prod.mk.inj hmodule
  obtain ⟨e, he, rfl⟩ := List.map_eq_singleton_iff.mp hdescriptions
  exact ⟨m, rfl, hpath, .description (he ▸ List.mem_singleton_self e) hne⟩

/-- A description of one line is one line of the file, behind the mark. -/
theorem comments_of_load_description : ∃ run m files content before after, load
      (fun _ => .ok ("[[],[],[]," ++
        "[[\"listUsers\",\"GET\",\"/users\",\"public\",null,null,\"Lists the users.\"]]]"))
      [⟨"users", some "types", none, none, none⟩] = .ok run ∧ m ∈ run ∧
    m.generate run .default .standard = .ok files ∧
    ⟨"frontend/users_endpoints.ts", content⟩ ∈ files ∧
    OutputKind.typescript.lines content = before ++ "// Lists the users." :: after := by
  generalize hload : load _ _ = loaded
  have hdata : loaded.toOption.map (fun run => run.map fun m =>
      (m.path, m.endpoints.map (·.description))) = some [("users", ["Lists the users."])] := by
    rw [← hload]
    decide +kernel
  obtain ⟨m, rfl, hpath, hcomment⟩ := exists_described hdata (by decide)
  obtain ⟨files, hfiles, hcomments⟩ := comments_of_load hload (List.mem_singleton_self m) .default
  obtain ⟨content, hcontent, before, first, rest, after, hlines, htext, -⟩ :=
    hcomments _ _ hcomment
  have hone : OutputKind.lines .typescript "Lists the users." = ["Lists the users."] := by
    decide +kernel
  obtain ⟨rfl, rfl⟩ := List.cons.inj (hone.symm.trans htext)
  rw [Module.tsFile, hpath] at hcontent
  exact ⟨_, m, files, content, before, after, rfl, List.mem_singleton_self m, hfiles, hcontent,
    hlines.trans (List.append_assoc ..)⟩

/-- A description that leaves its comment: its second line is a line of the file. -/
theorem exists_broken_comment : ∃ run m files content before after, load
      (fun _ => .ok ("[[],[],[]," ++
        "[[\"listUsers\",\"GET\",\"/users\",\"public\",null,null,\"Lists users.\\nPaged.\"]]]"))
      [⟨"users", some "types", none, none, none⟩] = .ok run ∧ m ∈ run ∧
    m.generate run .default .standard = .ok files ∧
    ⟨"frontend/users_endpoints.ts", content⟩ ∈ files ∧
    OutputKind.typescript.lines content = before ++ "// Lists users." :: "Paged." :: after := by
  generalize hload : load _ _ = loaded
  have hdata : loaded.toOption.map (fun run => run.map fun m =>
      (m.path, m.endpoints.map (·.description))) = some [("users", ["Lists users.\nPaged."])] := by
    rw [← hload]
    decide +kernel
  obtain ⟨m, rfl, hpath, hcomment⟩ := exists_described hdata (by decide)
  obtain ⟨docs, declared, -, hloaded⟩ := load_eq_ok.mp hload
  obtain ⟨files, hfiles⟩ := hloaded.exists_generate (List.mem_singleton_self m) .default
  obtain ⟨content, hcontent, before, first, rest, after, hlines, htext, -⟩ :=
    hloaded.hasComment (List.mem_singleton_self m) hfiles hcomment
  have htwo : OutputKind.lines .typescript "Lists users.\nPaged." = ["Lists users.", "Paged."] := by
    decide +kernel
  obtain ⟨rfl, rfl⟩ := List.cons.inj (htwo.symm.trans htext)
  rw [Module.tsFile, hpath] at hcontent
  exact ⟨_, m, files, content, before, after, rfl, List.mem_singleton_self m, hfiles, hcontent,
    hlines.trans (List.append_assoc ..)⟩

end Specloom
