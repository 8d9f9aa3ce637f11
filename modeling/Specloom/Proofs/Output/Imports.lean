import Specloom.Proofs.Context.Needs
import Specloom.Proofs.Path.GoUrl
import Specloom.Proofs.Template.Parts

/-!
# Imports in generated files

A file of a section begins with its imports. Some of them are there whatever the datatypes are, and
the others are what the datatypes of the section ask for: helpers for built-in types, and other
modules. In a loaded run a file has these exactly if a datatype of the section mentions them.

## Main definitions

* `DatatypeFile`: the files that show the datatypes of a section
* `FileImport`, `DatatypeFile.imports`: the imports of a file
* `Module.ExactImports`: the imports of all files are those that the datatypes mention

## Main results

* `DatatypeFile.renderNodes_begin`: how a file begins
* `exactImports_of_load`: the imports of a loaded run are exact
-/

namespace Specloom

open Template

/-- The name of a section in templates. -/
def Section.name : Section → String
  | .types => "types"
  | .events => "events"
  | .endpoints => "endpoints"

/-- The files that show the datatypes of a section. -/
inductive DatatypeFile where
  | goTypes | goEvents | goEndpoints | tsTypes | tsEndpoints
deriving DecidableEq, Repr

/-- What stands among the imports of a file. -/
inductive FileImport where
  /-- A line that is not about a datatype. -/
  | line (text : String)
  /-- The helper for a built-in type. -/
  | scalar (s : Scalar)
  /-- Types of the own module. -/
  | localTypes (names : List String)
  | module (i : ModuleImport)
deriving DecidableEq, Repr

/-- The package with the Go type of a scalar, unless Go has the type built in. -/
def Scalar.goPackage? (config : Config) : Scalar → Option String
  | .date => some (config.backendRuntime ++ "/guts")
  | .datetime => some "time"
  | .string | .boolean | .integer | .binary => none

namespace FileImport

/-- The import of a package in Go. -/
def goPackage (path : String) : String :=
  "\t\"" ++ path ++ "\"\n"

/-- The text of an import in a file of a kind. -/
def text (c : Context) : OutputKind → FileImport → String
  | _, .line text => text ++ "\n"
  | .go, .scalar s => ((s.goPackage? c.config).map goPackage).getD ""
  | _, .scalar s =>
    "import \x7b " ++ s.ts ++ " \x7d from '" ++ c.config.frontendRuntime ++ "types';\n"
  | _, .localTypes names => "import \x7b\n" ++
    String.join (names.map fun name => "\t" ++ name ++ ",\n") ++
      ("\x7d from './" ++ c.module.id ++ "_types';\n")
  | .go, .module i => goPackage i.goPath
  | _, .module i => "import * as " ++ i.id ++ " from '" ++ i.tsPath ++ "';\n"

/-- Imports one after the other. -/
def texts (c : Context) (kind : OutputKind) (imports : List FileImport) : String :=
  String.join (imports.map (text c kind))

/-- Some imports, if they are needed. -/
def onlyIf (needed : Bool) (imports : List FileImport) : List FileImport :=
  if needed then imports else []

end FileImport

namespace DatatypeFile

open FileImport

/-- The section whose datatypes a file shows. -/
def shows : DatatypeFile → Section
  | .goTypes | .tsTypes => .types
  | .goEvents => .events
  | .goEndpoints | .tsEndpoints => .endpoints

/-- The template of a file. -/
def template : DatatypeFile → Template
  | .goTypes => Output.Go.types
  | .goEvents => Output.Go.events
  | .goEndpoints => Output.Go.endpoints
  | .tsTypes => Output.TypeScript.types
  | .tsEndpoints => Output.TypeScript.endpoints

/-- The file of a module. -/
def planned (m : Module) (f : DatatypeFile) : PlannedFile :=
  match f with
  | .goTypes => m.goFile "types" f.template
  | .goEvents => m.goFile "events" f.template
  | .goEndpoints => m.goFile "restendpoints" f.template
  | .tsTypes => m.tsFile "types" f.template
  | .tsEndpoints => m.tsFile "endpoints" f.template

/-- The lines before the imports. -/
def header (c : Context) : DatatypeFile → List String
  | .goTypes | .goEvents | .goEndpoints => ["package " ++ c.module.id, "", "import ("]
  | .tsTypes | .tsEndpoints => ["// tslint:disable"]

/-- The imports of a file, in order. -/
def imports (c : Context) : DatatypeFile → List FileImport
  | .goTypes =>
    onlyIf (!c.types.enums.isEmpty) [.line "\t\"encoding/json\"", .line "\t\"fmt\""] ++
    onlyIf (c.needs .types).datetime [.scalar .datetime] ++
    onlyIf (c.needs .types).date [.line "", .scalar .date] ++
    (c.imports .types).map .module
  | .goEvents =>
    onlyIf (c.needs .events).datetime [.scalar .datetime, .line ""] ++
    [.line ("\t\"" ++ c.config.backendRuntime ++ "/event\"")] ++
    onlyIf (c.needs .events).date [.scalar .date] ++
    (c.imports .events).map .module
  | .goEndpoints =>
    [.line "\t\"encoding/json\"", .line "\t\"net/http\""] ++
    onlyIf c.endpoints.usesUrlEscape [.line "\t\"net/url\""] ++
    onlyIf (c.needs .endpoints).datetime [.scalar .datetime] ++
    [.line "", .line ("\t\"" ++ c.config.backendRuntime ++ "/httpauth\"")] ++
    onlyIf (c.needs .endpoints).date [.scalar .date] ++
    (c.imports .endpoints).map .module
  | .tsTypes =>
    (c.imports .types).map .module ++
    onlyIf (c.needs .types).date [.scalar .date] ++
    onlyIf (c.needs .types).datetime [.scalar .datetime] ++
    onlyIf (c.needs .types).binary [.scalar .binary]
  | .tsEndpoints =>
    onlyIf (!(c.needs .endpoints).localTypes.isEmpty)
      [.localTypes (c.needs .endpoints).localTypes] ++
    (c.imports .endpoints).map .module ++
    onlyIf (c.needs .endpoints).date [.scalar .date] ++
    onlyIf (c.needs .endpoints).datetime [.scalar .datetime] ++
    onlyIf (c.needs .endpoints).binary [.scalar .binary] ++
    [.line ("import \x7b fetchJson \x7d from '" ++ c.config.frontendRuntime ++ "httputil';")]

/-- How many parts of the template the header and the imports are. -/
def importNodes : DatatypeFile → Nat
  | .goTypes => 8
  | .goEvents => 10
  | .goEndpoints => 12
  | .tsTypes => 5
  | .tsEndpoints => 9

/-- How a file begins: its header and its imports. -/
def begins (c : Context) (f : DatatypeFile) : String :=
  String.join ((f.header c).map (· ++ "\n")) ++ texts c (f.planned c.module).kind (f.imports c)

/-- What follows in the template. -/
def rest (f : DatatypeFile) : Template :=
  f.template.drop f.importNodes

end DatatypeFile

/-! ## Rendering -/

namespace FileImport

variable {c : Context} {kind : OutputKind}

@[simp] theorem texts_append (imports imports' : List FileImport) :
    texts c kind (imports ++ imports') = texts c kind imports ++ texts c kind imports' := by
  rw [texts, List.map_append, String.join_append]
  rfl

@[simp] theorem texts_nil : texts c kind [] = "" := rfl

@[simp] theorem texts_cons (i : FileImport) (imports : List FileImport) :
    texts c kind (i :: imports) = text c kind i ++ texts c kind imports := by
  rw [texts, List.map_cons, String.join_cons]
  rfl

theorem texts_onlyIf (needed : Bool) (imports : List FileImport) :
    texts c kind (onlyIf needed imports) = if needed then texts c kind imports else "" := by
  cases needed <;> rfl

end FileImport

namespace DatatypeFile

open FileImport

variable {h : Helpers} {c : Context}

/-- Imports that stand under a condition. -/
theorem renderNodes_onlyIf {kind : OutputKind} {line : Nat} {e : Expr} {v : Value} {needed : Bool}
    {yes : List Node} {imports : List FileImport}
    (he : evalAt h c.fields line e = .ok v) (hv : v.isTruthy = needed)
    (hyes : renderNodes h c.fields yes = .ok (texts c kind imports)) :
    renderNodes h c.fields [.cond line e yes []] = .ok (texts c kind (onlyIf needed imports)) := by
  rw [renderNodes_cond he hyes, texts_onlyIf, hv]

theorem renderNodes_line {kind : OutputKind} (lines : List String) :
    renderNodes h c.fields [.lines lines] = .ok (texts c kind (lines.map .line)) := by
  rw [renderNodes_lines, texts, List.map_map]
  rfl

/-- How a Go file begins: its package, and the first lines of the imports. -/
theorem renderNodes_package (lines : List String) :
    renderNodes h c.fields ([.text "package ", .print 1 (.path "module" ["id"]), .text "\n"] ++
      [.lines ("" :: "import (" :: lines)]) =
        .ok (String.join ((header c .goTypes).map (· ++ "\n")) ++
          texts c .go (lines.map .line)) := by
  have htexts : texts c .go (lines.map .line) = String.join (lines.map (· ++ "\n")) := by
    rw [texts, List.map_map]
    rfl
  rw [renderNodes_append (renderNodes_between rfl _ _) (renderNodes_lines _), htexts]
  simp [header, String.append_assoc, -String.reduceAppend]

/-- The import of a package of the backend's runtime. -/
theorem renderNodes_runtime (line : Nat) (package : String) :
    renderNodes h c.fields [.text "\t\"", .print line (.path "opts" ["backend_runtime_package"]),
      .text package] = .ok ("\t\"" ++ c.config.backendRuntime ++ package) :=
  renderNodes_between rfl _ _

/-! ### What datatypes ask for -/

variable (s : Section) (line line' : Nat)

/-- The helper for times in Go, with lines after it. -/
theorem renderNodes_goTime (lines : List String) :
    renderNodes h c.fields [.cond line (.path s.name ["imports", "flags", "datetime"])
      [.lines ("\t\"time\"" :: lines)] []] =
        .ok (texts c .go (onlyIf (c.needs s).datetime (.scalar .datetime :: lines.map .line))) := by
  have he : evalAt h c.fields line (.path s.name ["imports", "flags", "datetime"]) =
      .ok (toValue (c.needs s).datetime) := by cases s <;> rfl
  exact renderNodes_onlyIf he rfl (renderNodes_line _)

/-- The helper for dates in Go, with lines before it. -/
theorem renderNodes_goDate (lines : List Node) (before : List FileImport)
    (hbefore : renderNodes h c.fields lines = .ok (texts c .go before)) :
    renderNodes h c.fields [.cond line (.path s.name ["imports", "flags", "date"]) (lines ++
      [.text "\t\"", .print line' (.path "opts" ["backend_runtime_package"]), .text "/guts\"\n"])
        []] = .ok (texts c .go (onlyIf (c.needs s).date (before ++ [.scalar .date]))) := by
  have he : evalAt h c.fields line (.path s.name ["imports", "flags", "date"]) =
      .ok (toValue (c.needs s).date) := by cases s <;> rfl
  have hguts : "\t\"" ++ c.config.backendRuntime ++ "/guts\"\n" = texts c .go [.scalar .date] := by
    simp [text, goPackage, Scalar.goPackage?, String.append_assoc]
  refine renderNodes_onlyIf he rfl ?_
  rw [renderNodes_append hbefore (renderNodes_runtime _ _), hguts, texts_append]

/-- Other modules in Go. -/
theorem renderNodes_goModules :
    renderNodes h c.fields [.loop line "m" (.path s.name ["modules"]) [.text "\t\"",
      .print line' (.path "m" ["go_path"]), .text "\"\n"] []] =
        .ok (texts c .go ((c.imports s.list).map .module)) := by
  have he : evalAt h c.fields line (.path s.name ["modules"]) =
      .ok (toValue (c.imports s.list)) := by cases s <;> rfl
  rw [renderNodes_loop he fun i _ => renderNodes_between rfl _ _, texts, List.map_map]
  rfl

/-- A helper in TypeScript. -/
theorem renderNodes_tsScalar {e : Expr} {needed : Bool} (scalar : Scalar)
    (he : evalAt h c.fields line e = .ok (toValue needed)) :
    renderNodes h c.fields [.cond line e [.text ("import \x7b " ++ scalar.ts ++ " \x7d from '"),
      .print line' (.path "opts" ["frontend_runtime_package"]), .text "types';\n"] []] =
        .ok (texts c .typescript (onlyIf needed [.scalar scalar])) := by
  refine renderNodes_onlyIf he rfl ?_
  rw [renderNodes_between rfl, texts_cons, texts_nil, String.append_empty]
  rfl

/-- Other modules in TypeScript. -/
theorem renderNodes_tsModules :
    renderNodes h c.fields [.loop line "m" (.path s.name ["modules"]) [.text "import * as ",
      .print line' (.path "m" ["id"]), .text " from '", .print line' (.path "m" ["ts_path"]),
      .text "';\n"] []] = .ok (texts c .typescript ((c.imports s.list).map .module)) := by
  have he : evalAt h c.fields line (.path s.name ["modules"]) =
      .ok (toValue (c.imports s.list)) := by cases s <;> rfl
  have hbody (i : ModuleImport) (place : Value) :
      renderNodes h (("m", toValue i) :: ("loop", place) :: c.fields)
        ([.text "import * as ", .print line' (.path "m" ["id"]), .text " from '"] ++
          [.print line' (.path "m" ["ts_path"])] ++ [.text "';\n"]) =
            .ok (text c .typescript (.module i)) :=
    renderNodes_append (renderNodes_append (renderNodes_between rfl _ _) (renderNodes_print rfl))
      (renderNodes_text _)
  refine (renderNodes_loop he hbody).trans ?_
  rw [texts, List.map_map]
  rfl

/-- All helpers in TypeScript. -/
theorem renderNodes_tsScalars (l₁ l₂ l₃ l₁' l₂' l₃' : Nat) :
    renderNodes h c.fields [
      .cond l₁ (.path s.name ["imports", "flags", "date"])
        [.text "import \x7b dateRFC3339 \x7d from '",
          .print l₁' (.path "opts" ["frontend_runtime_package"]), .text "types';\n"] [],
      .cond l₂ (.path s.name ["imports", "flags", "datetime"])
        [.text "import \x7b datetimeRFC3339 \x7d from '",
          .print l₂' (.path "opts" ["frontend_runtime_package"]), .text "types';\n"] [],
      .cond l₃ (.path s.name ["imports", "flags", "binary"]) [
        .text "import \x7b binaryBase64 \x7d from '",
        .print l₃' (.path "opts" ["frontend_runtime_package"]), .text "types';\n"] []] =
      .ok (texts c .typescript (onlyIf (c.needs s).date [.scalar .date] ++
        onlyIf (c.needs s).datetime [.scalar .datetime] ++
        onlyIf (c.needs s).binary [.scalar .binary])) := by
  have hdate : evalAt h c.fields l₁ (.path s.name ["imports", "flags", "date"]) =
      .ok (toValue (c.needs s).date) := by cases s <;> rfl
  have hdatetime : evalAt h c.fields l₂ (.path s.name ["imports", "flags", "datetime"]) =
      .ok (toValue (c.needs s).datetime) := by cases s <;> rfl
  have hbinary : evalAt h c.fields l₃ (.path s.name ["imports", "flags", "binary"]) =
      .ok (toValue (c.needs s).binary) := by cases s <;> rfl
  rw [texts_append, texts_append]
  exact renderNodes_append (renderNodes_append (renderNodes_tsScalar _ _ .date hdate)
    (renderNodes_tsScalar _ _ .datetime hdatetime)) (renderNodes_tsScalar _ _ .binary hbinary)

/-- Types of the own module, which an expression lists. -/
theorem renderNodes_localTypes {e : Expr} {names : List String}
    (he : ∀ line, evalAt h c.fields line e = .ok (toValue names)) :
    renderNodes h c.fields [.cond 2 e ([.lines ["import \x7b"]] ++
      [.loop 4 "name" e [.text "\t", .print 5 (.name "name"), .text ",\n"] []] ++
        [.text "\x7d from './", .print 7 (.path "module" ["id"]), .text "_types';\n"]) []] =
      .ok (texts c .typescript (onlyIf (!names.isEmpty) [.localTypes names])) := by
  have hnames : renderNodes h c.fields
      [.loop 4 "name" e [.text "\t", .print 5 (.name "name"), .text ",\n"] []] =
        .ok (String.join (names.map fun name => "\t" ++ name ++ ",\n")) :=
    renderNodes_loop (he 4) fun name _ => renderNodes_between rfl _ _
  refine renderNodes_onlyIf (he 2) (by simp [toValue, Value.isTruthy]) ?_
  rw [renderNodes_append (renderNodes_append (renderNodes_lines _) hnames)
    (renderNodes_between rfl _ _)]
  simp [text, String.append_assoc]

/-! ### Files -/

theorem renderNodes_goTypes :
    renderNodes h c.fields (Output.Go.types.take 8) = .ok (begins c .goTypes) := by
  have henums : renderNodes h c.fields [.cond 4 (.path "types" ["enums"])
      [.lines ["\t\"encoding/json\"", "\t\"fmt\""]] []] =
        .ok (texts c .go (onlyIf (!c.types.enums.isEmpty)
          [.line "\t\"encoding/json\"", .line "\t\"fmt\""])) :=
    renderNodes_onlyIf rfl (by simp [toValue, Value.isTruthy]) (renderNodes_line _)
  refine (renderNodes_append (renderNodes_append (renderNodes_append (renderNodes_append
    (renderNodes_package []) henums) (renderNodes_goTime .types 8 []))
      (renderNodes_goDate .types 11 13 [.lines [""]] [.line ""] (renderNodes_line [""])))
        (renderNodes_goModules .types 15 16)).trans ?_
  simp [begins, header, imports, planned, Module.goFile, Section.list, String.append_assoc]

theorem renderNodes_goEvents :
    renderNodes h c.fields (Output.Go.events.take 10) = .ok (begins c .goEvents) := by
  refine (renderNodes_append (renderNodes_append (renderNodes_append (renderNodes_append
    (renderNodes_package []) (renderNodes_goTime .events 4 [""]))
      (renderNodes_runtime 8 "/event\"\n")) (renderNodes_goDate .events 9 10 [] [] rfl))
        (renderNodes_goModules .events 12 13)).trans ?_
  simp [begins, header, imports, planned, Module.goFile, Section.list, text, String.append_assoc]

theorem renderNodes_goEndpoints :
    renderNodes h c.fields (Output.Go.endpoints.take 12) = .ok (begins c .goEndpoints) := by
  have hurl : renderNodes h c.fields [.cond 6 (.path "endpoints" ["uses_url_escape"])
      [.lines ["\t\"net/url\""]] []] =
        .ok (texts c .go (onlyIf c.endpoints.usesUrlEscape [.line "\t\"net/url\""])) :=
    renderNodes_onlyIf rfl rfl (renderNodes_line _)
  have hauth : renderNodes h c.fields [.text "\t\"",
      .print 13 (.path "opts" ["backend_runtime_package"]), .text "/httpauth\"\n"] =
        .ok (texts c .go [.line ("\t\"" ++ c.config.backendRuntime ++ "/httpauth\"")]) := by
    rw [renderNodes_runtime]
    simp [text, String.append_assoc]
  refine (renderNodes_append (renderNodes_append (renderNodes_append (renderNodes_append
    (renderNodes_append (renderNodes_append
      (renderNodes_package ["\t\"encoding/json\"", "\t\"net/http\""]) hurl)
        (renderNodes_goTime .endpoints 9 [])) (renderNodes_lines [""]))
          hauth)
            (renderNodes_goDate .endpoints 14 15 [] [] rfl))
              (renderNodes_goModules .endpoints 17 18)).trans ?_
  simp [begins, header, imports, planned, Module.goFile, Section.list, text, String.append_assoc,
    -String.reduceAppend]

theorem renderNodes_tsTypes :
    renderNodes h c.fields (Output.TypeScript.types.take 5) = .ok (begins c .tsTypes) := by
  refine (renderNodes_append (renderNodes_append (renderNodes_lines ["// tslint:disable"])
    (renderNodes_tsModules .types 2 3)) (renderNodes_tsScalars .types 5 8 11 6 9 12)).trans ?_
  simp [begins, header, imports, planned, Module.tsFile, Section.list, String.append_assoc]

theorem renderNodes_tsEndpoints :
    renderNodes h c.fields (Output.TypeScript.endpoints.take 9) = .ok (begins c .tsEndpoints) := by
  have hlocal : renderNodes h c.fields [.cond 2 (.path "endpoints" ["imports", "local_types"])
      ([.lines ["import \x7b"]] ++ [.loop 4 "name" (.path "endpoints" ["imports", "local_types"])
        [.text "\t", .print 5 (.name "name"), .text ",\n"] []] ++
          [.text "\x7d from './", .print 7 (.path "module" ["id"]), .text "_types';\n"]) []] =
        .ok (texts c .typescript (onlyIf (!(c.needs .endpoints).localTypes.isEmpty)
          [.localTypes (c.needs .endpoints).localTypes])) :=
    renderNodes_localTypes fun _ => rfl
  refine (renderNodes_append (renderNodes_append (renderNodes_append (renderNodes_append
    (renderNodes_lines ["// tslint:disable"]) hlocal) (renderNodes_tsModules .endpoints 9 10))
      (renderNodes_tsScalars .endpoints 12 15 18 13 16 19)) (renderNodes_between rfl _ _)).trans ?_
  simp [begins, header, imports, planned, Module.tsFile, Section.list, text, String.append_assoc]

/-- **A file begins with its header and its imports.** -/
theorem renderNodes_begins (f : DatatypeFile) :
    renderNodes h c.fields (f.template.take f.importNodes) = .ok (f.begins c) := by
  cases f with
  | goTypes => exact renderNodes_goTypes
  | goEvents => exact renderNodes_goEvents
  | goEndpoints => exact renderNodes_goEndpoints
  | tsTypes => exact renderNodes_tsTypes
  | tsEndpoints => exact renderNodes_tsEndpoints

theorem exists_of_render {m : Module} {f : DatatypeFile} {output : OutputFile}
    (hrender : (f.planned m).render h c = .ok output) :
    ∃ rest, renderNodes h c.fields f.rest = .ok rest ∧
      output = ⟨(f.planned m).path, (f.planned m).kind.marker ++ (f.begins c ++ rest)⟩ := by
  rw [PlannedFile.render] at hrender
  split at hrender
  · rename_i body hbody
    cases hrender
    have htemplate : (f.planned m).template = f.template.take f.importNodes ++ f.rest := by
      rw [rest, List.take_append_drop]
      cases f <;> rfl
    rw [render, htemplate] at hbody
    obtain ⟨a, rest, ha, hrest, rfl⟩ := renderNodes_append_eq_ok.mp hbody
    rw [renderNodes_begins] at ha
    cases ha
    exact ⟨rest, hrest, rfl⟩
  · cases hrender

/-! ## Imports that datatypes ask for -/

theorem mem_onlyIf {needed : Bool} {imports : List FileImport} {i : FileImport} :
    i ∈ onlyIf needed imports ↔ needed = true ∧ i ∈ imports := by
  cases needed <;> simp [onlyIf]

theorem date_mem_imports {f : DatatypeFile} :
    .scalar .date ∈ f.imports c ↔ (c.needs f.shows).date = true := by
  cases f <;> simp [imports, mem_onlyIf, shows]

theorem datetime_mem_imports {f : DatatypeFile} :
    .scalar .datetime ∈ f.imports c ↔ (c.needs f.shows).datetime = true := by
  cases f <;> simp [imports, mem_onlyIf, shows]

theorem module_mem_imports {f : DatatypeFile} {i : ModuleImport} :
    .module i ∈ f.imports c ↔ i ∈ c.imports f.shows.list := by
  cases f <;> simp [imports, mem_onlyIf, shows, Section.list]

end DatatypeFile

/-! ## Loaded runs -/

open Specloom.Path

/-- The path of an endpoint was read from a document. -/
theorem Loaded.exists_parse_path {docs : List Documents} {declared run : List Module}
    (h : Loaded docs declared run) {m : Module} (hm : m ∈ run) {e : Endpoint}
    (he : e ∈ m.endpoints) : ∃ raw, PathTemplate.parse raw = .ok e.path := by
  obtain ⟨d, -, m₀, -, hdeclare, hcommands⟩ := h.exists_documents hm
  rw [(Documents.addCommands_eq_ok hcommands).1] at he
  rw [Documents.declare] at hdeclare
  simp only [bind_eq_ok, pure_eq_ok] at hdeclare
  obtain ⟨_, -, endpoints, hendpoints, _, -, _, -, rfl⟩ := hdeclare
  obtain ⟨doc, -, hdoc⟩ := exists_mem_of_mapM hendpoints he
  rw [Endpoint.ofDoc] at hdoc
  split at hdoc
  · cases hdoc
  · split at hdoc
    · cases hdoc
    · rename_i template htemplate
      simp only [bind_eq_ok, pure_eq_ok] at hdoc
      obtain ⟨_, -, _, -, rfl⟩ := hdoc
      exact ⟨doc.path, htemplate⟩

/-- The files of a module import what the datatypes of their sections mention, and nothing else on
their account. -/
structure Module.ExactImports (m : Module) (run : List Module) (config : Config)
    (context : Context) : Prop where
  /-- The needs of a section are those of all datatypes inside its roots. -/
  needs : ∀ s : Section, context.needs s = .ofTypes ((m.roots s).flatMap Datatype.nodes)
  nodes : ∀ (s : Section) (node : Datatype),
    node ∈ (m.roots s).flatMap Datatype.nodes ↔ ∃ t ∈ m.roots s, node.Within t
  date : ∀ f : DatatypeFile, .scalar .date ∈ f.imports context ↔
    m.ShowsKind f.shows (.primitive (.scalar .date))
  datetime : ∀ f : DatatypeFile, .scalar .datetime ∈ f.imports context ↔
    m.ShowsKind f.shows (.primitive (.scalar .datetime))
  /-- A module is imported exactly if a reference names it. -/
  modules : ∀ (f : DatatypeFile) (id : String),
    (∃ i, .module i ∈ f.imports context ∧ i.id = id) ↔
      ∃ ref, m.ShowsKind f.shows (.reference ref) ∧ ref.owner = some id
  /-- What is imported is a module of the run. -/
  owner : ∀ (f : DatatypeFile) (i : ModuleImport), .module i ∈ f.imports context →
    ∃ owner ∈ run, i = owner.import config
  /-- The imports are what a generated file begins with. -/
  files : ∀ (helpers : Helpers) (files : List OutputFile),
    m.generate run config helpers = .ok files →
      ∀ f : DatatypeFile, f.planned m ∈ m.plan config →
        ∃ rest, renderNodes helpers context.fields f.rest = .ok rest ∧
          ⟨(f.planned m).path, (f.planned m).kind.marker ++ (f.begins context ++ rest)⟩ ∈ files
  /-- Values are escaped exactly if the URL of an endpoint calls a function that does so. -/
  escapes : context.endpoints.usesUrlEscape = true ↔ ∃ e ∈ m.endpoints,
    Go.Calls (goUrl e.path) "url" "PathEscape" ∨ Go.Calls (goUrl e.path) "url" "QueryEscape"

/-- **The imports of a loaded run are exact.** -/
theorem exactImports_of_load {source : Source} {configs : List ModuleConfig} {run : List Module}
    (h : load source configs = .ok run) {m : Module} (hm : m ∈ run) (config : Config) :
    ∃ context files, m.context run config = .ok context ∧
      m.generate run config .standard = .ok files ∧ m.ExactImports run config context := by
  obtain ⟨docs, declared, -, hloaded⟩ := load_eq_ok.mp h
  obtain ⟨files, hgenerate⟩ := hloaded.exists_generate hm config
  obtain ⟨context, hcontext, -⟩ := bind_eq_ok.mp hgenerate
  have hneeds (s : Section) := hloaded.needs_eq hm hcontext s
  refine ⟨context, files, hcontext, hgenerate, ?_⟩
  constructor
  case needs => exact hneeds
  case nodes => exact fun s node => Datatype.mem_flatMap_nodes_iff
  case date =>
    intro f
    rw [DatatypeFile.date_mem_imports, hneeds, Module.showsKind_iff]
    exact usesScalar_iff
  case datetime =>
    intro f
    rw [DatatypeFile.datetime_mem_imports, hneeds, Module.showsKind_iff]
    exact usesScalar_iff
  case modules =>
    intro f id
    simp only [DatatypeFile.module_mem_imports]
    exact hloaded.exists_mem_imports_iff hm hcontext f.shows
  case owner =>
    intro f i hi
    exact Loaded.exists_owner_of_mem_imports hcontext (DatatypeFile.module_mem_imports.mp hi)
  case files =>
    intro helpers files' hfiles f hf
    obtain ⟨context', hcontext', hrender⟩ := bind_eq_ok.mp hfiles
    rw [hcontext] at hcontext'
    cases hcontext'
    obtain ⟨output, houtput, hrender⟩ := exists_mem_of_mem_mapM hrender hf
    obtain ⟨rest, hrest, rfl⟩ := DatatypeFile.exists_of_render hrender
    exact ⟨rest, hrest, houtput⟩
  case escapes =>
    have hflag : context.endpoints.usesUrlEscape = m.endpoints.any fun e =>
        !e.path.allPlaceholders.isEmpty := by
      simp only [Module.context, bind_eq_ok, pure_eq_ok] at hcontext
      obtain ⟨_, -, rfl⟩ := hcontext
      rfl
    rw [hflag, List.any_eq_true]
    refine exists_congr fun e => and_congr_right fun he => ?_
    obtain ⟨raw, hraw⟩ := hloaded.exists_parse_path hm he
    rw [PathTemplate.calls_goUrl_iff hraw]
    simp

/-- An event of one module with a list of objects that hold a date and an enum of another module. -/
theorem exactImports_of_load_event :
    ∃ run m, load
        (fun path => .ok (if path = "events"
          then "[[[\"x.Y\",[],[[\"f\",\x7b\"_\":\"array\",\"of\":" ++
            "\x7b\"_\":\"object\",\"fields\":\x7b\"d\":\"date\",\"e\":\"b.E\"\x7d\x7d\x7d,\"\"]]]]]"
          else "[[],[[\"E\",[]]],[],[]]"))
        [⟨"a", none, some "events", none, none⟩, ⟨"x/b", some "types", none, none, none⟩] =
          .ok run ∧
      m ∈ run ∧ ∀ config : Config, ∃ context files, m.context run config = .ok context ∧
        m.generate run config .standard = .ok files ∧ m.ExactImports run config context ∧
        .scalar .date ∈ DatatypeFile.goEvents.imports context := by
  generalize hload : load _ _ = loaded
  have hfield : (loaded.toOption.any fun run => run.any fun m => m.events.any fun e =>
      e.fields.any fun f => f.type.nodes.any fun node =>
        node.kind = .primitive (.scalar .date)) = true := by
    rw [← hload]
    decide +kernel
  cases loaded with
  | error e => cases hfield
  | ok run =>
    obtain ⟨m, hm, hevents⟩ := List.any_eq_true.mp hfield
    obtain ⟨e, he, hfields⟩ := List.any_eq_true.mp hevents
    obtain ⟨f, hf, hnodes⟩ := List.any_eq_true.mp hfields
    obtain ⟨node, hnode, hkind⟩ := List.any_eq_true.mp hnodes
    have hroot : f.type ∈ m.roots .events :=
      List.mem_flatMap.mpr ⟨e, he, List.mem_map_of_mem hf⟩
    have hshows : m.ShowsKind .events (.primitive (.scalar .date)) :=
      ⟨f.type, hroot, node, Datatype.mem_nodes_iff.mp hnode, by simpa using hkind⟩
    refine ⟨run, m, rfl, hm, fun config => ?_⟩
    obtain ⟨context, files, hcontext, hfiles, hexact⟩ := exactImports_of_load hload hm config
    exact ⟨context, files, hcontext, hfiles, hexact, (hexact.date .goEvents).mpr hshows⟩

end Specloom
