import Specloom.Context.Module
import Specloom.Output.Go
import Specloom.Output.Markdown
import Specloom.Output.TypeScript

/-!
# The files of a module

Which files a module has follows from its documents: each document asks for files in both languages
and, where it is asked for, for documentation. The files are rendered one after the other against
the context of the module.

## Main definitions

* `OutputKind`, `OutputKind.marker`: the kinds of files, and how each says that it is generated
* `Module.plan`: the files of a module, before they are rendered
* `Module.generate`: the files of a module
-/

namespace Specloom

/-- The kinds of generated files. -/
inductive OutputKind where
  | go | typescript | markdown
deriving DecidableEq, Repr

/-- The begin of every file of a kind. -/
def OutputKind.marker : OutputKind → String
  | .go => "// Code generated by eventkit-codegen. DO NOT EDIT.\n\n"
  | .typescript => "// WARNING: generated file, do not edit\n"
  | .markdown => "<!-- generated file, do not edit -->\n\n"

/-- A file that is to be rendered. -/
structure PlannedFile where
  kind : OutputKind
  path : String
  template : Template

/-- A generated file with its path below the output directory. -/
structure OutputFile where
  path : String
  content : String
deriving DecidableEq, Repr

/-- The path of a Go file. -/
def Module.goFile (m : Module) (name : String) (template : Template) : PlannedFile :=
  ⟨.go, "backend/" ++ m.path ++ "/" ++ name ++ ".gen.go", template⟩

/-- The path of a TypeScript file. -/
def Module.tsFile (m : Module) (name : String) (template : Template) : PlannedFile :=
  ⟨.typescript, "frontend/" ++ m.path ++ "_" ++ name ++ ".ts", template⟩

/-- The path of a file of documentation, if it is asked for. -/
def Module.docFile (m : Module) (config : Config) (name : String) (template : Template) :
    List PlannedFile :=
  if config.docs then [⟨.markdown, "docs/" ++ m.path ++ "/" ++ name ++ ".md", template⟩] else []

/-- Some files, if there is what they show. -/
def filesIf (present : Bool) (files : List PlannedFile) : List PlannedFile :=
  if present then files else []

open Output in
/-- The files of a module, in order. -/
def Module.plan (m : Module) (config : Config) : List PlannedFile :=
  filesIf m.present.commands
    ([m.goFile "commands" Go.commands, m.tsFile "commands" TypeScript.commands] ++
      m.docFile config "commands" Markdown.commands) ++
  filesIf m.present.events
    (m.goFile "events" Go.events :: m.docFile config "events" Markdown.events) ++
  filesIf (!m.endpoints.isEmpty)
    ([m.goFile "restendpoints" Go.endpoints, m.tsFile "endpoints" TypeScript.endpoints] ++
      m.docFile config "rest_endpoints" Markdown.endpoints) ++
  filesIf m.present.types
    ([m.goFile "types" Go.types, m.tsFile "types" TypeScript.types] ++
      m.docFile config "types" Markdown.types) ++
  filesIf m.present.uiRoutes
    [m.goFile "uiroutes" Go.uiRoutes, m.tsFile "uiroutes" TypeScript.uiRoutes]

/-- Renders a file against the context of its module. -/
def PlannedFile.render (helpers : Template.Helpers) (context : Context) (file : PlannedFile) :
    Except Error OutputFile :=
  match Template.render helpers context.fields file.template with
  | .ok body => .ok ⟨file.path, file.kind.marker ++ body⟩
  | .error fault => .error (.notRendered file.path fault)

/-- The files of a module of a run. -/
def Module.generate (m : Module) (run : List Module) (config : Config)
    (helpers : Template.Helpers) : Except Error (List OutputFile) := do
  let context ← m.context run config
  (m.plan config).mapM (PlannedFile.render helpers context)

end Specloom
