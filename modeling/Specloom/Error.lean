import Specloom.FileTree.Fault
import Specloom.Json.Decode
import Specloom.Path.Template
import Specloom.Regex.Fault
import Specloom.Template.Render

/-!
# Errors

Whatever stops a run, as a cause with the place where it was met. The first error ends a run.

## Main definitions

* `Error`: an error
* `Error.message`, `Error.category`, `Error.code`, `Error.help`: how it is reported
* `Location`: a place in the documents of a module
-/

namespace Specloom

/-- A place in the documents of a module. -/
inductive Location where
  | types | events | commands | uiRoutes
  | type (name : String)
  | enum (name : String)
  | event (key : String)
  | command (key : String)
  | route (id : String)
  | endpoint (name : String)
  | consumes (endpoint : String)
  | produces (endpoint : String)
  | eventField (event key : String)
  | commandField (command key : String)
  | modules (first second : String)
  /-- A field of an object. -/
  | member (of : Location) (key : String)
  /-- A place in words. -/
  | described (text : String)
deriving DecidableEq, Repr

/-- A place in words. -/
def Location.text : Location → String
  | .types => "types"
  | .events => "events"
  | .commands => "commands"
  | .uiRoutes => "ui routes"
  | .type name => "type '" ++ name ++ "'"
  | .enum name => "enum '" ++ name ++ "'"
  | .event key => "event '" ++ key ++ "'"
  | .command key => "command '" ++ key ++ "'"
  | .route id => "route '" ++ id ++ "'"
  | .endpoint name => "endpoint '" ++ name ++ "'"
  | .consumes name => "endpoint '" ++ name ++ "' consumes"
  | .produces name => "endpoint '" ++ name ++ "' produces"
  | .eventField e key => "event '" ++ e ++ "' field '" ++ key ++ "'"
  | .commandField c key => "command '" ++ c ++ "' field '" ++ key ++ "'"
  | .modules first second => "modules '" ++ first ++ "' and '" ++ second ++ "'"
  | .member of key => of.text ++ "." ++ key
  | .described text => text

/-- What a name that must not repeat is the name of. -/
inductive NameKind where
  | moduleId | type | stringConst | endpoint | enumMember | enumMemberKey | event | field | command
  | argument | route | queryParam
deriving DecidableEq, Repr

/-- The kind of a name in words. -/
def NameKind.text : NameKind → String
  | .moduleId => "module id"
  | .type => "type"
  | .stringConst => "string const"
  | .endpoint => "endpoint"
  | .enumMember => "enum member"
  | .enumMemberKey => "enum member key"
  | .event => "event"
  | .field => "field"
  | .command => "command"
  | .argument => "constructor argument"
  | .route => "route"
  | .queryParam => "query parameter"

/-- Why a document is not understood: its text, or a word in it that means nothing. -/
inductive DocumentFault where
  | text (fault : Json.DecodeFault)
  | method (endpoint method : String)
  | paramType (route key type : String)
  | nature (command nature : String)

/-- The message for a document that is not understood. -/
def DocumentFault.message : DocumentFault → String
  | .text fault => fault.message
  | .method endpoint name =>
    "endpoint '" ++ endpoint ++ "': unknown HTTP method '" ++ name ++ "'"
  | .paramType route key name =>
    "route '" ++ route ++ "' query parameter '" ++ key ++ "': unknown type '" ++ name ++ "'"
  | .nature command name =>
    "command '" ++ command ++ "': unknown crudNature '" ++ name ++ "'"

/-- What stops a run. -/
inductive Error where
  | unreadable (path : String) (fault : FileFault)
  | undecodable (module path : String) (fault : DocumentFault)
  | invalidConfig (path : String) (fault : Json.DecodeFault)
  | unknownType (module : String) (location : Location) (name : String)
  | unresolvedReference (module : String) (location : Location) (name : String)
  | unmappedFieldType (module command field tag : String)
  | noWidget (module command field tag : String)
  | unknownArgument (module command arg : String)
  | duplicate (module : String) (location : Location) (kind : NameKind) (name : String)
  | reservedName (module : String) (location : Location) (name method : String)
  | invalidRegex (module : String) (location : Location) (fault : Regex.Fault)
  | invalidPath (module : String) (location : Location) (path : String)
    (fault : Path.PathTemplate.Fault)
  | notRendered (template : String) (fault : Template.Fault)
  | notWritten (path : String) (fault : FileFault)

/-- The stage of a run that an error belongs to. -/
inductive ErrorCategory where
  | specLoad | specValidation | template | fileSystem
deriving DecidableEq, Repr

namespace Error

/-- The message of an error. -/
def message : Error → String
  | .unreadable path fault => "Failed to read '" ++ path ++ "': " ++ fault.message
  | .undecodable module path fault =>
    "[" ++ module ++ "] failed to decode '" ++ path ++ "': " ++ fault.message
  | .invalidConfig path fault => "Invalid configuration '" ++ path ++ "': " ++ fault.message
  | .unknownType module location name =>
    "[" ++ module ++ "] unknown type '" ++ name ++ "' in " ++ location.text
  | .unresolvedReference module location name =>
    "[" ++ module ++ "] unresolved type reference '" ++ name ++ "' in " ++ location.text
  | .unmappedFieldType module command field tag =>
    "[" ++ module ++ "] " ++ (Location.commandField command field).text ++
      " has unmapped type '" ++ tag ++ "'"
  | .noWidget module command field tag =>
    "[" ++ module ++ "] " ++ (Location.commandField command field).text ++
      " of type '" ++ tag ++ "' has no UI kind"
  | .unknownArgument module command arg =>
    "[" ++ module ++ "] command '" ++ command ++ "' constructor argument '" ++ arg ++
      "' has no matching field"
  | .duplicate module location kind name =>
    "[" ++ module ++ "] duplicate " ++ kind.text ++ " '" ++ name ++ "' in " ++ location.text
  | .reservedName module location name method =>
    "[" ++ module ++ "] field '" ++ name ++ "' in " ++ location.text ++
      " clashes with the generated method '" ++ method ++ "'"
  | .invalidRegex module location fault =>
    "[" ++ module ++ "] invalid validation regex for " ++ location.text ++ ": " ++ fault.message
  | .invalidPath module location path fault =>
    "[" ++ module ++ "] invalid path template '" ++ path ++ "' in " ++ location.text ++ ": " ++
      fault.message
  | .notRendered template fault =>
    "Failed to render '" ++ template ++ "': " ++ fault.message template
  | .notWritten path fault => "Failed to write '" ++ path ++ "': " ++ fault.message

/-- The stage that an error belongs to. -/
def category : Error → ErrorCategory
  | .unreadable .. | .undecodable .. | .invalidConfig .. | .unknownType .. => .specLoad
  | .unresolvedReference .. | .unmappedFieldType .. | .noWidget .. | .unknownArgument ..
  | .duplicate .. | .reservedName .. | .invalidRegex .. | .invalidPath .. => .specValidation
  | .notRendered .. => .template
  | .notWritten .. => .fileSystem

/-- The code under which an error is known. -/
def code : Error → String
  | .unreadable .. => "eventkit::load::read_failed"
  | .undecodable .. => "eventkit::load::decode_failed"
  | .invalidConfig .. => "eventkit::load::invalid_config"
  | .unknownType .. => "eventkit::load::unknown_type"
  | .unresolvedReference .. => "eventkit::validation::unresolved_reference"
  | .unmappedFieldType .. => "eventkit::validation::unmapped_type"
  | .noWidget .. => "eventkit::validation::unmapped_ui_kind"
  | .unknownArgument .. => "eventkit::validation::unknown_ctor_arg"
  | .duplicate .. => "eventkit::validation::duplicate"
  | .reservedName .. => "eventkit::validation::reserved_name"
  | .invalidRegex .. => "eventkit::validation::invalid_regex"
  | .invalidPath .. => "eventkit::validation::invalid_path"
  | .notRendered .. => "eventkit::template::render_failed"
  | .notWritten .. => "eventkit::fs::write_failed"

/-- What to do about an error, if there is something to say. -/
def help : Error → Option String
  | .undecodable .. => some "Spec documents are decoded strictly: unknown keys are rejected."
  | .unknownType .. =>
    some <| "Primitive types are: string, boolean, integer, date, datetime, binary, object, " ++
      "array. Custom types start with an uppercase letter."
  | .unresolvedReference .. =>
    some <| "Declare the type or enum in this module's types document, or qualify it with a " ++
      "module id of this run."
  | .reservedName .. =>
    some "Go structs cannot have a field and a method of the same name. Rename the field."
  | .invalidPath .. => some "Placeholders are written as \x7bidentifier\x7d."
  | _ => none

end Error

end Specloom
