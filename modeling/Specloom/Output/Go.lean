import Specloom.Template.Basic

/-!
# Templates of Go files

The files of the backend: one package for each module.

## Main definitions

* `Go.types`, `Go.events`, `Go.commands`, `Go.endpoints`, `Go.uiRoutes`: the templates
-/

namespace Specloom.Output.Go

/-- Types, enums with their checks, and constants. -/
def types : Template := [
  .text "package ",
  .print 1 (.path "module" ["id"]),
  .text "\n",
  .lines [
    "",
    "import ("],
  .cond 4 (.path "types" ["enums"]) [
    .lines [
      "\t\"encoding/json\"",
      "\t\"fmt\""]] [],
  .cond 8 (.path "types" ["imports", "flags", "datetime"]) [
    .lines ["\t\"time\""]] [],
  .cond 11 (.path "types" ["imports", "flags", "date"]) [
    .lines [""],
    .text "\t\"",
    .print 13 (.path "opts" ["backend_runtime_package"]),
    .text "/guts\"\n"] [],
  .loop 15 "m" (.path "types" ["modules"]) [
    .text "\t\"",
    .print 16 (.path "m" ["go_path"]),
    .text "\"\n"] [],
  .lines [")"],
  .loop 19 "decl" (.path "types" ["declarations"]) [
    .lines [""],
    .print 21 (.path "decl" ["go"]),
    .text "\n"] [],
  .loop 23 "enum" (.path "types" ["enums"]) [
    .lines [""],
    .text "type ",
    .print 25 (.path "enum" ["name"]),
    .text " string\n",
    .lines [
      "",
      "const ("],
    .loop 28 "member" (.path "enum" ["members"]) [
      .text "\t",
      .print 29 (.path "member" ["go_const"]),
      .text " ",
      .print 29 (.path "enum" ["name"]),
      .text " = ",
      .print 29 (.filter (.path "member" ["value"]) "go_quote"),
      .text "\n"] [],
    .lines [
      ")",
      ""],
    .text "var ",
    .print 33 (.path "enum" ["name"]),
    .text "Members = []",
    .print 33 (.path "enum" ["name"]),
    .text "\x7b\n",
    .loop 34 "member" (.path "enum" ["members"]) [
      .text "\t",
      .print 35 (.path "member" ["go_const"]),
      .text ",\n"] [],
    .lines [
      "\x7d",
      ""],
    .text "func (e ",
    .print 39 (.path "enum" ["name"]),
    .text ") MarshalJSON() ([]byte, error) \x7b\n",
    .lines [
      "\treturn json.Marshal(string(e))",
      "\x7d",
      ""],
    .text "func (e *",
    .print 43 (.path "enum" ["name"]),
    .text ") UnmarshalJSON(b []byte) error \x7b\n",
    .lines [
      "\tvar str string",
      "\tif err := json.Unmarshal(b, &str); err != nil \x7b",
      "\t\treturn err",
      "\t\x7d"],
    .text "\tvalidated, err := ",
    .print 48 (.path "enum" ["name"]),
    .text "Validate(str)\n",
    .lines [
      "\tif err != nil \x7b",
      "\t\treturn err",
      "\t\x7d",
      "\t*e = validated",
      "\treturn nil",
      "\x7d",
      ""],
    .text "// ",
    .print 56 (.path "enum" ["name"]),
    .text "Validate returns the first member equal to input.\n",
    .text "func ",
    .print 57 (.path "enum" ["name"]),
    .text "Validate(input string) (",
    .print 57 (.path "enum" ["name"]),
    .text ", error) \x7b\n",
    .text "\tfor _, member := range ",
    .print 58 (.path "enum" ["name"]),
    .text "Members \x7b\n",
    .text "\t\tif member == ",
    .print 59 (.path "enum" ["name"]),
    .text "(input) \x7b\n",
    .lines [
      "\t\t\treturn member, nil",
      "\t\t\x7d",
      "\t\x7d",
      ""],
    .text "\treturn \"\", fmt.Errorf(\"invalid ",
    .print 64 (.path "enum" ["name"]),
    .text " member: %s\", input)\n",
    .lines [
      "\x7d",
      ""],
    .text "// Call this wherever you switch over ",
    .print 67 (.path "enum" ["name"]),
    .text ". The name carries a digest\n",
    .lines [
      "// of the members, so adding, removing or reordering members breaks every call",
      "// site until it has been reviewed."],
    .text "func ",
    .print 70 (.path "enum" ["name"]),
    .text "Exhaustive",
    .print 70 (.path "enum" ["digest"]),
    .text "(in ",
    .print 70 (.path "enum" ["name"]),
    .text ") ",
    .print 70 (.path "enum" ["name"]),
    .text " \x7b\n",
    .lines [
      "\treturn in",
      "\x7d"]] [],
  .cond 74 (.path "types" ["string_consts"]) [
    .lines [""],
    .loop 76 "c" (.path "types" ["string_consts"]) [
      .text "const ",
      .print 77 (.path "c" ["key"]),
      .text " = ",
      .print 77 (.filter (.path "c" ["value"]) "go_quote"),
      .text "\n"] []] []]

/-- Event structs with constructors, and their dispatch. -/
def events : Template := [
  .text "package ",
  .print 1 (.path "module" ["id"]),
  .text "\n",
  .lines [
    "",
    "import ("],
  .cond 4 (.path "events" ["imports", "flags", "datetime"]) [
    .lines [
      "\t\"time\"",
      ""]] [],
  .text "\t\"",
  .print 8 (.path "opts" ["backend_runtime_package"]),
  .text "/event\"\n",
  .cond 9 (.path "events" ["imports", "flags", "date"]) [
    .text "\t\"",
    .print 10 (.path "opts" ["backend_runtime_package"]),
    .text "/guts\"\n"] [],
  .loop 12 "m" (.path "events" ["modules"]) [
    .text "\t\"",
    .print 13 (.path "m" ["go_path"]),
    .text "\"\n"] [],
  .lines [
    ")",
    "",
    "var EventTypes = event.Allocators\x7b"],
  .loop 18 "e" (.path "events" ["events"]) [
    .text "\t",
    .print 19 (.filter (.path "e" ["key"]) "go_quote"),
    .text ": func() event.Event \x7b return &",
    .print 19 (.path "e" ["struct_name"]),
    .text "\x7bmeta: &event.EventMeta\x7b\x7d\x7d \x7d,\n"] [],
  .lines ["\x7d"],
  .loop 22 "e" (.path "events" ["events"]) [
    .lines [""],
    .text "// ",
    .print 24 (.path "e" ["key"]),
    .text "\n",
    .text "type ",
    .print 25 (.path "e" ["struct_name"]),
    .text " struct \x7b\n",
    .lines ["\tmeta *event.EventMeta"],
    .loop 27 "f" (.path "e" ["fields"]) [
      .text "\t",
      .print 28 (.path "f" ["go_name"]),
      .text " ",
      .print 28 (.path "f" ["go_type"]),
      .text " `json:\"",
      .print 28 (.path "f" ["key"]),
      .text "\"`\n"] [],
    .lines [
      "\x7d",
      ""],
    .text "func New",
    .print 32 (.path "e" ["struct_name"]),
    .text "(",
    .print 32 (.path "e" ["ctor_args"]),
    .text ") *",
    .print 32 (.path "e" ["struct_name"]),
    .text " \x7b\n",
    .text "\treturn &",
    .print 33 (.path "e" ["struct_name"]),
    .text "\x7b\n",
    .lines ["\t\tmeta: &meta,"],
    .loop 35 "f" (.path "e" ["fields"]) [
      .text "\t\t",
      .print 36 (.path "f" ["go_name"]),
      .text ": ",
      .print 36 (.path "f" ["go_param"]),
      .text ",\n"] [],
    .lines [
      "\t\x7d",
      "\x7d",
      ""],
    .text "func (e *",
    .print 41 (.path "e" ["struct_name"]),
    .text ") Meta() *event.EventMeta \x7b return e.meta \x7d\n",
    .text "func (e *",
    .print 42 (.path "e" ["struct_name"]),
    .text ") MetaType() string \x7b return ",
    .print 42 (.filter (.path "e" ["key"]) "go_quote"),
    .text " \x7d\n"] [],
  .lines [
    "",
    "// listener",
    "",
    "type EventListener interface \x7b"],
  .loop 48 "e" (.path "events" ["events"]) [
    .text "\tApply",
    .print 49 (.path "e" ["struct_name"]),
    .text "(*",
    .print 49 (.path "e" ["struct_name"]),
    .text ") error\n"] [],
  .lines [
    "",
    "\tHandleUnknownEvent(e event.Event) error",
    "\x7d",
    "",
    "func DispatchEvent(e event.Event, listener EventListener) error \x7b"],
  .text "\tswitch ",
  .cond 56 (.path "events" ["events"]) [
    .text "typed := "] [],
  .text "e.(type) \x7b\n",
  .loop 57 "ev" (.path "events" ["events"]) [
    .text "\tcase *",
    .print 58 (.path "ev" ["struct_name"]),
    .text ":\n",
    .text "\t\treturn listener.Apply",
    .print 59 (.path "ev" ["struct_name"]),
    .text "(typed)\n"] [],
  .lines [
    "\tdefault:",
    "\t\treturn listener.HandleUnknownEvent(e)",
    "\t\x7d",
    "\x7d"]]

/-- Command structs that check themselves, and their dispatch. -/
def commands : Template := [
  .text "package ",
  .print 1 (.path "module" ["id"]),
  .text "\n",
  .lines [
    "",
    "import (",
    "\t\"errors\"",
    "\t\"fmt\""],
  .cond 6 (.path "commands" ["imports", "regexp"]) [
    .lines ["\t\"regexp\""]] [],
  .cond 9 (.path "commands" ["imports", "strings"]) [
    .lines ["\t\"strings\""]] [],
  .cond 12 (.path "commands" ["imports", "utf8"]) [
    .lines ["\t\"unicode/utf8\""]] [],
  .lines [""],
  .text "\t\"",
  .print 16 (.path "opts" ["backend_runtime_package"]),
  .text "/command\"\n",
  .cond 17 (.path "commands" ["imports", "date"]) [
    .text "\t\"",
    .print 18 (.path "opts" ["backend_runtime_package"]),
    .text "/guts\"\n"] [],
  .loop 20 "m" (.path "commands" ["go_modules"]) [
    .text "\t\"",
    .print 21 (.path "m" ["go_path"]),
    .text "\"\n"] [],
  .lines [
    ")",
    "",
    "// handlers",
    "",
    "type CommandHandlers interface \x7b"],
  .loop 28 "c" (.path "commands" ["commands"]) [
    .text "\t",
    .print 29 (.path "c" ["struct_name"]),
    .text "(*",
    .print 29 (.path "c" ["struct_name"]),
    .text ", *command.Ctx) error\n"] [],
  .lines [
    "\x7d",
    "",
    "// invoker",
    "",
    "func CommandInvoker(handlers CommandHandlers) command.Invoker \x7b",
    "\treturn &invoker\x7bhandlers\x7d",
    "\x7d",
    "",
    "type invoker struct \x7b",
    "\thandlers CommandHandlers",
    "\x7d",
    "",
    "func (i *invoker) Invoke(cmdGeneric command.Command, ctx *command.Ctx) error \x7b"],
  .text "\tswitch ",
  .cond 44 (.path "commands" ["commands"]) [
    .text "cmd := "] [],
  .text "cmdGeneric.(type) \x7b\n",
  .loop 45 "c" (.path "commands" ["commands"]) [
    .text "\tcase *",
    .print 46 (.path "c" ["struct_name"]),
    .text ":\n",
    .text "\t\treturn i.handlers.",
    .print 47 (.path "c" ["struct_name"]),
    .text "(cmd, ctx)\n"] [],
  .lines [
    "\tdefault:",
    "\t\t// httpcommand only hands over commands found in Allocators",
    "\t\treturn fmt.Errorf(\"unknown command: %s\", cmdGeneric.Key())",
    "\t\x7d",
    "\x7d",
    "",
    "// structs"],
  .loop 56 "c" (.path "commands" ["commands"]) [
    .loop 57 "r" (.path "c" ["regexps"]) [
      .lines [""],
      .text "var ",
      .print 59 (.path "r" ["var"]),
      .text " = regexp.MustCompile(",
      .print 59 (.path "r" ["pattern"]),
      .text ")\n"] [],
    .lines [""],
    .text "// ",
    .print 62 (.path "c" ["key"]),
    .text "\n",
    .text "type ",
    .print 63 (.path "c" ["struct_name"]),
    .text " struct \x7b\n",
    .loop 64 "f" (.path "c" ["go_fields"]) [
      .text "\t",
      .print 65 (.path "f" ["name"]),
      .text " ",
      .print 65 (.path "f" ["go_type"]),
      .text " `json:\"",
      .print 65 (.path "f" ["key"]),
      .text "\"`\n"] [],
    .lines [
      "\x7d",
      ""],
    .text "func (x *",
    .print 69 (.path "c" ["struct_name"]),
    .text ") Validate() error \x7b\n",
    .cond 70 (.path "c" ["go_validation"]) [
      .text "\t",
      .print 71 (.path "c" ["go_validation"]),
      .text "\n",
      .lines [""]] [],
    .lines [
      "\treturn nil",
      "\x7d",
      ""],
    .text "func (x *",
    .print 77 (.path "c" ["struct_name"]),
    .text ") MiddlewareChain() string \x7b return ",
    .print 77 (.filter (.path "c" ["chain"]) "go_quote"),
    .text " \x7d\n",
    .text "func (x *",
    .print 78 (.path "c" ["struct_name"]),
    .text ") Key() string \x7b return ",
    .print 78 (.filter (.path "c" ["key"]) "go_quote"),
    .text " \x7d\n"] [],
  .lines [
    "",
    "// allocators",
    "",
    "var Allocators = command.Allocators\x7b"],
  .loop 84 "c" (.path "commands" ["commands"]) [
    .text "\t",
    .print 85 (.filter (.path "c" ["key"]) "go_quote"),
    .text ": func() command.Command \x7b return &",
    .print 85 (.path "c" ["struct_name"]),
    .text "\x7b\x7d \x7d,\n"] [],
  .lines [
    "\x7d",
    "",
    "// util functions",
    "",
    "func fieldEmptyValidationError(fieldName string) error \x7b",
    "\treturn errors.New(\"field \" + fieldName + \" cannot be empty\")",
    "\x7d",
    "",
    "func fieldLengthValidationError(fieldName string, maxLength int, got int) error \x7b",
    "\treturn fmt.Errorf(\"field %s exceeded maximum length %d (got %d)\", fieldName, " ++
      "maxLength, got)",
    "\x7d",
    "",
    "func fieldPatternValidationError(fieldName string, pattern string) error \x7b",
    "\treturn fmt.Errorf(\"field %s does not match pattern %s\", fieldName, pattern)",
    "\x7d",
    "",
    "func noNewlinesValidationError(fieldName string) error \x7b",
    "\treturn errors.New(\"single-line field \" + fieldName + \" contains newlines\")",
    "\x7d"]]

/-- Handlers of endpoints, their registration, and URLs. -/
def endpoints : Template := [
  .text "package ",
  .print 1 (.path "module" ["id"]),
  .text "\n",
  .lines [
    "",
    "import (",
    "\t\"encoding/json\"",
    "\t\"net/http\""],
  .cond 6 (.path "endpoints" ["uses_url_escape"]) [
    .lines ["\t\"net/url\""]] [],
  .cond 9 (.path "endpoints" ["imports", "flags", "datetime"]) [
    .lines ["\t\"time\""]] [],
  .lines [""],
  .text "\t\"",
  .print 13 (.path "opts" ["backend_runtime_package"]),
  .text "/httpauth\"\n",
  .cond 14 (.path "endpoints" ["imports", "flags", "date"]) [
    .text "\t\"",
    .print 15 (.path "opts" ["backend_runtime_package"]),
    .text "/guts\"\n"] [],
  .loop 17 "m" (.path "endpoints" ["modules"]) [
    .text "\t\"",
    .print 18 (.path "m" ["go_path"]),
    .text "\"\n"] [],
  .lines [
    ")",
    "",
    "type HttpHandlers interface \x7b"],
  .loop 23 "e" (.path "endpoints" ["endpoints"]) [
    .text "\t",
    .print 24 (.path "e" ["go_handler_signature"]),
    .text "\n"] [],
  .lines [
    "\x7d",
    "",
    "// RegisterRoutes wires every endpoint to its handler. Input and output structs",
    "// are shared with the frontend, so both sides agree on the wire format.",
    "func RegisterRoutes(handlers HttpHandlers, mwares httpauth.MiddlewareChainMap, register " ++
      "func(method string, path string, fn http.HandlerFunc)) \x7b"],
  .loop 31 "e" (.path "endpoints" ["endpoints"]) [
    .text "\tregister(",
    .print 32 (.filter (.path "e" ["method"]) "go_quote"),
    .text ", ",
    .print 32 (.filter (.path "e" ["registration_path"]) "go_quote"),
    .text ", func(w http.ResponseWriter, r *http.Request) \x7b\n",
    .text "\t\trctx := mwares[",
    .print 33 (.filter (.path "e" ["chain"]) "go_quote"),
    .text "](w, r)\n",
    .lines [
      "\t\tif rctx == nil \x7b",
      "\t\t\treturn // middleware aborted the request and wrote the error response",
      "\t\t\x7d"],
    .cond 37 (.path "e" ["consumes"]) [
      .lines [""],
      .text "\t\tinput := new(",
      .print 39 (.path "e" ["consumes", "go"]),
      .text ")\n",
      .lines [
        "\t\tif ok := parseJsonInput(w, r, input); !ok \x7b",
        "\t\t\treturn // parseJsonInput wrote the error response",
        "\t\t\x7d"]] [],
    .lines [""],
    .cond 45 (.path "e" ["produces"]) [
      .text "\t\tif out := handlers.",
      .print 46 (.path "e" ["name_upper"]),
      .text "(",
      .print 46 (.path "e" ["go_handler_call_args"]),
      .text "); out != nil \x7b\n",
      .lines [
        "\t\t\thandleJsonOutput(w, out)",
        "\t\t\x7d"]] [
      .text "\t\thandlers.",
      .print 50 (.path "e" ["name_upper"]),
      .text "(",
      .print 50 (.path "e" ["go_handler_call_args"]),
      .text ")\n"],
    .lines ["\t\x7d)"]] [],
  .lines [
    "\x7d",
    "",
    "func handleJsonOutput(w http.ResponseWriter, output interface\x7b\x7d) \x7b",
    "\tw.Header().Set(\"Content-Type\", \"application/json\")",
    "",
    "\tif err := json.NewEncoder(w).Encode(output); err != nil \x7b",
    "\t\thttp.Error(w, err.Error(), http.StatusInternalServerError)",
    "\t\x7d",
    "\x7d",
    "",
    "func parseJsonInput(w http.ResponseWriter, r *http.Request, input interface\x7b\x7d) " ++
      "bool \x7b",
    "\tif r.Header.Get(\"Content-Type\") != \"application/json\" \x7b",
    "\t\thttp.Error(w, \"expecting Content-Type with application/json header\", " ++
      "http.StatusBadRequest)",
    "\t\treturn false",
    "\t\x7d",
    "",
    "\tdecoder := json.NewDecoder(r.Body)",
    "\tdecoder.DisallowUnknownFields()",
    "",
    "\tif err := decoder.Decode(input); err != nil \x7b",
    "\t\thttp.Error(w, err.Error(), http.StatusBadRequest)",
    "\t\treturn false",
    "\t\x7d",
    "",
    "\treturn true",
    "\x7d",
    "",
    "type RestClientUrlBuilder struct \x7b",
    "\tbaseUrl string",
    "\x7d",
    "",
    "func NewRestClientUrlBuilder(baseUrl string) *RestClientUrlBuilder \x7b",
    "\treturn &RestClientUrlBuilder\x7bbaseUrl\x7d",
    "\x7d"],
  .loop 88 "e" (.path "endpoints" ["endpoints"]) [
    .lines [""],
    .text "// ",
    .print 90 (.path "e" ["method"]),
    .text " ",
    .print 90 (.path "e" ["path_raw"]),
    .text "\n",
    .text "func (b *RestClientUrlBuilder) ",
    .print 91 (.path "e" ["name_upper"]),
    .text "(",
    .print 91 (.path "e" ["go_args"]),
    .text ") string \x7b\n",
    .text "\treturn b.baseUrl + ",
    .print 92 (.path "e" ["go_url"]),
    .text "\n",
    .lines ["\x7d"]] []]

/-- The registration of routes that the frontend serves. -/
def uiRoutes : Template := [
  .text "package ",
  .print 1 (.path "module" ["id"]),
  .text "\n",
  .lines [
    "",
    "import (",
    "\t\"net/http\"",
    ")",
    "",
    "// RegisterUiRoutes serves the frontend for every route it handles. Hash routes",
    "// are resolved client-side and need no registration.",
    "func RegisterUiRoutes(register func(path string, fn http.HandlerFunc), uiHandler " ++
      "http.HandlerFunc) \x7b"],
  .loop 10 "r" (.path "ui_routes" ["routes"]) [
    .cond 11 (.path "r" ["backend_path"]) [
      .text "\tregister(",
      .print 12 (.filter (.path "r" ["backend_path"]) "go_quote"),
      .text ", uiHandler)\n"] []] [],
  .lines ["\x7d"]]

end Specloom.Output.Go
