import Specloom.Template.Basic

/-!
# Templates of TypeScript files

The files of the frontend: several for each module.

## Main definitions

* `TypeScript.types`, `TypeScript.endpoints`, `TypeScript.commands`, `TypeScript.uiRoutes`: the
  templates
-/

namespace Specloom.Output.TypeScript

/-- Types, enums and constants. -/
def types : Template := [
  .lines ["// tslint:disable"],
  .loop 2 "m" (.path "types" ["modules"]) [
    .text "import * as ",
    .print 3 (.path "m" ["id"]),
    .text " from '",
    .print 3 (.path "m" ["ts_path"]),
    .text "';\n"] [],
  .cond 5 (.path "types" ["imports", "flags", "date"]) [
    .text "import \x7b dateRFC3339 \x7d from '",
    .print 6 (.path "opts" ["frontend_runtime_package"]),
    .text "types';\n"] [],
  .cond 8 (.path "types" ["imports", "flags", "datetime"]) [
    .text "import \x7b datetimeRFC3339 \x7d from '",
    .print 9 (.path "opts" ["frontend_runtime_package"]),
    .text "types';\n"] [],
  .cond 11 (.path "types" ["imports", "flags", "binary"]) [
    .text "import \x7b binaryBase64 \x7d from '",
    .print 12 (.path "opts" ["frontend_runtime_package"]),
    .text "types';\n"] [],
  .loop 14 "enum" (.path "types" ["enums"]) [
    .lines [""],
    .text "export enum ",
    .print 16 (.path "enum" ["name"]),
    .text " \x7b\n",
    .loop 17 "member" (.path "enum" ["members"]) [
      .text "\t",
      .print 18 (.path "member" ["key"]),
      .text " = ",
      .print 18 (.filter (.path "member" ["value"]) "js_quote"),
      .text ",\n"] [],
    .lines [
      "\x7d",
      ""],
    .text "export const ",
    .print 22 (.path "enum" ["name"]),
    .text "Members: ",
    .print 22 (.path "enum" ["name"]),
    .text "[] = [\n",
    .loop 23 "member" (.path "enum" ["members"]) [
      .text "\t",
      .print 24 (.path "enum" ["name"]),
      .text ".",
      .print 24 (.path "member" ["key"]),
      .text ",\n"] [],
    .lines [
      "];",
      ""],
    .text "export function parse",
    .print 28 (.path "enum" ["name"]),
    .text "(raw: string): ",
    .print 28 (.path "enum" ["name"]),
    .text " \x7b\n",
    .text "\tfor (const member of ",
    .print 29 (.path "enum" ["name"]),
    .text "Members) \x7b\n",
    .lines [
      "\t\tif (member === raw) \x7b",
      "\t\t\treturn member;",
      "\t\t\x7d",
      "\t\x7d"],
    .text "\tthrow new Error('invalid ",
    .print 34 (.path "enum" ["name"]),
    .text " member: ' + raw);\n",
    .lines ["\x7d"]] [],
  .cond 37 (.path "types" ["string_consts"]) [
    .lines [""],
    .loop 39 "c" (.path "types" ["string_consts"]) [
      .text "export const ",
      .print 40 (.path "c" ["key"]),
      .text " = ",
      .print 40 (.filter (.path "c" ["value"]) "js_quote"),
      .text ";\n"] []] [],
  .loop 43 "decl" (.path "types" ["declarations"]) [
    .lines [""],
    .print 45 (.path "decl" ["ts"]),
    .text "\n"] []]

/-- Functions that fetch, and URLs. -/
def endpoints : Template := [
  .lines ["// tslint:disable"],
  .cond 2 (.path "endpoints" ["imports", "local_types"]) [
    .lines ["import \x7b"],
    .loop 4 "name" (.path "endpoints" ["imports", "local_types"]) [
      .text "\t",
      .print 5 (.name "name"),
      .text ",\n"] [],
    .text "\x7d from './",
    .print 7 (.path "module" ["id"]),
    .text "_types';\n"] [],
  .loop 9 "m" (.path "endpoints" ["modules"]) [
    .text "import * as ",
    .print 10 (.path "m" ["id"]),
    .text " from '",
    .print 10 (.path "m" ["ts_path"]),
    .text "';\n"] [],
  .cond 12 (.path "endpoints" ["imports", "flags", "date"]) [
    .text "import \x7b dateRFC3339 \x7d from '",
    .print 13 (.path "opts" ["frontend_runtime_package"]),
    .text "types';\n"] [],
  .cond 15 (.path "endpoints" ["imports", "flags", "datetime"]) [
    .text "import \x7b datetimeRFC3339 \x7d from '",
    .print 16 (.path "opts" ["frontend_runtime_package"]),
    .text "types';\n"] [],
  .cond 18 (.path "endpoints" ["imports", "flags", "binary"]) [
    .text "import \x7b binaryBase64 \x7d from '",
    .print 19 (.path "opts" ["frontend_runtime_package"]),
    .text "types';\n"] [],
  .text "import \x7b fetchJson \x7d from '",
  .print 21 (.path "opts" ["frontend_runtime_package"]),
  .text "httputil';\n",
  .loop 22 "e" (.path "endpoints" ["endpoints"]) [
    .lines [""],
    .text "// ",
    .print 24 (.path "e" ["method"]),
    .text " ",
    .print 24 (.path "e" ["path_raw"]),
    .text "\n",
    .cond 25 (.path "e" ["description"]) [
      .text "// ",
      .print 26 (.path "e" ["description"]),
      .text "\n"] [],
    .text "export function ",
    .print 28 (.path "e" ["name"]),
    .text "(",
    .print 28 (.path "e" ["ts_args"]),
    .text "): Promise<",
    .print 28 (.path "e" ["ts_result"]),
    .text "> \x7b\n",
    .text "\treturn fetchJson<",
    .print 29 (.path "e" ["ts_result"]),
    .text ">(",
    .print 29 (.filter (.path "e" ["method"]) "js_quote"),
    .text ", `",
    .print 29 (.path "e" ["ts_path"]),
    .text "`",
    .cond 29 (.path "e" ["consumes"]) [
      .text ", body"] [],
    .text ");\n",
    .lines [
      "\x7d",
      ""],
    .text "export function ",
    .print 32 (.path "e" ["name"]),
    .text "Url(",
    .print 32 (.path "e" ["ts_url_args"]),
    .text "): string \x7b\n",
    .text "\treturn `",
    .print 33 (.path "e" ["ts_path"]),
    .text "`;\n",
    .lines ["\x7d"]] []]

/-- Descriptions of the forms for commands. -/
def commands : Template := [
  .lines ["// tslint:disable"],
  .cond 2 (.path "commands" ["imports", "ts_local_types"]) [
    .lines ["import \x7b"],
    .loop 4 "name" (.path "commands" ["imports", "ts_local_types"]) [
      .text "\t",
      .print 5 (.name "name"),
      .text ",\n"] [],
    .text "\x7d from './",
    .print 7 (.path "module" ["id"]),
    .text "_types';\n"] [],
  .loop 9 "m" (.path "commands" ["ts_modules"]) [
    .text "import * as ",
    .print 10 (.path "m" ["id"]),
    .text " from '",
    .print 10 (.path "m" ["ts_path"]),
    .text "';\n"] [],
  .text <| "import \x7b CommandDefinition, CommandFieldKind, CommandSettings, CrudNature \x7d " ++
    "from '",
  .print 12 (.path "opts" ["frontend_runtime_package"]),
  .text "commandtypes';\n",
  .cond 13 (.path "commands" ["imports", "ts_date"]) [
    .text "import \x7b dateRFC3339 \x7d from '",
    .print 14 (.path "opts" ["frontend_runtime_package"]),
    .text "types';\n"] [],
  .loop 16 "c" (.path "commands" ["commands"]) [
    .lines [""],
    .text "// ",
    .print 18 (.path "c" ["key"]),
    .text "\n",
    .text "export function ",
    .print 19 (.path "c" ["struct_name"]),
    .text "(",
    .cond 19 (.path "c" ["ts_ctor_args"]) [
      .print 19 (.path "c" ["ts_ctor_args"]),
      .text ", "] [],
    .text "settings: CommandSettings = \x7b\x7d): CommandDefinition \x7b\n",
    .lines ["\treturn \x7b"],
    .text "\t\tkey: ",
    .print 21 (.filter (.path "c" ["key"]) "js_quote"),
    .text ",\n",
    .cond 22 (.path "c" ["additional_confirmation"]) [
      .text "\t\tadditional_confirmation: ",
      .print 23 (.filter (.path "c" ["additional_confirmation"]) "js_quote"),
      .text ",\n"] [],
    .text "\t\ttitle: ",
    .print 25 (.filter (.path "c" ["title"]) "js_quote"),
    .text ",\n",
    .text "\t\tcrudNature: CrudNature.",
    .print 26 (.path "c" ["crud_nature"]),
    .text ",\n",
    .text "\t\tinfo: [",
    .loop 27 "line" (.path "c" ["info"]) [
      .print 27 (.filter (.name "line") "js_quote"),
      .cond 27 (.not (.path "loop" ["last"])) [
        .text ", "] []] [],
    .text "],\n",
    .lines ["\t\tfields: ["],
    .loop 29 "f" (.path "c" ["ts_fields"]) [
      .text "\t\t\t",
      .print 30 (.name "f"),
      .text "\n"] [],
    .lines [
      "\t\t],",
      "\t\tsettings: settings,",
      "\t\x7d;",
      "\x7d"]] []]

/-- Routes as a union, their URLs and their matchers. -/
def uiRoutes : Template := [
  .lines ["// tslint:disable"],
  .text <| "import \x7b InvalidQueryParam, MissingQueryParam, makeQueryParams, queryParams " ++
    "\x7d from '",
  .print 2 (.path "opts" ["frontend_runtime_package"]),
  .text "httputil';\n",
  .lines [""],
  .text "export type Route = ",
  .print 4 (.path "ui_routes" ["route_union"]),
  .text ";\n",
  .loop 5 "r" (.path "ui_routes" ["routes"]) [
    .cond 6 (.path "r" ["has_opts"]) [
      .lines [""],
      .text "export interface ",
      .print 8 (.path "r" ["opts_name"]),
      .text " \x7b\n",
      .loop 9 "p" (.path "r" ["placeholders"]) [
        .text "\t",
        .print 10 (.path "p" ["name"]),
        .text ": string;\n"] [],
      .loop 12 "q" (.path "r" ["query"]) [
        .text "\t",
        .print 13 (.path "q" ["key"]),
        .cond 13 (.path "q" ["nullable"]) [
          .text "?"] [],
        .text ": ",
        .print 13 (.path "q" ["ts_type"]),
        .text ";\n"] [],
      .lines ["\x7d"]] [],
    .lines [""],
    .text "// ",
    .print 18 (.path "r" ["path_raw"]),
    .text "\n",
    .text "export function ",
    .print 19 (.path "r" ["id"]),
    .text "Url(",
    .cond 19 (.path "r" ["has_opts"]) [
      .text "opts: ",
      .print 19 (.path "r" ["opts_name"])] [],
    .text "): string \x7b\n",
    .lines ["\tconst query: queryParams = \x7b\x7d;"],
    .loop 21 "q" (.path "r" ["query"]) [
      .text "\tif (opts.",
      .print 22 (.path "q" ["key"]),
      .text " !== undefined) \x7b\n",
      .text "\t\tquery.",
      .print 23 (.path "q" ["key"]),
      .text " = String(opts.",
      .print 23 (.path "q" ["key"]),
      .text ");\n",
      .lines ["\t\x7d"]] [],
    .lines [""],
    .text "\treturn makeQueryParams(`",
    .print 27 (.path "r" ["ts_path"]),
    .text "`, query);\n",
    .lines [
      "\x7d",
      ""],
    .text "function ",
    .print 30 (.path "r" ["id"]),
    .text "Match(path: string, query: URLSearchParams): Route | null \x7b\n",
    .text "\tconst matches = ",
    .print 31 (.path "r" ["js_regex"]),
    .text ".exec(path);\n",
    .lines [
      "\tif (matches === null) \x7b",
      "\t\treturn null;",
      "\t\x7d"],
    .text "\tif (!hasOnlyKeys(query, [",
    .loop 35 "q" (.path "r" ["query"]) [
      .print 35 (.filter (.path "q" ["key"]) "js_quote"),
      .cond 35 (.not (.path "loop" ["last"])) [
        .text ", "] []] [],
    .text "])) \x7b\n",
    .lines [
      "\t\treturn null;",
      "\t\x7d",
      ""],
    .cond 39 (.path "r" ["has_opts"]) [
      .lines ["\treturn \x7b"],
      .text "\t\tid: ",
      .print 41 (.filter (.path "r" ["id"]) "js_quote"),
      .text ",\n",
      .lines ["\t\topts: \x7b"],
      .loop 43 "p" (.path "r" ["placeholders"]) [
        .text "\t\t\t",
        .print 44 (.path "p" ["name"]),
        .text ": decodeURIComponent(matches[",
        .print 44 (.path "p" ["group"]),
        .text "]),\n"] [],
      .loop 46 "q" (.path "r" ["query"]) [
        .text "\t\t\t",
        .print 47 (.path "q" ["key"]),
        .text ": ",
        .print 47 (.path "q" ["decoder"]),
        .text "(query, ",
        .print 47 (.filter (.path "q" ["key"]) "js_quote"),
        .text "),\n"] [],
      .lines [
        "\t\t\x7d,",
        "\t\x7d;"]] [
      .text "\treturn \x7b id: ",
      .print 52 (.filter (.path "r" ["id"]) "js_quote"),
      .text " \x7d;\n"],
    .lines ["\x7d"]] [],
  .lines [
    "",
    "const matchers: Array<(path: string, query: URLSearchParams) => Route | null> = ["],
  .loop 58 "r" (.path "ui_routes" ["routes"]) [
    .text "\t",
    .print 59 (.path "r" ["id"]),
    .text "Match,\n"] [],
  .lines [
    "];",
    "",
    "// tries routes in declaration order. A route whose path matched but whose",
    "// query did not decode is skipped; its error is thrown if nothing else matches.",
    "export function matchRoute(url: string): Route | null \x7b",
    "\tconst path = pathOf(url);",
    "\tconst qpos = url.indexOf('?');",
    "\tconst query = new URLSearchParams(qpos === -1 ? '' : url.substring(qpos + 1));",
    "",
    "\tlet firstError: unknown = null;",
    "\tfor (const matcher of matchers) \x7b",
    "\t\ttry \x7b",
    "\t\t\tconst route = matcher(path, query);",
    "\t\t\tif (route !== null) \x7b",
    "\t\t\t\treturn route;",
    "\t\t\t\x7d",
    "\t\t\x7d catch (err) \x7b",
    "\t\t\tif (firstError === null) \x7b",
    "\t\t\t\tfirstError = err;",
    "\t\t\t\x7d",
    "\t\t\x7d",
    "\t\x7d",
    "",
    "\tif (firstError !== null) \x7b",
    "\t\tthrow firstError;",
    "\t\x7d",
    "\treturn null;",
    "\x7d",
    "",
    "export function dispatch<T>(url: string, onMatch: (route: Route) => T, notFound: (path: " ++
      "string) => T): T \x7b",
    "\tconst route = matchRoute(url);",
    "\treturn route !== null ? onMatch(route) : notFound(pathOf(url));",
    "\x7d",
    "",
    "// for when you need to check if url can be routed to this route collection",
    "export function hasRouteFor(url: string): boolean \x7b",
    "\ttry \x7b",
    "\t\treturn matchRoute(url) !== null;",
    "\t\x7d catch (err) \x7b",
    "\t\treturn false;",
    "\t\x7d",
    "\x7d",
    "",
    "// \"/search?query=foo\" => \"/search\"",
    "function pathOf(url: string): string \x7b",
    "\tconst qpos = url.indexOf('?');",
    "\treturn qpos === -1 ? url : url.substring(0, qpos);",
    "\x7d",
    "",
    "function hasOnlyKeys(query: URLSearchParams, allowed: string[]): boolean \x7b",
    "\tlet ok = true;",
    "\tquery.forEach((_value, key) => \x7b",
    "\t\tif (allowed.indexOf(key) === -1) \x7b",
    "\t\t\tok = false;",
    "\t\t\x7d",
    "\t\x7d);",
    "\treturn ok;",
    "\x7d",
    "",
    "function requiredString(query: URLSearchParams, key: string): string \x7b",
    "\tconst value = query.get(key);",
    "\tif (value === null) \x7b",
    "\t\tthrow new MissingQueryParam(key);",
    "\t\x7d",
    "\treturn value;",
    "\x7d",
    "",
    "function optionalString(query: URLSearchParams, key: string): string | undefined \x7b",
    "\tconst value = query.get(key);",
    "\treturn value === null ? undefined : value;",
    "\x7d",
    "",
    "function parseInteger(key: string, raw: string): number \x7b",
    "\tif (!/^[+-]?\\d+$/.test(raw)) \x7b",
    "\t\tthrow new InvalidQueryParam(key, raw);",
    "\t\x7d",
    "\treturn parseInt(raw, 10);",
    "\x7d",
    "",
    "function requiredInteger(query: URLSearchParams, key: string): number \x7b",
    "\treturn parseInteger(key, requiredString(query, key));",
    "\x7d",
    "",
    "function optionalInteger(query: URLSearchParams, key: string): number | undefined \x7b",
    "\tconst raw = optionalString(query, key);",
    "\treturn raw === undefined ? undefined : parseInteger(key, raw);",
    "\x7d"]]

end Specloom.Output.TypeScript
