import Specloom.Template.Basic

/-!
# Templates of documentation

The documentation of a module, where it is asked for.

## Main definitions

* `Markdown.events`, `Markdown.types`, `Markdown.commands`, `Markdown.endpoints`: the templates
-/

namespace Specloom.Output.Markdown

/-- Events with their changes and fields. -/
def events : Template := [
  .lines [
    "Each and every *Event* additionally has the following common meta data:",
    "",
    "- Timestamp, in UTC, the event was raised on",
    "- ID of the user that caused that event"],
  .loop 5 "e" (.path "events" ["events"]) [
    .lines [""],
    .print 7 (.path "e" ["key"]),
    .text "\n",
    .lines ["-------"],
    .cond 9 (.path "e" ["changelog"]) [
      .lines [
        "",
        "Changelog:",
        ""],
      .loop 13 "line" (.path "e" ["changelog"]) [
        .text "- ",
        .print 14 (.name "line"),
        .text "\n"] []] [],
    .lines [
      "",
      "| key | type | notes |",
      "|-----|------|-------|"],
    .loop 20 "f" (.path "e" ["fields"]) [
      .text "| ",
      .print 21 (.path "f" ["key"]),
      .text " | ",
      .print 21 (.path "f" ["type_name"]),
      .text " | ",
      .print 21 (.path "f" ["notes"]),
      .text " |\n"] []] []]

/-- Constants, enums and types. -/
def types : Template := [
  .cond 1 (.path "types" ["string_consts"]) [
    .lines [
      "Constants",
      "---------",
      "",
      "| const | value |",
      "|-------|-------|"],
    .loop 7 "c" (.path "types" ["string_consts"]) [
      .text "| ",
      .print 8 (.path "c" ["key"]),
      .text " | ",
      .print 8 (.path "c" ["value"]),
      .text " |\n"] []] [],
  .loop 11 "enum" (.path "types" ["enums"]) [
    .lines [""],
    .text "enum ",
    .print 13 (.path "enum" ["name"]),
    .text "\n",
    .lines [
      "---------",
      ""],
    .loop 16 "member" (.path "enum" ["members"]) [
      .text "- ",
      .print 17 (.path "member" ["value"]),
      .text "\n"] []] [],
  .loop 20 "decl" (.path "types" ["declarations"]) [
    .lines [""],
    .print 22 (.path "decl" ["name"]),
    .text "\n",
    .lines [
      "---------",
      "",
      "```"],
    .print 26 (.path "decl" ["ts"]),
    .text "\n",
    .lines ["```"]] []]

/-- Commands with their fields. -/
def commands : Template := [
  .lines [
    "Overview",
    "--------",
    "",
    "| Endpoint | Middleware | Title |",
    "|----------|------------|-------|"],
  .loop 6 "c" (.path "commands" ["commands"]) [
    .text "| POST /command/",
    .print 7 (.path "c" ["key"]),
    .text " | ",
    .print 7 (.path "c" ["chain"]),
    .text " | ",
    .print 7 (.path "c" ["title"]),
    .text " |\n"] [],
  .loop 9 "c" (.path "commands" ["commands"]) [
    .lines [""],
    .print 11 (.path "c" ["key"]),
    .text "\n",
    .lines ["------------"],
    .cond 13 (.path "c" ["info"]) [
      .lines [""],
      .loop 15 "line" (.path "c" ["info"]) [
        .print 16 (.name "line"),
        .text "\n"] []] [],
    .lines [
      "",
      "| Field | Type | Required | Notes |",
      "|-------|------|----------|-------|"],
    .loop 22 "f" (.path "c" ["doc_fields"]) [
      .text "| ",
      .print 23 (.path "f" ["key"]),
      .text " | ",
      .print 23 (.path "f" ["type_tag"]),
      .text " | ",
      .print 23 (.cond (.path "f" ["required"]) (.literal (.text "yes")) (.literal (.text "no"))),
      .text " | ",
      .print 23 (.path "f" ["help"]),
      .text " |\n"] []] []]

/-- Endpoints with what they take and give. -/
def endpoints : Template := [
  .lines [
    "Overview",
    "--------",
    "",
    "| Path | Middleware | Input | Output | Notes |",
    "|------|------------|-------|--------|-------|"],
  .loop 6 "e" (.path "endpoints" ["endpoints"]) [
    .text "| ",
    .print 7 (.path "e" ["method"]),
    .text " ",
    .print 7 (.path "e" ["path_raw"]),
    .text " | ",
    .print 7 (.path "e" ["chain"]),
    .text " | ",
    .print 7 (.cond (.path "e" ["consumes"]) (.path "e" ["consumes", "ts"]) (.literal (.text ""))),
    .text " | ",
    .print 7 (.cond (.path "e" ["produces"]) (.path "e" ["produces", "ts"]) (.literal (.text ""))),
    .text " | ",
    .print 7 (.path "e" ["description"]),
    .text " |\n"] [],
  .loop 9 "e" (.path "endpoints" ["endpoints"]) [
    .lines [""],
    .print 11 (.path "e" ["method"]),
    .text " ",
    .print 11 (.path "e" ["path_raw"]),
    .text "\n",
    .lines [
      "-------------------------",
      "",
      "| Detail           |     |",
      "|------------------|-----|"],
    .text "| Middleware chain | ",
    .print 16 (.path "e" ["chain"]),
    .text " |\n",
    .text "| Consumes         | ",
    .print 17 (.cond (.path "e" ["consumes"]) (.path "e" ["consumes", "ts"]) (.literal (.text ""))),
    .text " |\n",
    .text "| Produces         | ",
    .print 18 (.cond (.path "e" ["produces"]) (.path "e" ["produces", "ts"]) (.literal (.text ""))),
    .text " |\n",
    .text "| Description      | ",
    .print 19 (.path "e" ["description"]),
    .text " |\n"] []]

end Specloom.Output.Markdown
