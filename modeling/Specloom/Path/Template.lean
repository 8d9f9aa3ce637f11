import Specloom.Path.Segment
import Specloom.Text.Split
import Specloom.Unique

/-!
# Path templates

A path template such as `/accounts/{id}` or `#/search?q={q}` is a path with placeholders and an
optional query whose parts have the form `key={placeholder}`. No placeholder occurs twice.

## Main definitions

* `PathTemplate`: a template and what was read from it
* `PathTemplate.Fault`: why a template is refused
* `PathTemplate.parse`: reads a template
* `withoutQuery`: a path up to its query
-/

namespace Specloom.Path

open Text

/-- A path template. -/
structure PathTemplate where
  /-- The template as written. -/
  raw : String
  /-- The path without the query, with the `#` of a hash route. -/
  path : String
  /-- The placeholders of the path, in order. -/
  placeholders : List String
  /-- The keys and placeholders of the query, in order. -/
  query : List (String × String)
deriving DecidableEq, Repr

/-- All placeholders of a template, those of the path first. -/
def PathTemplate.allPlaceholders (t : PathTemplate) : List String :=
  t.placeholders ++ t.query.map (·.2)

/-- The segments of the path. -/
def PathTemplate.segments (t : PathTemplate) : List Segment :=
  Path.segments t.path.toList

/-- Why a path template is refused. -/
inductive PathTemplate.Fault where
  | malformedPlaceholder (near : String)
  | duplicatePlaceholder (name : String)
  | malformedQuery (part : String)
deriving DecidableEq, Repr

/-- The message for a refused template. -/
def PathTemplate.Fault.message : PathTemplate.Fault → String
  | .malformedPlaceholder near => "malformed placeholder near '" ++ near ++ "'"
  | .duplicatePlaceholder name => "placeholder '\x7b" ++ name ++ "\x7d' appears more than once"
  | .malformedQuery part => "query part '" ++ part ++ "' must look like key=\x7bplaceholder\x7d"

/-- A path up to its first question mark. -/
def withoutQuery (path : String) : String :=
  match splitFirst? '?' path.toList with
  | some (before, _) => String.ofList before
  | none => path

namespace PathTemplate

/-- Whether a segment is a literal with a brace in it. -/
def hasStrayBrace : Segment → Bool
  | .literal text => text.contains '{' || text.contains '}'
  | .placeholder _ => false

/-- Refuses a path in which a brace belongs to no placeholder. -/
def checkBraces (path : List Char) : Except Fault Unit :=
  match (Path.segments path).find? hasStrayBrace with
  | some segment => .error (.malformedPlaceholder (String.ofList segment.written))
  | none => .ok ()

/-- Reads a part of the query: a key and one placeholder. -/
def parsePart (part : List Char) : Except Fault (String × String) :=
  match splitFirst? '=' part with
  | some (key, value) =>
    match Path.segments value with
    | [.placeholder name] =>
      if key = [] then .error (.malformedQuery (String.ofList part))
      else .ok (String.ofList key, String.ofList name)
    | _ => .error (.malformedQuery (String.ofList part))
  | none => .error (.malformedQuery (String.ofList part))

/-- Reads the query after the question mark, which may be empty. -/
def parseQuery (query : List Char) : Except Fault (List (String × String)) :=
  if query = [] then .ok [] else (splitOn '&' query).mapM parsePart

/-- Reads a path template. Braces of the path are checked first, then the query part by part, and
last that no placeholder repeats. -/
def parse (raw : String) : Except Fault PathTemplate := do
  let (path, query) :=
    match splitFirst? '?' raw.toList with
    | some (path, query) => (path, query)
    | none => (raw.toList, [])
  -- a hash route is checked, and quoted in a fault, without its hash
  let body := if path.head? = some '#' then path.tail else path
  checkBraces body
  let query ← parseQuery query
  let template : PathTemplate :=
    ⟨raw, String.ofList path, (Path.placeholders path).map String.ofList, query⟩
  match firstRepeat? template.allPlaceholders with
  | some name => .error (.duplicatePlaceholder name)
  | none => .ok template

end PathTemplate

end Specloom.Path
