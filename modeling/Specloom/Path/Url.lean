import Specloom.Path.Template
import Specloom.Text.Quoted
import Specloom.Text.Replace

/-!
# URLs of path templates

A path template stands for the URLs that result when every placeholder is replaced by an escaped
value. Generated code builds such a URL from parts: texts, and values escaped for a path or a query.

## Main definitions

* `UrlPart`, `PathTemplate.urlParts`: the parts of the URL
* `GoSum`, `goUrl`: the URL as a Go expression
* `tsPath`, `tsUrl`: the URL as the body of a TypeScript template literal
-/

namespace Specloom.Path

open Text

/-- A part of a URL. -/
inductive UrlPart where
  | text (s : List Char)
  | pathValue (name : List Char)
  | queryValue (name : List Char)
deriving DecidableEq, Repr

/-- A segment of the path as a part. -/
def Segment.urlPart : Segment → UrlPart
  | .literal text => .text text
  | .placeholder name => .pathValue name

/-- The parts of a query: each key with the character before it and the one after, then a value. -/
def queryParts (lead : Char) : List (String × String) → List UrlPart
  | [] => []
  | (key, name) :: rest =>
    .text (lead :: (key.toList ++ ['='])) :: .queryValue name.toList :: queryParts '&' rest

/-- The parts of the URL, in order. -/
def PathTemplate.urlParts (t : PathTemplate) : List UrlPart :=
  t.segments.map Segment.urlPart ++ queryParts '?' t.query

/-! ### Go -/

/-- A part as a Go expression. -/
def UrlPart.go : UrlPart → String
  | .text s => String.ofList (QuoteStyle.double.encode s)
  | .pathValue name => "url.PathEscape(" ++ String.ofList name ++ ")"
  | .queryValue name => "url.QueryEscape(" ++ String.ofList name ++ ")"

/-- A sum of parts that is being written: the parts so far, and the text that has been collected
after them. -/
structure GoSum where
  parts : List UrlPart
  text : List Char

namespace GoSum

/-- Nothing has been written. -/
def empty : GoSum :=
  ⟨[], []⟩

/-- Adds a segment of the path: a literal is collected, and a placeholder comes after the text that
has been collected, unless that is empty. -/
def addSegment (sum : GoSum) : Segment → GoSum
  | .literal text => ⟨sum.parts, sum.text ++ text⟩
  | .placeholder name =>
    let parts := if sum.text = [] then sum.parts else sum.parts ++ [.text sum.text]
    ⟨parts ++ [.pathValue name], []⟩

/-- Adds the pairs of a query, the first one behind `lead` and the others behind an ampersand. -/
def addQuery (sum : GoSum) (lead : Char) : List (String × String) → GoSum
  | [] => sum
  | (key, name) :: rest =>
    let text := sum.text ++ lead :: (key.toList ++ ['='])
    addQuery ⟨sum.parts ++ [.text text, .queryValue name.toList], []⟩ '&' rest

/-- The parts of the sum, with the text that has been collected last. The sum is not empty. -/
def finish (sum : GoSum) : List UrlPart :=
  if sum.text ≠ [] ∨ sum.parts = [] then sum.parts ++ [.text sum.text] else sum.parts

end GoSum

/-- The parts that the URL of a template is added up from. -/
def PathTemplate.summands (t : PathTemplate) : List UrlPart :=
  ((t.segments.foldl GoSum.addSegment .empty).addQuery '?' t.query).finish

/-- The URL as a Go expression, which adds up its parts. -/
def goUrl (t : PathTemplate) : String :=
  " + ".intercalate (t.summands.map UrlPart.go)

/-! ### TypeScript -/

/-- A text inside a template literal: backslashes are escaped, then backquotes, and then dollar
signs before a brace. -/
def escapeTemplate (text : List Char) : List Char :=
  let text := replaceAll ['\\'] ['\\', '\\'] text
  let text := replaceAll ['\x60'] ['\\', '\x60'] text
  replaceAll ['$', '{'] ['\\', '$', '{'] text

/-- The substitution of an escaped value in a template literal. -/
def encodedValue (owner : String) (name : List Char) : List Char :=
  "$\x7bencodeURIComponent(".toList ++ owner.toList ++ name ++ ")\x7d".toList

/-- A segment of the path inside a template literal; values are properties of `owner`. -/
def Segment.ts (owner : String) : Segment → List Char
  | .literal text => escapeTemplate text
  | .placeholder name => encodedValue owner name

/-- The pairs of a query inside a template literal, the first one behind `lead`. -/
def tsQuery (lead : Char) : List (String × String) → List Char
  | [] => []
  | (key, name) :: rest =>
    lead :: (escapeTemplate key.toList ++ '=' :: encodedValue "" name.toList) ++ tsQuery '&' rest

/-- The path, without its query, as the body of a template literal. -/
def tsPath (owner : String) (t : PathTemplate) : String :=
  String.ofList (t.segments.flatMap (Segment.ts owner))

/-- The URL as the body of a template literal with the values at hand. -/
def tsUrl (t : PathTemplate) : String :=
  tsPath "" t ++ String.ofList (tsQuery '?' t.query)

end Specloom.Path
