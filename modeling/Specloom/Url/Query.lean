import Specloom.Text.Split
import Specloom.Url.Percent

/-!
# The query of a URL

A query is read as a form: parts between ampersands, each a key and a value around its first equals
sign. A plus sign is a space, and malformed octets become U+FFFD.

## Main definitions

* `parseQuery`: the keys and values of a query
* `splitUrl`: the path of a URL and its query
-/

namespace Specloom.Url

open Text

/-- The text that a key or a value of a form stands for. -/
def decodeForm (cs : List Char) : List Char :=
  Utf8.decodeLossy (decodeOctets (cs.map fun c => if c = '+' then ' ' else c))

/-- The key and the value of a part; without an equals sign the value is empty. -/
def parsePart (part : List Char) : String × String :=
  let (key, value) := (splitFirst? '=' part).getD (part, [])
  (String.ofList (decodeForm key), String.ofList (decodeForm value))

/-- The keys and values of a query. Empty parts are dropped. -/
def parseQuery (query : List Char) : List (String × String) :=
  ((splitOn '&' query).filter (· ≠ [])).map parsePart

/-- The path of a URL, up to its first question mark, and its query. -/
def splitUrl (url : String) : String × List (String × String) :=
  match splitFirst? '?' url.toList with
  | some (path, query) => (String.ofList path, parseQuery query)
  | none => (url, [])

example : splitUrl "/s?q=a+b%21&&x" = ("/s", [("q", "a b!"), ("x", "")]) := by decide +kernel

end Specloom.Url
