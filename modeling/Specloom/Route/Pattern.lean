import Specloom.Path.Segment
import Specloom.Text.Replace

/-!
# Routes as regular expressions

The path of a route as the source of an anchored regular expression: literals are escaped and each
placeholder becomes a group that takes one or more characters other than a slash.

## Main definitions

* `pattern`: the source for a matcher
* `jsRegexLiteral`: the same as a regular expression literal of TypeScript
-/

namespace Specloom.Route

open Specloom.Path Text

/-- A character, with a backslash before it if it is one of `special`. -/
def escapeChar (special : List Char) (c : Char) : List Char :=
  if c ∈ special then ['\\', c] else [c]

/-- The source of a segment. -/
def patternPiece (special group : List Char) : Segment → List Char
  | .literal text => text.flatMap (escapeChar special)
  | .placeholder _ => group

/-- The anchored source of a path. -/
def patternOf (special group : List Char) (path : List Char) : List Char :=
  '^' :: ((segments path).flatMap (patternPiece special group) ++ ['$'])

/-- The source of the matcher of a path. -/
def pattern (path : String) : String :=
  String.ofList <| patternOf "\\.+*?()|[]\x7b\x7d^$#&-~".toList "([^/]+)".toList path.toList

/-- The regular expression literal of a path: slashes are escaped too, those of literals with the
other special characters and those of groups afterwards. -/
def jsRegexLiteral (path : String) : String :=
  let source := patternOf "\\^$.|?*+()[]\x7b\x7d/".toList "([^/]+)".toList path.toList
  String.ofList <| '/' :: (replaceAll "[^/]".toList "[^\\/]".toList source ++ ['/'])

example : jsRegexLiteral "/account/\x7bid\x7d/edit" = "/^\\/account\\/([^\\/]+)\\/edit$/" := by
  decide +kernel

end Specloom.Route
