import Specloom.Text.Split

/-!
# Paths

A path is a text of names with slashes between them. Empty names and dots inside a path mean
nothing; a dot at its begin is kept.

## Main definitions

* `joinPath`: a path relative to a directory
* `parent?`, `parentPath`: the directory of a path
-/

namespace Specloom

open Text

/-- A path relative to a directory: an absolute path stays, and otherwise the texts are put together
with one slash in between. -/
def joinPath (base path : String) : String :=
  match path.toList.head?, base.toList.getLast? with
  | some '/', _ => path
  | _, none => path
  | _, some '/' => base ++ path
  | _, some _ => base ++ "/" ++ path

/-- Whether a name inside a path means nothing. -/
def isIdle (name : List Char) : Bool :=
  name == [] || name == ['.']

/-- Drops the names at the end that mean nothing. -/
def dropIdle (names : List (List Char)) : List (List Char) :=
  (names.reverse.dropWhile isIdle).reverse

/-- The directory of a path, without the slashes before its last name. The empty path and the root
have none, and a single name has the empty path. -/
def parent? (path : String) : Option String :=
  match splitOn '/' path.toList with
  | [] => none
  | first :: rest =>
    match dropIdle rest, first with
    | [], [] => none
    | [], _ => some ""
    | names, first =>
      match dropIdle names.dropLast, first with
      | [], [] => some "/"
      | names, first => some (String.ofList (List.intercalate ['/'] (first :: names)))

/-- The directory that relative paths in a file are relative to. -/
def parentPath (path : String) : String :=
  (parent? path).getD "."

/-- The directory that a file is put into: that of its path, or the one at hand. -/
def targetDirectory (path : String) : String :=
  match parent? path with
  | none | some "" => "."
  | some parent => parent

example : parentPath "conf//x.json" = "conf" ∧ parentPath "./c.json" = "." ∧
    parentPath "c.json" = "" ∧ parentPath "/c" = "/" ∧ parentPath "a/b/" = "a" := by
  decide +kernel
example : joinPath "conf" "" = "conf/" ∧ joinPath "" "x" = "x" ∧ joinPath "a" "/b" = "/b" := by
  decide +kernel

end Specloom
