import Specloom.Text.Word

/-!
# Names in generated code

Keys of the documents become identifiers: a field key with a capital first letter is an exported
Go name, a dotted key is joined to the name of a struct, and a module path ends in the module's id.

## Main definitions

* `Name.upperFirst`, `Name.lowerFirst`: a change of case at the first character
* `Name.pascal`: the identifier of a free text
* `Name.ofKey`: the struct name of a dotted key
* `Name.ofPath`: the id of a module path
-/

namespace Specloom.Name

open Text

/-- `getUser` becomes `GetUser`. -/
def upperFirst (s : String) : String :=
  match s.toList with
  | [] => ""
  | c :: rest => String.ofList (upper c ++ rest)

/-- `UserCreate` becomes `userCreate`. -/
def lowerFirst (s : String) : String :=
  match s.toList with
  | [] => ""
  | c :: rest => String.ofList (lower c ++ rest)

/-- `in_progress` becomes `InProgress`. -/
def pascal (s : String) : String :=
  String.ofList (Text.pascal s.toList)

/-- `user.create` becomes `UserCreate`. -/
def ofKey (key : String) : String :=
  String.ofList (((splitOn '.' key.toList).filter (· ≠ [])).flatMap Text.pascal)

/-- `server/users/` ends in `users`: trailing slashes are dropped, and what follows the last of
the others is the id. -/
def ofPath (path : String) : String :=
  let trimmed := (path.toList.reverse.dropWhile (· == '/')).reverse
  String.ofList <| match splitLast? '/' trimmed with
    | some (_, id) => id
    | none => trimmed

end Specloom.Name
