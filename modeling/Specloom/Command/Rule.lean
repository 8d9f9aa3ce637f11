import Specloom.Command.Basic
import Specloom.Json.Tree

/-!
# Rules for the fields of a command

The fields of a command are checked rule by rule, in order. The rules of a field follow from its
declaration; the same rules are written into the generated code.

## Main definitions

* `Rule`: a rule
* `CommandField.rules`: the rules of a field, in order
* `FieldFault`: a rule that a value breaks
-/

namespace Specloom

/-- A rule for the value of a field. -/
inductive Rule where
  /-- There is a value; an object is checked for being there, a text for being empty. -/
  | nonEmpty (object : Bool)
  | maxLength (limit : Nat)
  /-- A text that is not empty matches a regular expression. -/
  | pattern (source : String)
  | singleLine
deriving DecidableEq, Repr

/-- The greatest length of a text on one line, unless the field has its own. -/
def defaultMaxLength : Nat := 128

/-- The greatest length of a text of several lines, unless the field has its own. -/
def defaultMultilineMaxLength : Nat := 4096

namespace CommandField

/-- The rules of a text with a default for its greatest length. -/
def textRules (f : CommandField) (defaultLength : Nat) : List Rule :=
  (if f.optional then [] else [.nonEmpty false]) ++
    .maxLength (f.maxLength.getD defaultLength) ::
      ((f.validationRegex.toList.map .pattern) ++
        if f.type.isSingleLine then [.singleLine] else [])

/-- The rules of a field, in order. Numbers, dates and truth values have none, since their absence
does not show. -/
def rules (f : CommandField) : List Rule :=
  match f.type with
  | .text | .password => f.textRules defaultMaxLength
  | .multiline => f.textRules defaultMultilineMaxLength
  | .custom .integer => []
  | .custom (.struct _) => if f.optional then [] else [.nonEmpty true]
  | .custom _ => if f.optional then [] else [.nonEmpty false]
  | .checkbox | .integer | .date | .datetime => []

end CommandField

/-- The rule that the value of a field breaks. -/
inductive FieldFault where
  | empty (field : String)
  | tooLong (field : String) (limit length : Nat)
  | patternMismatch (field pattern : String)
  | newlines (field : String)
deriving DecidableEq, Repr

/-- The message for a broken rule. -/
def FieldFault.message : FieldFault → String
  | .empty field => "field " ++ field ++ " cannot be empty"
  | .tooLong field limit length =>
    "field " ++ field ++ " exceeded maximum length " ++ toString limit ++
      " (got " ++ toString length ++ ")"
  | .patternMismatch field pattern => "field " ++ field ++ " does not match pattern " ++ pattern
  | .newlines field => "single-line field " ++ field ++ " contains newlines"

/-- A member of a JSON object; of several with one key the last counts. -/
def Json.Node.member? (key : String) : Json.Node → Option Json.Node
  | .object members _ => members.reverse.lookup key
  | _ => none

/-- The text that a JSON value is; every other value counts as the empty text. -/
def Json.Node.textOrEmpty : Option Json.Node → String
  | some (.string s) => s
  | _ => ""

/-- Whether a value is absent: missing or null. -/
def Json.Node.isAbsent : Option Json.Node → Bool
  | none | some .null => true
  | _ => false

/-- Checks the value of a field against a rule; `isMatch` decides whether a text matches the regular
expression of the field. -/
def Rule.check (field : String) (isMatch : String → Bool) (value : Option Json.Node) :
    Rule → Except FieldFault Unit
  | .nonEmpty true => if Json.Node.isAbsent value then .error (.empty field) else .ok ()
  | .nonEmpty false =>
    if Json.Node.textOrEmpty value = "" then .error (.empty field) else .ok ()
  | .maxLength limit =>
    let length := (Json.Node.textOrEmpty value).length
    if limit < length then .error (.tooLong field limit length) else .ok ()
  | .pattern source =>
    let text := Json.Node.textOrEmpty value
    if text ≠ "" ∧ !isMatch text then .error (.patternMismatch field source) else .ok ()
  | .singleLine =>
    let text := (Json.Node.textOrEmpty value).toList
    if text.contains '\r' || text.contains '\n' then .error (.newlines field) else .ok ()

end Specloom
