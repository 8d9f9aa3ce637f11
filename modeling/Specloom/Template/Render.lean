import Specloom.Name
import Specloom.Path.Template
import Specloom.Template.Basic
import Specloom.Text.Quoted

/-!
# Rendering

A template is rendered against the fields of a record. Nothing may be left undefined: whoever
prints, filters or tests a name that is not bound, or a field that is not there, fails.

## Main definitions

* `Helpers`: the filters
* `Expr.eval`: the value of an expression
* `render`: the text of a template
* `Fault`: why there is none
-/

namespace Specloom.Template

/-- The filters: functions on texts that may refuse a text, with a message. -/
structure Helpers where
  upperFirst : String → Except String String
  jsQuote : String → Except String String
  stripQuery : String → Except String String
  goQuote : String → Except String String

namespace Helpers

/-- The stock filters. -/
def standard : Helpers where
  upperFirst s := if s = "" then .error "uppercase_first: empty input" else .ok (Name.upperFirst s)
  jsQuote s := .ok (Text.QuoteStyle.single.literal s)
  stripQuery s := .ok (Path.withoutQuery s)
  goQuote s := .ok (Text.QuoteStyle.double.literal s)

/-- The filter with a name. -/
def named? (h : Helpers) (name : String) : Option (String → Except String String) :=
  match name with
  | "uppercase_first" => some h.upperFirst
  | "js_quote" => some h.jsQuote
  | "strip_query" => some h.stripQuery
  | "go_quote" => some h.goQuote
  | _ => none

end Helpers

/-- Why an expression has no value, or a part no text. -/
inductive Cause where
  | undefined
  | refused (message : String)
  | unknownFilter (name : String)
  | notIterable (kind : String)
deriving DecidableEq, Repr

/-- Why a template is not rendered. -/
inductive Fault where
  | malformed
  | failed (line : Nat) (cause : Cause)
deriving DecidableEq, Repr

/-- The message for a cause. -/
def Cause.message : Cause → String
  | .undefined => "undefined value"
  | .refused message => "invalid operation: " ++ message
  | .unknownFilter name => "unknown filter: filter " ++ name ++ " is unknown"
  | .notIterable kind => "invalid operation: " ++ kind ++ " is not iterable"

/-- The message for a fault of the template with a given name. -/
def Fault.message (template : String) : Fault → String
  | .malformed => "syntax error"
  | .failed line cause => cause.message ++ " (in " ++ template ++ ":" ++ toString line ++ ")"

/-- The names at hand, inner ones first. -/
abbrev Scope := List (String × Value)

/-- A value that must be defined. -/
def defined (v : Option Value) : Except Cause Value :=
  match v with
  | some v => .ok v
  | none => .error .undefined

/-- The value of an expression, or none where it is undefined. -/
def Expr.eval (h : Helpers) (scope : Scope) : Expr → Except Cause (Option Value)
  | .name n => .ok (scope.lookup n)
  | .literal v => .ok (some v)
  | .field e key => do return (← defined (← e.eval h scope)).field? key
  | .filter e key =>
    match h.named? key with
    | none => .error (.unknownFilter key)
    | some f => do
      match f (← defined (← e.eval h scope)).print with
      | .ok s => return some (.text s)
      | .error message => .error (.refused message)
  | .not e => do return some (.bool !(← defined (← e.eval h scope)).isTruthy)
  | .cond c yes no => do
    if (← defined (← c.eval h scope)).isTruthy then yes.eval h scope else no.eval h scope

/-- The value of an expression that must be defined, on a line. -/
def evalAt (h : Helpers) (scope : Scope) (line : Nat) (e : Expr) : Except Fault Value :=
  match e.eval h scope >>= defined with
  | .ok v => .ok v
  | .error cause => .error (.failed line cause)

/-- What a loop repeats its body for: the items of a list, the keys of a record, the characters of
a text. -/
def Value.items? : Value → Option (List Value)
  | .null => some []
  | .list items => some items
  | .record fields => some (fields.map fun field => .text field.1)
  | .text s => some (s.toList.map fun c => .text (String.singleton c))
  | .bool _ | .number _ => none

/-- What a body can ask about its loop: the place of the item at `index`, of `count` items. -/
def loopValue (count index : Nat) : Value :=
  .record [
    ("first", .bool (index = 0)),
    ("last", .bool (index + 1 = count)),
    ("index", .number (index + 1)),
    ("index0", .number index),
    ("length", .number count)]

mutual

/-- The text of a part. -/
def Node.render (h : Helpers) (scope : Scope) : Node → Except Fault String
  | .text s => .ok s
  | .print line e => (evalAt h scope line e).map Value.print
  | .cond line c yes no => do
    if (← evalAt h scope line c).isTruthy then renderNodes h scope yes else renderNodes h scope no
  | .loop line key e body otherwise => do
    let v ← evalAt h scope line e
    match v.items? with
    | some [] => renderNodes h scope otherwise
    | some items =>
      let texts ← items.zipIdx.mapM fun (item, index) =>
        renderNodes h ((key, item) :: ("loop", loopValue items.length index) :: scope) body
      return "".intercalate texts
    | none => .error (.failed line (.notIterable v.kind))

/-- The text of some parts, one after the other. -/
def renderNodes (h : Helpers) (scope : Scope) : List Node → Except Fault String
  | [] => .ok ""
  | node :: rest => do return (← node.render h scope) ++ (← renderNodes h scope rest)

end

/-- The text of a template with the fields of a record at hand. -/
def render (h : Helpers) (fields : List (String × Value)) (template : Template) :
    Except Fault String :=
  renderNodes h fields template

end Specloom.Template
