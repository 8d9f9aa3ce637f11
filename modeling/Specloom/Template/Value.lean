import Specloom.Text.Shown

/-!
# Values in templates

What a template can refer to: texts, numbers and truth values, lists and records of values.

## Main definitions

* `Value`: a value
* `Value.field?`: a field of a record
* `Value.isTruthy`: whether a condition on the value holds
* `Value.print`: the text that stands for the value in the output
* `ToValue`: types whose elements are values
-/

namespace Specloom.Template

/-- A value. -/
inductive Value where
  | null
  | bool (b : Bool)
  | number (n : Int)
  | text (s : String)
  | list (items : List Value)
  | record (fields : List (String × Value))
deriving Repr, Inhabited

namespace Value

/-- A field of a record; no other value has fields. -/
def field? (key : String) : Value → Option Value
  | .record fields => fields.lookup key
  | _ => none

/-- Whether a condition on the value holds: what is empty or zero is false. -/
def isTruthy : Value → Bool
  | .null => false
  | .bool b => b
  | .number n => n ≠ 0
  | .text s => s ≠ ""
  | .list items => !items.isEmpty
  | .record fields => !fields.isEmpty

/-- The kind of a value, as messages name it. -/
def kind : Value → String
  | .null => "none"
  | .bool _ => "bool"
  | .number _ => "number"
  | .text _ => "string"
  | .list _ => "sequence"
  | .record _ => "map"

mutual

/-- The text of a value inside a list or a record: texts are quoted. -/
def quoted : Value → String
  | .null => "None"
  | .bool b => if b then "True" else "False"
  | .number n => toString n
  | .text s => Text.shown s
  | .list items => "[" ++ ", ".intercalate (quotedItems items) ++ "]"
  | .record fields => "\x7b" ++ ", ".intercalate (quotedFields fields) ++ "\x7d"

/-- The texts of the items of a list. -/
def quotedItems : List Value → List String
  | [] => []
  | v :: rest => v.quoted :: quotedItems rest

/-- The texts of the fields of a record. -/
def quotedFields : List (String × Value) → List String
  | [] => []
  | (key, v) :: rest => (Text.shown key ++ ": " ++ v.quoted) :: quotedFields rest

end

/-- The text that stands for a value in the output. -/
def print : Value → String
  | .text s => s
  | v => v.quoted

end Value

/-- Types whose elements can be referred to in templates. -/
class ToValue (α : Type) where
  /-- The value of an element. -/
  toValue : α → Value

export ToValue (toValue)

instance : ToValue Value := ⟨id⟩

instance : ToValue String := ⟨.text⟩

instance : ToValue Bool := ⟨.bool⟩

instance : ToValue Nat := ⟨fun n => .number n⟩

instance {α : Type} [ToValue α] : ToValue (List α) := ⟨fun xs => .list (xs.map toValue)⟩

instance {α : Type} [ToValue α] : ToValue (Option α) := ⟨fun
  | some x => toValue x
  | none => .null⟩

end Specloom.Template
