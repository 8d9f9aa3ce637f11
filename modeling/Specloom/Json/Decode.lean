import Specloom.Json.Tree
import Specloom.Text.Decimal
import Specloom.Text.Shown

/-!
# Decoding JSON documents

Documents are decoded strictly and in document order: a record names its fields, and an unknown
key, a repeated key, a value of the wrong type or a break in the text is reported where it is met.
A field that is missing is reported at the end of its record, unless it has a value for that case.
A record may also be written as a list of its fields in their declared order.

## Main definitions

* `DecodeFault`: why a document is refused
* `Decoder`: a function from trees to values
* `Record`: the fields of a record and the value they make up
* `Record.decode`: the decoder of a record
* `decodeText`: decodes the text of a document
-/

namespace Specloom.Json

open Text

/-- What was found in place of the expected value. -/
inductive Found where
  | null
  | bool (b : Bool)
  | integer (n : Int)
  | double (bits : UInt64)
  | string (s : String)
  | list
  | object
deriving DecidableEq, Repr

/-- How a message names what was found. -/
def Found.text : Found → String
  | .null => "null"
  | .bool b => "boolean `" ++ (if b then "true" else "false") ++ "`"
  | .integer n => "integer `" ++ toString n ++ "`"
  | .double bits => "floating point `" ++ decimal bits ++ "`"
  | .string s => "string " ++ shown s
  | .list => "sequence"
  | .object => "map"

/-- Why a document is refused. -/
inductive DecodeFault where
  /-- The text is not JSON. -/
  | malformed (fault : Fault)
  | invalidType (found : Found) (expected : String)
  | invalidValue (found : Found) (expected : String)
  | invalidLength (length : Nat) (expected : String)
  | missingField (name : String)
  | unknownField (name : String) (known : List String)
  | duplicateField (name : String)
  /-- No form of a value with several forms fits. -/
  | noVariant (name : String)
deriving DecidableEq, Repr

/-- The alternatives to an unknown field, as a message lists them. -/
def alternatives : List String → String
  | [] => "there are no fields"
  | [a] => "expected `" ++ a ++ "`"
  | [a, b] => "expected `" ++ a ++ "` or `" ++ b ++ "`"
  | names => "expected one of " ++ ", ".intercalate (names.map fun n => "`" ++ n ++ "`")

/-- The message for a refused document. -/
def DecodeFault.message : DecodeFault → String
  | .malformed fault => fault.message
  | .invalidType found expected => "invalid type: " ++ found.text ++ ", expected " ++ expected
  | .invalidValue found expected => "invalid value: " ++ found.text ++ ", expected " ++ expected
  | .invalidLength n expected => "invalid length " ++ toString n ++ ", expected " ++ expected
  | .missingField name => "missing field `" ++ name ++ "`"
  | .unknownField name known => "unknown field `" ++ name ++ "`, " ++ alternatives known
  | .duplicateField name => "duplicate field `" ++ name ++ "`"
  | .noVariant name => "data did not match any variant of untagged enum " ++ name

/-- A function from trees to values. -/
abbrev Decoder (α : Type) := Node → Except DecodeFault α

/-- What a value of the wrong type is, or the fault in its place. -/
def Node.found : Node → Except Fault Found
  | .null => .ok .null
  | .bool b => .ok (.bool b)
  | .number (.integer n) => .ok (.integer n)
  | .number (.double bits) => .ok (.double bits)
  | .string s => .ok (.string s)
  | .list _ _ => .ok .list
  | .object _ _ => .ok .object
  | .broken fault => .error fault

/-- Refuses a value of the wrong type. -/
def wrongType {α : Type} (expected : String) (node : Node) : Except DecodeFault α :=
  match node.found with
  | .ok found => .error (.invalidType found expected)
  | .error fault => .error (.malformed fault)

/-- Refuses a tree that breaks off. -/
def stopAt : Option Fault → Except DecodeFault Unit
  | some fault => .error (.malformed fault)
  | none => .ok ()

namespace Decoder

/-- Decodes a string; a message calls it by the given name. -/
def stringAs (name : String) : Decoder String
  | .string s => .ok s
  | node => wrongType name node

/-- Decodes a string. -/
def string : Decoder String :=
  stringAs "a string"

/-- Decodes a truth value. -/
def bool : Decoder Bool
  | .bool b => .ok b
  | node => wrongType "a boolean" node

/-- Decodes a natural number. -/
def natural : Decoder Nat
  | .number (.integer n) =>
    if 0 ≤ n then .ok n.toNat else .error (.invalidValue (.integer n) "usize")
  | node => wrongType "usize" node

/-- Decodes a value that may be `null`. -/
def option {α : Type} (decode : Decoder α) : Decoder (Option α)
  | .null => .ok none
  | node => (decode node).map some

/-- Decodes a list. -/
def list {α : Type} (decode : Decoder α) : Decoder (List α)
  | .list items fault => do
    let values ← items.mapM decode
    stopAt fault
    return values
  | node => wrongType "a sequence" node

end Decoder

/-! ### Records -/

/-- A field of a record: its name, its decoder and, if it may be missing, its value then. -/
structure Field (α : Type) where
  name : String
  decode : Decoder α
  absent : Option α

/-- A field that must be there. -/
def Field.required {α : Type} (name : String) (decode : Decoder α) : Field α :=
  ⟨name, decode, none⟩

/-- A field that has a value when it is missing. -/
def Field.default {α : Type} (name : String) (decode : Decoder α) (value : α) : Field α :=
  ⟨name, decode, some value⟩

/-- The fields of a record, in declared order. -/
inductive Fields : List Type → Type 1 where
  | nil : Fields []
  | cons {α : Type} {ts : List Type} (field : Field α) (rest : Fields ts) : Fields (α :: ts)

/-- The values of all fields. -/
def Values : List Type → Type
  | [] => Unit
  | α :: ts => α × Values ts

/-- The values of the fields that have been met. -/
def Slots : List Type → Type
  | [] => Unit
  | α :: ts => Option α × Slots ts

/-- No field has been met. -/
def Slots.empty : (ts : List Type) → Slots ts
  | [] => ()
  | _ :: ts => (none, Slots.empty ts)

namespace Fields

/-- The names of the fields. -/
def names : {ts : List Type} → Fields ts → List String
  | [], .nil => []
  | _ :: _, .cons field rest => field.name :: rest.names

/-- Decodes a member into its slot. -/
def put {ts : List Type} (known : List String) (fields : Fields ts) (slots : Slots ts)
    (key : String) (node : Node) : Except DecodeFault (Slots ts) :=
  match ts, fields, slots with
  | [], .nil, _ => .error (.unknownField key known)
  | _ :: _, .cons field rest, (slot, slots) =>
    if key = field.name then
      match slot with
      | some _ => .error (.duplicateField key)
      | none => (field.decode node).map fun value => (some value, slots)
    else (rest.put known slots key node).map fun slots => (slot, slots)

/-- The values at the end of a record, with the missing ones filled in. -/
def finish : {ts : List Type} → Fields ts → Slots ts → Except DecodeFault (Values ts)
  | [], .nil, _ => .ok ()
  | _ :: _, .cons field rest, (slot, slots) =>
    match slot.or field.absent with
    | some value => (rest.finish slots).map fun values => (value, values)
    | none => .error (.missingField field.name)

/-- Decodes the items of a list into the fields in order; `index` counts the fields before. Items
that are left over are returned. -/
def takeItems (expected : String) (fault : Option Fault) (index : Nat) {ts : List Type}
    (fields : Fields ts) (items : List Node) : Except DecodeFault (Values ts × List Node) :=
  match ts, fields, items with
  | [], .nil, items => .ok ((), items)
  | _ :: _, .cons field rest, item :: items => do
    let value ← field.decode item
    let (values, left) ← rest.takeItems expected fault (index + 1) items
    return ((value, values), left)
  | _ :: _, .cons field rest, [] => do
    stopAt fault
    match field.absent with
    | none => .error (.invalidLength index expected)
    | some value =>
      let (values, left) ← rest.takeItems expected fault (index + 1) []
      return ((value, values), left)

end Fields

/-- A record: its name in messages, its fields, and the value they make up. -/
structure Record (α : Type) where
  name : String
  types : List Type
  fields : Fields types
  make : Values types → α

namespace Record

/-- The length of a record, as a message states it. -/
def lengthText {α : Type} (record : Record α) : String :=
  let n := record.fields.names.length
  "struct " ++ record.name ++ " with " ++ toString n ++ (if n = 1 then " element" else " elements")

/-- Decodes the members of an object into the slots, in order. -/
def putAll {α : Type} (record : Record α) (slots : Slots record.types) :
    List (String × Node) → Except DecodeFault (Slots record.types)
  | [] => .ok slots
  | (key, node) :: rest => do
    let slots ← record.fields.put record.fields.names slots key node
    record.putAll slots rest

/-- What follows the last field of a record that is written as a list: only the end may. -/
def closeList (left : List Node) (fault : Option Fault) : Except DecodeFault Unit :=
  match left, fault with
  | [], none => .ok ()
  | [], some .endInList => .error (.malformed .endInList)
  | [], some .trailingComma => .error (.malformed .trailingComma)
  | _, _ => .error (.malformed .trailingCharacters)

/-- The decoder of a record. -/
def decode {α : Type} (record : Record α) : Decoder α
  | .object members fault => do
    let slots ← record.putAll (Slots.empty record.types) members
    stopAt fault
    return record.make (← record.fields.finish slots)
  | .list items fault => do
    let (values, left) ← record.fields.takeItems record.lengthText fault 0 items
    closeList left fault
    return record.make values
  | node => wrongType ("struct " ++ record.name) node

end Record

/-- Decodes the text of a document, which must hold nothing else. -/
def decodeText {α : Type} (decode : Decoder α) (text : String) : Except DecodeFault α := do
  let document := Document.read text
  let value ← decode document.root
  if document.trailing then .error (.malformed .trailingCharacters) else return value

end Specloom.Json
