import Specloom.Json.Decode

/-!
# Datatypes in documents

A datatype is written as a name, or as an object that holds the name under `_` and may say that it
is nullable, of which element and with which fields. Field names are distinct.

## Main definitions

* `DatatypeDoc`: a datatype as written
* `DatatypeDoc.ofNode?`: the datatype of a JSON value
* `DatatypeDoc.decode`: its decoder
-/

namespace Specloom.Document

open Json

/-- A datatype as written in a document. -/
inductive DatatypeDoc where
  | name (name : String)
  | node (name : String) (nullable : Bool) (of : Option DatatypeDoc)
    (fields : Option (List (String × DatatypeDoc)))
deriving Repr

/-- The entries of a datatype node that have been read. -/
structure DatatypeParts where
  name : Option String
  nullable : Option Bool
  of : Option (Option DatatypeDoc)
  fields : Option (Option (List (String × DatatypeDoc)))

namespace DatatypeParts

/-- Nothing has been read. -/
def empty : DatatypeParts :=
  ⟨none, none, none, none⟩

/-- Enters the name. -/
def setName (parts : DatatypeParts) : Node → Option DatatypeParts
  | .string s => if parts.name.isNone then some { parts with name := some s } else none
  | _ => none

/-- Enters the nullability. -/
def setNullable (parts : DatatypeParts) : Node → Option DatatypeParts
  | .bool b => if parts.nullable.isNone then some { parts with nullable := some b } else none
  | _ => none

/-- Enters the element. -/
def setOf (parts : DatatypeParts) (of : Option DatatypeDoc) : Option DatatypeParts :=
  if parts.of.isNone then some { parts with of := some of } else none

/-- Enters the fields. -/
def setFields (parts : DatatypeParts) (fields : Option (List (String × DatatypeDoc))) :
    Option DatatypeParts :=
  if parts.fields.isNone then some { parts with fields := some fields } else none

/-- The datatype that has been read, if it has a name. -/
def finish (parts : DatatypeParts) : Option DatatypeDoc :=
  parts.name.map fun name =>
    .node name (parts.nullable.getD false) (parts.of.getD none) (parts.fields.getD none)

end DatatypeParts

/-- Adds a field, unless its name is taken by a later one. -/
def consField (key : String) (t : DatatypeDoc) (rest : List (String × DatatypeDoc)) :
    Option (List (String × DatatypeDoc)) :=
  if rest.any (·.1 == key) then none else some ((key, t) :: rest)

namespace DatatypeDoc

mutual

/-- The datatype that a JSON value writes, if it writes one. A node is an object, or a list of its
entries in the order name, nullability, element, fields. -/
def ofNode? : Node → Option DatatypeDoc
  | .string s => some (.name s)
  | .object members _ => ofMembers? .empty members
  | .list items _ => ofItems? 0 .empty items
  | _ => none

/-- Reads the members of a node, in order. -/
def ofMembers? (parts : DatatypeParts) : List (String × Node) → Option DatatypeDoc
  | [] => parts.finish
  | (key, value) :: rest => do
    let parts ←
      if key = "_" then parts.setName value
      else if key = "nullable" then parts.setNullable value
      else if key = "of" then (ofElement? value).bind parts.setOf
      else if key = "fields" then (ofFields? value).bind parts.setFields
      else none
    ofMembers? parts rest

/-- Reads the entries of a node that is written as a list, from an index on. -/
def ofItems? (index : Nat) (parts : DatatypeParts) : List Node → Option DatatypeDoc
  | [] => parts.finish
  | value :: rest => do
    let parts ←
      match index with
      | 0 => parts.setName value
      | 1 => parts.setNullable value
      | 2 => (ofElement? value).bind parts.setOf
      | 3 => (ofFields? value).bind parts.setFields
      | _ => none
    ofItems? (index + 1) parts rest

/-- Reads an element, which may be `null`. -/
def ofElement? : Node → Option (Option DatatypeDoc)
  | .null => some none
  | .string s => some (some (.name s))
  | .object members _ => (ofMembers? .empty members).map some
  | .list items _ => (ofItems? 0 .empty items).map some
  | _ => none

/-- Reads the fields of an object, which may be `null`. -/
def ofFields? : Node → Option (Option (List (String × DatatypeDoc)))
  | .null => some none
  | .object members _ => (ofEntries? members).map some
  | _ => none

/-- Reads fields, whose names must be distinct. -/
def ofEntries? : List (String × Node) → Option (List (String × DatatypeDoc))
  | [] => some []
  | (key, value) :: rest => do
    let t ← ofNode? value
    consField key t (← ofEntries? rest)

end

/-- The decoder of datatypes. A break in the text is reported before a value of the wrong form. -/
def decode : Decoder DatatypeDoc := fun value =>
  match value.fault? with
  | some fault => .error (.malformed fault)
  | none =>
    match ofNode? value with
    | some t => .ok t
    | none => .error (.noVariant "DatatypeDoc")

end DatatypeDoc

end Specloom.Document
