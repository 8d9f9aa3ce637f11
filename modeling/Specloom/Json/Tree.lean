import Specloom.Json.Token

/-!
# JSON documents as trees

A JSON text is read as a tree that breaks off at its first fault: where a value, a key or a
separator is missing, the tree holds the fault in its place. Decoding walks the tree in document
order and meets either a value of the wrong type or the fault, whichever comes first.

## Main definitions

* `Node`: a value, which may break off inside
* `Document`: the value of a text, and whether text follows it
* `Document.read`: the document of a text
* `Node.fault?`: the fault inside a value
-/

namespace Specloom.Json

/-- A JSON value. A list or an object whose separators break off holds the fault behind the parts
before it, and a missing value is the fault itself. -/
inductive Node where
  | null
  | bool (b : Bool)
  | number (n : Number)
  | string (s : String)
  | list (items : List Node) (fault : Option Fault)
  | object (members : List (String × Node)) (fault : Option Fault)
  | broken (fault : Fault)

/-- A JSON text: its value, and whether anything but blanks follows. -/
structure Document where
  root : Node
  trailing : Bool

/-- A list or an object that is still open, with its parts so far, last first. -/
inductive Frame where
  | list (items : List Node)
  | object (members : List (String × Node)) (key : String)

/-- How many lists and objects may be inside each other. -/
def maxDepth : Nat := 127

/-- Closes the open lists and objects around a value in which the tree breaks off. -/
def breakOff : List Frame → Node → Node
  | [], node => node
  | .list items :: frames, node => breakOff frames (.list (node :: items).reverse none)
  | .object members key :: frames, node =>
    breakOff frames (.object ((key, node) :: members).reverse none)

/-- What must come next. -/
inductive Expected where
  /-- A value. -/
  | value
  /-- The first item of a list or its end. -/
  | firstItem
  /-- An item, after a comma. -/
  | item (items : List Node)
  /-- A comma or the end of a list. -/
  | listSeparator (items : List Node)
  /-- The first key of an object or its end. -/
  | firstKey
  /-- A key, after a comma. -/
  | key (members : List (String × Node))
  /-- The colon after a key. -/
  | colon (members : List (String × Node)) (key : String)
  /-- A comma or the end of an object. -/
  | objectSeparator (members : List (String × Node))
  /-- Nothing: the document is complete. -/
  | nothing (root : Node)

/-- What must come after a value is complete. -/
def afterValue (node : Node) : List Frame → Expected × List Frame
  | [] => (.nothing node, [])
  | .list items :: frames => (.listSeparator (node :: items), frames)
  | .object members key :: frames => (.objectSeparator ((key, node) :: members), frames)

/-- A step of reading: go on, or break off with the tree so far. -/
inductive Step where
  | expect (next : Expected) (frames : List Frame)
  | stop (document : Document)

/-- Goes on after a complete value. -/
def Step.complete (node : Node) (frames : List Frame) : Step :=
  .expect (afterValue node frames).1 (afterValue node frames).2

/-- Breaks off in a value. -/
def Step.breakOff (frames : List Frame) (node : Node) : Step :=
  .stop ⟨Json.breakOff frames node, false⟩

/-- Reads a token where a value must come. -/
def stepValue (frames : List Frame) : Token → Step
  | .null => .complete .null frames
  | .bool b => .complete (.bool b) frames
  | .number n => .complete (.number n) frames
  | .string s => .complete (.string s) frames
  | .openList =>
    if frames.length < maxDepth then .expect .firstItem frames
    else .breakOff frames (.list [] (some .tooDeep))
  | .openObject =>
    if frames.length < maxDepth then .expect .firstKey frames
    else .breakOff frames (.object [] (some .tooDeep))
  | .broken _ fault => .breakOff frames (.broken fault)
  | _ => .breakOff frames (.broken .expectedValue)

/-- Reads a token where a key must come. -/
def stepKey (members : List (String × Node)) (frames : List Frame) : Token → Step
  | .string s => .expect (.colon members s) frames
  | .broken true fault => .breakOff frames (.object members.reverse (some fault))
  | _ => .breakOff frames (.object members.reverse (some .keyNotString))

/-- Reads a token. -/
def step (expected : Expected) (frames : List Frame) (token : Token) : Step :=
  match expected with
  | .value => stepValue frames token
  | .firstItem =>
    match token with
    | .closeList => .complete (.list [] none) frames
    | token => stepValue (.list [] :: frames) token
  | .item items =>
    match token with
    | .closeList => .breakOff frames (.list items.reverse (some .trailingComma))
    | token => stepValue (.list items :: frames) token
  | .listSeparator items =>
    match token with
    | .closeList => .complete (.list items.reverse none) frames
    | .comma => .expect (.item items) frames
    | _ => .breakOff frames (.list items.reverse (some .expectedListEnd))
  | .firstKey =>
    match token with
    | .closeObject => .complete (.object [] none) frames
    | token => stepKey [] frames token
  | .key members =>
    match token with
    | .closeObject => .breakOff frames (.object members.reverse (some .trailingComma))
    | token => stepKey members frames token
  | .colon members key =>
    match token with
    | .colon => .expect .value (.object members key :: frames)
    | _ => .breakOff frames (.object ((key, .broken .expectedColon) :: members).reverse none)
  | .objectSeparator members =>
    match token with
    | .closeObject => .complete (.object members.reverse none) frames
    | .comma => .expect (.key members) frames
    | _ => .breakOff frames (.object members.reverse (some .expectedObjectEnd))
  | .nothing root => .stop ⟨root, true⟩

/-- The document of a text that ends where something is expected. -/
def stepEnd (expected : Expected) (frames : List Frame) : Document :=
  match expected with
  | .value => ⟨breakOff frames (.broken .endInValue), false⟩
  | .firstItem => ⟨breakOff frames (.list [] (some .endInList)), false⟩
  | .item items => ⟨breakOff frames (.list items.reverse (some .endInValue)), false⟩
  | .listSeparator items => ⟨breakOff frames (.list items.reverse (some .endInList)), false⟩
  | .firstKey => ⟨breakOff frames (.object [] (some .endInObject)), false⟩
  | .key members => ⟨breakOff frames (.object members.reverse (some .endInValue)), false⟩
  | .colon members key =>
    ⟨breakOff frames (.object ((key, .broken .endInObject) :: members).reverse none), false⟩
  | .objectSeparator members =>
    ⟨breakOff frames (.object members.reverse (some .endInObject)), false⟩
  | .nothing root => ⟨root, false⟩

/-- Reads tokens from a state on. -/
def readFrom (expected : Expected) (frames : List Frame) : List Token → Document
  | [] => stepEnd expected frames
  | token :: rest =>
    match step expected frames token with
    | .expect next frames => readFrom next frames rest
    | .stop document => document

/-- The document of a text. -/
def Document.read (text : String) : Document :=
  readFrom .value [] (tokens text.toList)

mutual

/-- The first fault inside a value, in document order. -/
def Node.fault? : Node → Option Fault
  | .list items fault => (itemsFault? items).or fault
  | .object members fault => (membersFault? members).or fault
  | .broken fault => some fault
  | _ => none

/-- The first fault inside the items of a list. -/
def itemsFault? : List Node → Option Fault
  | [] => none
  | item :: rest => item.fault?.or (itemsFault? rest)

/-- The first fault inside the members of an object. -/
def membersFault? : List (String × Node) → Option Fault
  | [] => none
  | (_, node) :: rest => node.fault?.or (membersFault? rest)

end

end Specloom.Json
