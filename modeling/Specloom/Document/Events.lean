import Specloom.Document.Datatype

/-!
# The events document

An events document declares events with their fields and the changes made to them.

## Main definitions

* `EventsDoc` and the documents in it, each with its record
-/

namespace Specloom.Document

open Json

/-- A field of an event. -/
structure EventFieldDoc where
  key : String
  type : DatatypeDoc
  notes : String
deriving Repr

/-- An event. -/
structure EventDoc where
  event : String
  changelog : List String
  fields : List EventFieldDoc
deriving Repr

/-- An events document. -/
structure EventsDoc where
  events : List EventDoc
deriving Repr

/-- The fields of a field of an event. -/
def EventFieldDoc.record : Record EventFieldDoc where
  name := "EventFieldDoc"
  types := [String, DatatypeDoc, String]
  fields :=
    .cons (.required "key" .string) <|
    .cons (.required "type" DatatypeDoc.decode) <|
    .cons (.default "notes" .string "") .nil
  make := fun (key, type, notes, ()) => ⟨key, type, notes⟩

/-- The fields of an event. -/
def EventDoc.record : Record EventDoc where
  name := "EventDoc"
  types := [String, List String, List EventFieldDoc]
  fields :=
    .cons (.required "event" .string) <|
    .cons (.default "changelog" (.list .string) []) <|
    .cons (.default "fields" (.list EventFieldDoc.record.decode) []) .nil
  make := fun (event, changelog, fields, ()) => ⟨event, changelog, fields⟩

/-- The fields of an events document. -/
def EventsDoc.record : Record EventsDoc where
  name := "EventsDocument"
  types := [List EventDoc]
  fields := .cons (.default "events" (.list EventDoc.record.decode) []) .nil
  make := fun (events, ()) => ⟨events⟩

end Specloom.Document
