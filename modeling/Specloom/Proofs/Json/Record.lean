import Specloom.Json.Decode
import Specloom.Proofs.Checked

/-!
# What records are made of

A record is decoded from an object or from a list. In both forms each field gets a value that its
own decoder makes of some part of the document, or its value for a missing field.

## Main definitions

* `Fields.Admits`: the values are ones that their fields can have
* `Fields.Holds`: the slots that are filled hold decoded values

## Main results

* `Record.exists_admits_of_decode`: a decoded record is made of such values
-/

namespace Specloom.Json

/-- A value that a field can have: a decoded one, or its value when it is missing. -/
def Field.Admits {α : Type} (field : Field α) (value : α) : Prop :=
  (∃ node, field.decode node = .ok value) ∨ field.absent = some value

namespace Fields

/-- The values are ones that their fields can have. -/
def Admits : {ts : List Type} → Fields ts → Values ts → Prop
  | [], .nil, _ => True
  | _ :: _, .cons field rest, (value, values) => field.Admits value ∧ rest.Admits values

/-- The slots that are filled hold decoded values. -/
def Holds : {ts : List Type} → Fields ts → Slots ts → Prop
  | [], .nil, _ => True
  | _ :: _, .cons field rest, (slot, slots) =>
    (∀ value ∈ slot, ∃ node, field.decode node = .ok value) ∧ rest.Holds slots

variable {ts : List Type} {fields : Fields ts}

theorem holds_empty (fields : Fields ts) : fields.Holds (Slots.empty ts) := by
  induction fields with
  | nil => trivial
  | cons field rest ih => exact ⟨nofun, ih⟩

/-- A member belongs to the first field or to the others. -/
theorem put_cons {α : Type} (known : List String) (field : Field α) (rest : Fields ts)
    (slot : Option α) (slots : Slots ts) (key : String) (node : Node) :
    (cons field rest).put known (slot, slots) key node =
      if key = field.name then
        match slot with
        | some _ => .error (.duplicateField key)
        | none => (field.decode node).map fun value => (some value, slots)
      else (rest.put known slots key node).map fun slots => (slot, slots) :=
  rfl

/-- A member fills the slot of its field with what the field decodes. -/
theorem Holds.put {slots slots' : Slots ts} (hslots : fields.Holds slots) {known : List String}
    {key : String} {node : Node} (h : fields.put known slots key node = .ok slots') :
    fields.Holds slots' := by
  induction fields with
  | nil => cases h
  | cons field rest ih =>
    obtain ⟨slot, slots⟩ := slots
    obtain ⟨hslot, hrest⟩ := hslots
    rw [put_cons] at h
    split at h
    · cases slot with
      | some value => cases h
      | none =>
        obtain ⟨value, hvalue, rfl⟩ := map_eq_ok.mp h
        refine ⟨?_, hrest⟩
        rintro _ ⟨⟩
        exact ⟨node, hvalue⟩
    · obtain ⟨slots', hput, rfl⟩ := map_eq_ok.mp h
      exact ⟨hslot, ih hrest hput⟩

/-- At the end of an object, an empty slot gets the value for a missing field. -/
theorem Holds.finish {slots : Slots ts} (hslots : fields.Holds slots) {values : Values ts}
    (h : fields.finish slots = .ok values) : fields.Admits values := by
  induction fields with
  | nil => trivial
  | cons field rest ih =>
    obtain ⟨slot, slots⟩ := slots
    obtain ⟨hslot, hrest⟩ := hslots
    rw [Fields.finish] at h
    split at h
    · rename_i value hvalue
      obtain ⟨values, hfinish, rfl⟩ := map_eq_ok.mp h
      refine ⟨?_, ih hrest hfinish⟩
      rcases Option.or_eq_some_iff.mp hvalue with hvalue | ⟨-, habsent⟩
      · exact .inl (hslot value hvalue)
      · exact .inr habsent
    · cases h

/-- The items of a list are decoded by the fields in their order. -/
theorem admits_of_takeItems {expected : String} {fault : Option Fault} {index : Nat}
    {items left : List Node} {values : Values ts}
    (h : fields.takeItems expected fault index items = .ok (values, left)) :
    fields.Admits values := by
  induction fields generalizing index items with
  | nil => trivial
  | cons field rest ih =>
    cases items with
    | cons item items =>
      simp only [takeItems, bind_eq_ok, pure_eq_ok] at h
      obtain ⟨value, hvalue, ⟨values, left⟩, htake, ⟨⟩⟩ := h
      exact ⟨.inl ⟨item, hvalue⟩, ih htake⟩
    | nil =>
      rw [takeItems] at h
      obtain ⟨-, h⟩ := check_bind_eq_ok.mp h
      split at h
      · cases h
      · rename_i value habsent
        simp only [bind_eq_ok, pure_eq_ok] at h
        obtain ⟨⟨values, left⟩, htake, ⟨⟩⟩ := h
        exact ⟨.inr habsent, ih htake⟩

end Fields

namespace Record

variable {α : Type} {record : Record α}

/-- Induction on the members of an object. -/
theorem holds_of_putAll {slots slots' : Slots record.types} (hslots : record.fields.Holds slots)
    {members : List (String × Node)} (h : record.putAll slots members = .ok slots') :
    record.fields.Holds slots' := by
  induction members generalizing slots with
  | nil =>
    cases h
    exact hslots
  | cons member members ih =>
    rw [putAll] at h
    obtain ⟨next, hput, hrest⟩ := bind_eq_ok.mp h
    exact ih (hslots.put hput) hrest

/-- **A decoded record is made of values that its fields can have.** -/
theorem exists_admits_of_decode {node : Node} {a : α} (h : record.decode node = .ok a) :
    ∃ values, record.fields.Admits values ∧ record.make values = a := by
  unfold decode at h
  split at h
  · simp only [bind_eq_ok, pure_eq_ok] at h
    obtain ⟨slots, hslots, -, -, values, hvalues, rfl⟩ := h
    have hholds := holds_of_putAll record.fields.holds_empty hslots
    exact ⟨values, hholds.finish hvalues, rfl⟩
  · simp only [bind_eq_ok, pure_eq_ok] at h
    obtain ⟨⟨values, left⟩, hvalues, -, -, rfl⟩ := h
    exact ⟨values, Fields.admits_of_takeItems hvalues, rfl⟩
  · unfold wrongType at h
    split at h <;> cases h

end Record

namespace Decoder

variable {α : Type} {decode : Decoder α}

/-- Each value of a decoded list is decoded. -/
theorem exists_of_mem_list {node : Node} {values : List α} (h : list decode node = .ok values)
    {value : α} (hvalue : value ∈ values) : ∃ item, decode item = .ok value := by
  unfold list at h
  split at h
  · simp only [bind_eq_ok, pure_eq_ok] at h
    obtain ⟨decoded, hdecoded, -, -, rfl⟩ := h
    obtain ⟨item, -, hitem⟩ := exists_mem_of_mapM hdecoded hvalue
    exact ⟨item, hitem⟩
  · unfold wrongType at h
    split at h <;> cases h

/-- A value that may be missing is decoded where it is there. -/
theorem of_option {node : Node} {value : α} (h : option decode node = .ok (some value)) :
    decode node = .ok value := by
  unfold option at h
  split at h
  · cases h
  · obtain ⟨decoded, hdecoded, ⟨⟩⟩ := map_eq_ok.mp h
    exact hdecoded

end Decoder

/-- What a text is decoded to is decoded from a tree. -/
theorem exists_of_decodeText {α : Type} {decode : Decoder α} {text : String} {a : α}
    (h : decodeText decode text = .ok a) : ∃ node, decode node = .ok a := by
  unfold decodeText at h
  obtain ⟨value, hvalue, h⟩ := bind_eq_ok.mp h
  split at h
  · cases h
  · cases pure_eq_ok.mp h
    exact ⟨_, hvalue⟩

end Specloom.Json
