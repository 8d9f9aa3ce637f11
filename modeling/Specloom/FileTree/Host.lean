import Specloom.FileTree.Basic

/-!
# Hosts

A host carries out what is asked of it, or refuses. Most refusals follow from the tree, such as a
directory in the way; others do not show in it, such as a lack of permissions or of space, and are
the host's own. What it has let be created it lets be removed. A host also chooses the names of
temporary files, which are free where it chooses them.

## Main definitions

* `Request`: what a host can refuse
* `Host`: what decides besides the tree
* `Host.plain`: the host that refuses nothing
-/

namespace Specloom

/-- What is asked of a host, with the places that would change. -/
inductive Request where
  | makeDirectory (place : Place)
  | create (place : Place)
  /-- Fills a file, to the last octet. -/
  | write (place : Place)
  | rename (source target : Place)
deriving DecidableEq, Repr

/-- What decides besides the tree. -/
structure Host where
  /-- The message of a refusal for reasons that do not show in the tree. -/
  refusal? : FileTree → Request → Option String
  /-- The name of a temporary file in a directory. -/
  tempName : FileTree → Place → String
  tempName_free : ∀ (t : FileTree) (directory : Place),
    t.find? (directory ++ [tempName t directory]) = none

namespace FileTree

/-- The lengths of the last names of entries, together. -/
def nameLengths : List (Place × Entry) → Nat
  | [] => 0
  | (place, _) :: rest => (place.getLastD "").length + nameLengths rest

theorem length_le_nameLengths {entries : List (Place × Entry)} {directory : Place} {name : String}
    {entry : Entry} (h : (directory ++ [name], entry) ∈ entries) :
    name.length ≤ nameLengths entries := by
  induction entries with
  | nil => cases h
  | cons e rest ih =>
    obtain ⟨place, _⟩ := e
    rw [nameLengths]
    rcases List.mem_cons.mp h with heq | h
    · cases heq
      simp
    · exact Nat.le_add_left_of_le (ih h)

/-- A name that is longer than those of all entries. -/
def longName (t : FileTree) : String :=
  ".tmp" ++ String.ofList (List.replicate (nameLengths t.entries) 'x')

theorem find?_longName (t : FileTree) (directory : Place) :
    t.find? (directory ++ [t.longName]) = none := by
  rw [find?, if_neg (by simp), List.lookup_eq_none_iff]
  rintro ⟨place, entry⟩ hentry
  rw [bne_iff_ne]
  rintro rfl
  have hlength : t.longName.length = 4 + nameLengths t.entries := by
    simp only [longName, String.length_append, String.length_ofList, List.length_replicate]
    rfl
  have hle := length_le_nameLengths hentry
  omega

end FileTree

/-- The host that refuses nothing. -/
def Host.plain : Host where
  refusal? := fun _ _ => none
  tempName := fun t _ => t.longName
  tempName_free := FileTree.find?_longName

end Specloom
