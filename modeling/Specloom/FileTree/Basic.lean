import Specloom.FileTree.Fault
import Specloom.Text.Split

/-!
# File trees

The files and directories below one directory, as a finite map from the names that lead to them.
There are no links. The directory itself is the root of the tree and its own parent.

## Main definitions

* `FileTree`, `Entry`: a tree and what is found at a place in it
* `FileTree.find?`: the view of a tree: what is at a place
* `FileTree.walk`: the place that a path leads to
* `FileTree.read`, `FileTree.readText`: the content of a file
* `FileTree.put`, `FileTree.unlink`, `FileTree.remove`: changes

## Main results

* `FileTree.find?_put`, `FileTree.find?_unlink`: a change at one place is seen there and nowhere
  else
-/

namespace Specloom

open Text

/-- What is found at a place. -/
inductive Entry where
  | file (content : ByteArray)
  | directory

/-- The names that lead from the root to a place. -/
abbrev Place := List String

/-- The files and directories below the root. -/
structure FileTree where
  entries : List (Place × Entry)

namespace FileTree

/-- The tree without files. -/
def empty : FileTree :=
  ⟨[]⟩

/-- What is at a place. -/
def find? (t : FileTree) (place : Place) : Option Entry :=
  if place = [] then some .directory else t.entries.lookup place

/-- Whether there is a directory at a place. -/
def isDirectory (t : FileTree) (place : Place) : Bool :=
  match t.find? place with
  | some .directory => true
  | _ => false

/-- Puts an entry at a place. -/
def put (t : FileTree) (place : Place) (entry : Entry) : FileTree :=
  ⟨(place, entry) :: t.entries.filter (·.1 ≠ place)⟩

/-- Removes what is at a place, which is a file. -/
def unlink (t : FileTree) (place : Place) : FileTree :=
  ⟨t.entries.filter (·.1 ≠ place)⟩

/-- Removes what is at a place and below. -/
def erase (t : FileTree) (place : Place) : FileTree :=
  ⟨t.entries.filter fun e => !place.isPrefixOf e.1⟩

theorem lookup_filter_ne (entries : List (Place × Entry)) {place other : Place}
    (h : other ≠ place) :
    (entries.filter (·.1 ≠ place)).lookup other = entries.lookup other := by
  induction entries with
  | nil => rfl
  | cons e rest ih =>
    obtain ⟨p, entry⟩ := e
    by_cases hp : p = place
    · have hb : (other == place) = false := by simpa using h
      simp [hp, List.lookup_cons, hb, ← ih]
    · simp_all [List.lookup_cons]

/-- A change at one place is seen there and nowhere else. -/
theorem find?_put (t : FileTree) (place other : Place) (entry : Entry) (h : place ≠ []) :
    (t.put place entry).find? other = if other = place then some entry else t.find? other := by
  unfold find? put
  by_cases ho : other = place
  · subst ho
    simp [h]
  · have hb : (other == place) = false := by simpa using ho
    simp only [ho, if_false, List.lookup_cons, hb, lookup_filter_ne t.entries ho]

/-- A file that is removed is gone, and nothing else is. -/
theorem find?_unlink (t : FileTree) (place other : Place) (h : place ≠ []) :
    (t.unlink place).find? other = if other = place then none else t.find? other := by
  unfold find? unlink
  by_cases ho : other = place
  · subst ho
    rw [if_neg h, if_pos rfl, List.lookup_eq_none_iff]
    intro e he
    have hne : e.1 ≠ other := by simpa using (List.mem_filter.mp he).2
    simpa using hne.symm
  · simp only [ho, if_false, lookup_filter_ne t.entries ho]

/-- The names in a path; empty names stay, since they ask for a directory before them. -/
def names (path : String) : List String :=
  (splitOn '/' path.toList).map String.ofList

/-- Follows names from a place on. Each but the last must lead to a directory. -/
def walkFrom (t : FileTree) (place : Place) : List String → Except FileFault Place
  | [] => .ok place
  | name :: rest =>
    if !t.isDirectory place then .error .notDirectory
    else if name = "" ∨ name = "." then t.walkFrom place rest
    else if name = ".." then t.walkFrom place.dropLast rest
    else if (t.find? (place ++ [name])).isSome then t.walkFrom (place ++ [name]) rest
    else .error .notFound

/-- The place that a path leads to, which must exist. -/
def walk (t : FileTree) (path : String) : Except FileFault Place :=
  if path = "" then .error .notFound else t.walkFrom [] (names path)

/-- The content of the file that a path leads to. -/
def read (t : FileTree) (path : String) : Except FileFault ByteArray := do
  match t.find? (← t.walk path) with
  | some (.file content) => return content
  | some .directory => throw .isDirectory
  | none => throw .notFound

/-- The text of the file that a path leads to. -/
def readText (t : FileTree) (path : String) : Except FileFault String := do
  match String.fromUTF8? (← t.read path) with
  | some text => return text
  | none => throw .notUtf8

/-- Removes the file or directory that a path leads to, with all below. -/
def remove (t : FileTree) (path : String) : Except FileFault FileTree := do
  return t.erase (← t.walk path)

/-- How a place is listed: its names with slashes between them, and one behind a directory. -/
def listed : Place × Entry → String
  | (place, .file _) => "/".intercalate place
  | (place, .directory) => "/".intercalate place ++ "/"

/-- All files and directories, in the order of their code points. -/
def listing (t : FileTree) : List String :=
  (t.entries.map listed).mergeSort fun a b => decide (a ≤ b)

end FileTree

end Specloom
