import Specloom.FileTree.Host

/-!
# Making directories

The directories on a path are made as needed, one after the other from the first that is missing.
A refusal leaves those that were made before it.

## Main definitions

* `FileTree.ensureDirectory`: the directory that a path names
* `FileTree.makeDirs`: the same on a host that refuses nothing, all or none
-/

namespace Specloom.FileTree

/-- Follows names from a place on and makes the directories that are missing; `made` tells whether
one was made already. A file in the way ends it: the whole path leads through that file, unless the
names are asked for one by one, which they are at the end and behind a directory that was made. -/
def ensureDirectoryFrom (t : FileTree) (host : Host) (made : Bool) (place : Place) :
    List String → FileTree × Except FileFault Place
  | [] => (t, .ok place)
  | name :: rest =>
    if name = "" ∨ name = "." then t.ensureDirectoryFrom host made place rest
    else if name = ".." then t.ensureDirectoryFrom host made place.dropLast rest
    else
      match t.find? (place ++ [name]) with
      | some .directory => t.ensureDirectoryFrom host made (place ++ [name]) rest
      | some (.file _) => (t, .error (if made ∨ rest = [] then .exists else .notDirectory))
      | none =>
        match host.refusal? t (.makeDirectory (place ++ [name])) with
        | some message => (t, .error (.refused message))
        | none =>
          (t.put (place ++ [name]) .directory).ensureDirectoryFrom host true (place ++ [name]) rest

/-- Makes the directory that a path names and those above it. Returns the tree afterwards and the
place of the directory. -/
def ensureDirectory (t : FileTree) (host : Host) (path : String) :
    FileTree × Except FileFault Place :=
  t.ensureDirectoryFrom host false [] (names path)

/-- Makes the directory that a path names and those above it, if nothing is in the way: the tree
with them and the place of the directory. -/
def makeDirs (t : FileTree) (path : String) : Except FileFault (FileTree × Place) :=
  match t.ensureDirectory .plain path with
  | (t, .ok place) => .ok (t, place)
  | (_, .error fault) => .error fault

example :
    (ensureDirectory ⟨[(["f"], .file .empty)]⟩ .plain "new/../f/d").1.isDirectory ["new"] := by
  decide +kernel

end Specloom.FileTree
