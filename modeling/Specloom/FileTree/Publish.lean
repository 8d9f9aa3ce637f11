import Specloom.Error
import Specloom.FileTree.Directories
import Specloom.FileTree.Path

/-!
# Publishing files

A file is published as a whole: its content is written to a temporary file in the directory of the
target, which is then put in the place of the target. So a failure leaves the target as it was, and
the temporary file is removed. Directories are made as needed, and stay.

## Main definitions

* `FileTree.publishOn`: publishes a file whose content is at hand, or fails to be
* `FileTree.publish`: the same on a host that refuses nothing
* `FileTree.createTemp`, `FileTree.commit`: its steps
* `FileTree.placeFor`, `FileTree.rename`: the place that a path has for a file, and putting one
  there
-/

namespace Specloom.FileTree

/-- The place that a path has for a file: its last name, in the directory that the names before it
lead to. -/
def placeFor (t : FileTree) (path : String) : Except FileFault Place :=
  if path = "" then .error .notFound
  else
    match (names path).reverse.dropWhile (· = "") with
    | [] => .error .busy
    | name :: before =>
      match t.walkFrom [] before.reverse with
      | .error fault => .error fault
      | .ok directory =>
        if !t.isDirectory directory then .error .notDirectory
        else if name = "." ∨ name = ".." then .error .busy
        -- slashes at the end are set aside so far, but they ask for a directory
        else if (names path).reverse ≠ name :: before then .error .notDirectory
        else .ok (directory ++ [name])

/-- Puts the file at a place in the place of a path, which may hold a file but no directory. -/
def rename (t : FileTree) (host : Host) (source : Place) (path : String) :
    Except FileFault FileTree :=
  match t.placeFor path with
  | .error fault => .error fault
  | .ok target =>
    match t.find? source, t.find? target, host.refusal? t (.rename source target) with
    | none, _, _ => .error .notFound
    | _, some .directory, _ => .error .isDirectory
    | _, _, some message => .error (.refused message)
    | some entry, _, none => .ok ((t.unlink source).put target entry)

/-- Creates an empty file in a directory, under a name that is free. -/
def createTemp (t : FileTree) (host : Host) (directory : Place) :
    Except FileFault (FileTree × Place) :=
  let temp := directory ++ [host.tempName t directory]
  match host.refusal? t (.create temp) with
  | some message => .error (.refused message)
  | none => .ok (t.put temp (.file .empty), temp)

/-- Fills a temporary file and puts it in the place of a path. The content is at hand, or its writer
fails with a message. A failure leaves the temporary file. -/
def commit (t : FileTree) (host : Host) (temp : Place) (path : String)
    (content : Except String ByteArray) : FileTree × Except FileFault Unit :=
  match content, host.refusal? t (.write temp) with
  | .error message, _ => (t, .error (.content message))
  | .ok _, some message => (t, .error (.refused message))
  | .ok content, none =>
    let filled := t.put temp (.file content)
    match filled.rename host temp path with
    | .ok t => (t, .ok ())
    | .error fault => (filled, .error fault)

/-- Publishes a file at a path. Returns the tree afterwards and the error, if any. -/
@[irreducible] def publishOn (t : FileTree) (host : Host) (path : String)
    (content : Except String ByteArray) : FileTree × Except Error Unit :=
  let directory := targetDirectory path
  match t.ensureDirectory host directory with
  | (t, .error fault) => (t, .error (.notWritten directory fault))
  | (t, .ok place) =>
    match t.createTemp host place with
    | .error fault => (t, .error (.notWritten directory fault))
    | .ok (t, temp) =>
      match t.commit host temp path content with
      | (t, .ok ()) => (t, .ok ())
      | (t, .error fault) => (t.unlink temp, .error (.notWritten path fault))

/-- Publishes a file on a host that refuses nothing. -/
def publish (t : FileTree) (path : String) (content : Except String ByteArray) :
    FileTree × Except Error Unit :=
  t.publishOn .plain path content

end Specloom.FileTree
