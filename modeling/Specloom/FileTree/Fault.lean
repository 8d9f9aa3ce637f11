/-!
# Faults of files

Why a file cannot be read or written.

## Main definitions

* `FileFault`: a fault
* `FileFault.message`: its message
-/

namespace Specloom

/-- Why a file cannot be read or written. -/
inductive FileFault where
  | notFound | busy | exists | notDirectory | isDirectory | notUtf8
  /-- A failure of whoever provides the content. -/
  | content (message : String)
  /-- A refusal of the host for reasons that do not show in a tree. -/
  | refused (message : String)
deriving DecidableEq, Repr

/-- The message for a fault, with the number of the system's error where there is one. -/
def FileFault.message : FileFault → String
  | .notFound => "No such file or directory (os error 2)"
  | .busy => "Device or resource busy (os error 16)"
  | .exists => "File exists (os error 17)"
  | .notDirectory => "Not a directory (os error 20)"
  | .isDirectory => "Is a directory (os error 21)"
  | .notUtf8 => "stream did not contain valid UTF-8"
  | .content message | .refused message => message

end Specloom
