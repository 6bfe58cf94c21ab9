/-!
# Files as a reading sees them

A reading takes whole files and nothing else, so a file system is to it a function from paths to what
is there.

* `FileError`, `FileError.message`: why a file cannot be read;
* `FileStatus`, `Files`;
* `joinPath`: a path below a directory.
-/

namespace VpnGateway

/-- Why a file cannot be read. -/
inductive FileError
  | notFound
  | permissionDenied
  | notADirectory
  | isADirectory
  | nameTooLong
  | tooManyLinks
  | nulInName
  deriving DecidableEq, Repr

/-- The wording of an error. -/
def FileError.message : FileError → String
  | notFound => "No such file or directory (os error 2)"
  | permissionDenied => "Permission denied (os error 13)"
  | notADirectory => "Not a directory (os error 20)"
  | isADirectory => "Is a directory (os error 21)"
  | nameTooLong => "File name too long (os error 36)"
  | tooManyLinks => "Too many levels of symbolic links (os error 40)"
  | nulInName => "file name contained an unexpected NUL byte"

/-- What is found at a path. -/
inductive FileStatus
  /-- No regular file. -/
  | absent
  /-- A regular file with its bytes. -/
  | content (bytes : List UInt8)
  /-- A regular file that cannot be read. -/
  | unreadable (error : FileError)
  deriving DecidableEq, Repr

/-- A file system: what is found at each path. -/
abbrev Files : Type := String → FileStatus

/-- The path `name` below the directory `dir`. An absolute `name` is below nothing, and the empty
directory adds nothing. -/
def joinPath (dir name : String) : String :=
  if name.toList.head? = some '/' ∨ dir = "" then name
  else if dir.toList.getLast? = some '/' then dir ++ name
  else dir ++ "/" ++ name

end VpnGateway
