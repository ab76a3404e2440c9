import TreePlan.Path.Basic

/-!
# File-system failures

Why a file system refuses a request: the causes that a tree in memory knows, those of the system
that a tree on the host meets, and any other that a file system states.
-/

namespace TreePlan

/-- The system's error codes that the operations of a tree on the host meet. A file system that
meets another one states it (`IoError.other`). -/
inductive Errno where
  /-- A component does not exist. -/
  | noEntry
  /-- The path exists. -/
  | exists
  /-- A component that should be a directory is not. -/
  | notDirectory
  /-- The path is a directory. -/
  | isDirectory
  /-- Too many symbolic links. -/
  | loop
  /-- A name or the whole path is too long. -/
  | nameTooLong
deriving DecidableEq, Repr

/-- The code's number. -/
def Errno.number : Errno → Nat
  | .noEntry => 2
  | .exists => 17
  | .notDirectory => 20
  | .isDirectory => 21
  | .loop => 40
  | .nameTooLong => 36

/-- The code in words. -/
def Errno.text : Errno → String
  | .noEntry => "No such file or directory"
  | .exists => "File exists"
  | .notDirectory => "Not a directory"
  | .isDirectory => "Is a directory"
  | .loop => "Too many levels of symbolic links"
  | .nameTooLong => "File name too long"

/-- The kinds of failure that callers tell apart. -/
inductive IoError.Kind where
  /-- Nothing is there. -/
  | notFound
  /-- Something is there already. -/
  | alreadyExists
  /-- The request makes no sense. -/
  | invalidInput
  /-- A directory was needed. -/
  | notADirectory
  /-- A directory was not wanted. -/
  | isADirectory
  /-- Links go round in circles. -/
  | filesystemLoop
  /-- A name that cannot be. -/
  | invalidFilename
  /-- Content that cannot be read. -/
  | invalidData
  /-- None of these. -/
  | other
deriving DecidableEq, Repr

/-- Why a file system refuses a request. -/
inductive IoError where
  /-- The tree has no such path. -/
  | absent (path : Path)
  /-- A directory cannot be made because a file stands in the way. -/
  | fileInTheWay (path : Path)
  /-- A file cannot be listed. -/
  | listedFile (path : Path)
  /-- A directory cannot be overwritten by a file. -/
  | wroteDirectory (path : Path)
  /-- A directory cannot be read as a file. -/
  | readDirectory (path : Path)
  /-- The system says so. -/
  | system (code : Errno)
  /-- A path with a zero byte. -/
  | zeroByte
  /-- The content is not UTF-8. -/
  | notText
  /-- Anything else that a file system refuses a request for: the kind of the failure, and the
  failure in words. -/
  | other (kind : IoError.Kind) (text : String)
deriving DecidableEq, Repr

namespace IoError

/-- The kind of a failure. -/
def kind : IoError → Kind
  | absent _ => .notFound
  | fileInTheWay _ => .alreadyExists
  | listedFile _ => .invalidInput
  | wroteDirectory _ => .invalidInput
  | readDirectory _ => .invalidInput
  | system .noEntry => .notFound
  | system .exists => .alreadyExists
  | system .notDirectory => .notADirectory
  | system .isDirectory => .isADirectory
  | system .loop => .filesystemLoop
  | system .nameTooLong => .invalidFilename
  | zeroByte => .invalidInput
  | notText => .invalidData
  | other kind _ => kind

/-- The failure in words. -/
def message : IoError → String
  | absent p => "ENOENT: no such file or directory, " ++ p.toText
  | fileInTheWay p => "ENOTDIR: not a directory, " ++ p.toText
  | listedFile p => "ENOTDIR: not a directory, " ++ p.toText
  | wroteDirectory p => "EISDIR: illegal operation on a directory, " ++ p.toText
  | readDirectory p => "EISDIR: illegal operation on a directory, read " ++ p.toText
  | system code => code.text ++ " (os error " ++ toString code.number ++ ")"
  | zeroByte => "file name contained an unexpected NUL byte"
  | notText => "stream did not contain valid UTF-8"
  | other _ text => text

end IoError

end TreePlan
