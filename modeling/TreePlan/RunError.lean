import TreePlan.Glob.Set
import TreePlan.IoError
import TreePlan.Path.Split

/-!
# Errors of a run

What ends an operation of the overlay or a whole run. Handlers fail with a text of their own, or
with the text of such an error. The error of a search for files is passed on as it is.
-/

namespace TreePlan

/-- Why a handler gives up. -/
inductive Failure where
  /-- For a reason that it states. -/
  | stated (text : String)
  /-- It was told to give a file an extension that holds a separator. -/
  | separatorInExtension (extension : String)
deriving DecidableEq, Repr

/-- The failure in words. -/
def Failure.message : Failure → String
  | .stated text => text
  | .separatorInExtension ext => "extension cannot contain path separators: " ++ ext

/-- Why a search for files fails. It asks no handler, so it does not fail with the error of one. -/
inductive SearchError where
  /-- A pattern does not compile. -/
  | invalidPattern (fault : PatternSet.Fault)
  /-- The file system refused. -/
  | io (path : Path) (cause : IoError)
  /-- For another reason, which the search states. -/
  | other (text : String)
deriving DecidableEq, Repr

/-- Why an operation or a run ends without a result. -/
inductive RunError where
  /-- A path staged for deletion was read. -/
  | fileDeleted (path : Path)
  /-- The file system refused. -/
  | io (path : Path) (cause : IoError)
  /-- A pattern does not compile. -/
  | invalidPattern (fault : PatternSet.Fault)
  /-- A path has no such part. -/
  | invalidPath (fault : Path.Fault)
  /-- A directory handler failed. -/
  | directoryHandler (path : Path) (failure : Failure)
  /-- The state for a pass could not be made. -/
  | initializeState (failure : Failure)
  /-- The decision after a pass failed. -/
  | finish (failure : Failure)
  /-- A search failed for a reason of its own. -/
  | other (text : String)
deriving DecidableEq, Repr

/-- The error of a search as that of an operation or a run. -/
def SearchError.toRunError : SearchError → RunError
  | .invalidPattern fault => .invalidPattern fault
  | .io path cause => .io path cause
  | .other text => .other text

/-- A search does not fail with the error of a directory handler. -/
theorem SearchError.toRunError_ne_directoryHandler (cause : SearchError) (path : Path)
    (failure : Failure) : cause.toRunError ≠ .directoryHandler path failure := by
  cases cause <;> exact nofun

/-- The error in words. -/
def RunError.message : RunError → String
  | .fileDeleted p => "This file has already been deleted: " ++ p.toText
  | .io p cause => "I/O error at " ++ p.toText ++ ": " ++ cause.message
  | .invalidPattern f => "Invalid glob pattern '" ++ f.pattern ++ "': " ++ f.fault.message
  | .invalidPath f => "Invalid path: " ++ f.message
  | .directoryHandler p f => "Directory handler failed for " ++ p.toText ++ ": " ++ f.message
  | .initializeState f => "State initialization failed: " ++ f.message
  | .finish f => "Finish handler failed: " ++ f.message
  | .other text => text

end TreePlan
