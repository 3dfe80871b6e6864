import FolderCopy.CallError
import FolderCopy.StatusMessage

/-!
# Errors of an operation

Why an operation on a remote folder ended without success, after any attempts that the retry policy
allowed, and the message shown for it.
-/

namespace FolderCopy

/-- Why an operation ended without success. -/
inductive CopyError where
  /-- A resource does not exist; `path` says what was asked for. -/
  | notFound (path reason : String)
  /-- The last of several attempts failed in a way that might have passed. -/
  | transient (attempts : Nat) (message : String)
  | fatal (message : String)
  | cancelled
  deriving DecidableEq, Repr

/-- The kind of an error, without its details. -/
inductive ErrorKind where
  | notFound
  | transient
  | fatal
  | cancelled
  deriving DecidableEq, Repr

namespace ErrorKind

/-- The name of a kind. -/
def name : ErrorKind → String
  | .notFound => "not_found"
  | .transient => "transient"
  | .fatal => "fatal"
  | .cancelled => "cancelled"

/-- All kinds. -/
def all : List ErrorKind :=
  [.notFound, .transient, .fatal, .cancelled]

/-- The kind of a name. -/
def ofName? (s : String) : Option ErrorKind :=
  all.find? (·.name == s)

/-- Reads a kind. -/
def ofTree? (t : Json.Tree) : Option ErrorKind :=
  t.name?.bind ofName?

/-- A kind as JSON. -/
def toJson (k : ErrorKind) : Json :=
  .text k.name

/-- Every kind is found by its name. -/
theorem ofName?_name (k : ErrorKind) : ofName? k.name = some k := by
  cases k <;> decide

end ErrorKind

namespace CopyError

/-- The kind of an error. -/
def kind : CopyError → ErrorKind
  | .notFound .. => .notFound
  | .transient .. => .transient
  | .fatal _ => .fatal
  | .cancelled => .cancelled

/-- What is said about an error. -/
def message : CopyError → String
  | .notFound path reason => s!"Path not found: '{path}': {reason}"
  | .transient attempts m => s!"Remote call failed after {attempts} attempt(s): {m}"
  | .fatal m => m
  | .cancelled => "Transfer cancelled"

/-- A fatal error with what was being done when it arose. -/
def fatalIn (context cause : String) : CopyError :=
  .fatal (context ++ ": " ++ cause)

/-- The error of something that could not be done to a local path. -/
def localFailure (action path cause : String) : CopyError :=
  fatalIn ("Failed to " ++ action ++ " " ++ path) cause

/-- Says of a missing resource which path was asked for. -/
def withPath (path : String) : CopyError → CopyError
  | .notFound _ reason => .notFound path reason
  | e => e

/-- The message shown for an error. -/
def statusMessage : CopyError → StatusMessage
  | .notFound path _ =>
    .make s!"Path not found: '{path}'" "tasks.drive.path_not_found" [("path", .text path)]
  | .transient attempts m =>
    .make s!"Google Drive did not respond after {attempts} attempt(s): {m}"
      "tasks.drive.transient_failure" [("attempts", .int attempts), ("message", .text m)]
  | .fatal m => .make ("Download failed: " ++ m) "tasks.drive.failed" [("message", .text m)]
  | .cancelled => .make "Download cancelled" "tasks.drive.cancelled" []

end CopyError

end FolderCopy
