/-!
# Errors of a single call

Why one call to the outside (remote store, token provider, file system, limiter) failed, what is
said about it, and what that means for a further attempt.
-/

namespace FolderCopy

/-- Why a call failed. -/
inductive CallError where
  | unavailable (message : String)
  | failed (message : String)
  | notFound (resource : String)
  | httpStatus (status : Nat) (message : String)
  | invalidResponse (message : String)
  | io (message : String)
  deriving DecidableEq, Repr

namespace CallError

/-- What is said about an error. -/
def message : CallError → String
  | .unavailable m => "Bridge capability not available: " ++ m
  | .failed m => "Bridge operation failed: " ++ m
  | .notFound r => "Resource not found: " ++ r
  | .httpStatus status m => s!"HTTP status {status}: {m}"
  | .invalidResponse m => "Invalid response: " ++ m
  | .io m => "IO error: " ++ m

/-- What an error means for a further attempt. -/
inductive Outlook where
  /-- The thing asked for does not exist. -/
  | absent
  /-- Asking again cannot help. -/
  | hopeless
  /-- Asking again may help. -/
  | passing
  deriving DecidableEq, Repr

/-- The outlook of an error: a missing resource is reported as such or by status 404; a missing
capability and an unreadable answer stay what they are; all else may pass. -/
def outlook : CallError → Outlook
  | .notFound _ => .absent
  | .httpStatus status _ => if status = 404 then .absent else .passing
  | .unavailable _ | .invalidResponse _ => .hopeless
  | .failed _ | .io _ => .passing

/-- Whether the thing asked for does not exist. -/
def isNotFound (e : CallError) : Bool :=
  e.outlook == .absent

/-- Whether a further attempt may help. -/
def isRetryable (e : CallError) : Bool :=
  e.outlook == .passing

/-- No error is both of a missing resource and worth a further attempt. -/
theorem not_isRetryable_of_isNotFound {e : CallError} (h : e.isNotFound = true) :
    e.isRetryable = false := by
  simp only [isNotFound, isRetryable, beq_iff_eq] at *
  simp [h]

end CallError

end FolderCopy
