import FolderCopy.CallError

/-!
# Faults of the drive's service

Why the drive's service did not give what it was asked for, and the call error that each fault is
reported as.
-/

namespace FolderCopy.Drive

/-- A fault of the drive's service. -/
inductive Fault where
  | rejected (status : Nat) (body : String)
  | missing (id : String)
  | unreadable (message : String)
  | call (e : CallError)
  deriving DecidableEq, Repr

namespace Fault

/-- The fault that a status other than success means: 404 is a missing resource. -/
def ofStatus (status : Nat) (resource body : String) : Fault :=
  if status = 404 then .missing resource else .rejected status body

/-- What is said about a fault. -/
def message : Fault → String
  | .rejected status body => s!"Google Drive API error (status {status}): {body}"
  | .missing id => "File not found: " ++ id
  | .unreadable m => "Failed to parse API response: " ++ m
  | .call e => e.message

/-- The call error that a fault is reported as. -/
def toCallError : Fault → CallError
  | .rejected status body => .httpStatus status body
  | .missing id => .notFound id
  | .unreadable m => .invalidResponse m
  | .call e => e

end Fault

end FolderCopy.Drive
