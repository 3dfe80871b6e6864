import FolderCopy.CopyError
import FolderCopy.Progress
import FolderCopy.Text.Quoted

/-!
# Status records

What the observer of a transfer is handed: progress records, then one terminal record.
-/

namespace FolderCopy

/-- What became of the remote folder after every file was copied. -/
inductive Cleanup where
  | notRequested
  | deleted
  | failed (why : StatusMessage)
  deriving Repr

mutual

/-- A JSON value as shown to a developer. -/
def Json.describe : Json → String
  | .null => "Null"
  | .bool b => "Bool(" ++ toString b ++ ")"
  | .int n => "Number(" ++ toString n ++ ")"
  | .decimal n => "Number(" ++ String.ofList n.chars ++ ")"
  | .text s => "String(" ++ Text.quoted s ++ ")"
  | .array items => "Array [" ++ String.intercalate ", " (describeItems items) ++ "]"
  | .object ms => "Object \x7b" ++ String.intercalate ", " (describeMembers ms) ++ "\x7d"

/-- The items of an array as shown to a developer. -/
def Json.describeItems : List Json → List String
  | [] => []
  | v :: vs => v.describe :: describeItems vs

/-- The members of an object as shown to a developer. -/
def Json.describeMembers : List (String × Json) → List String
  | [] => []
  | (k, v) :: ms => (Text.quoted k ++ ": " ++ v.describe) :: describeMembers ms

end

/-- A message as shown to a developer. -/
def StatusMessage.describe (m : StatusMessage) : String :=
  "StatusMessage \x7b default_message: " ++ Text.quoted m.text ++
    ", message_key: " ++ Text.quoted m.key ++
    ", message_args: \x7b" ++ String.intercalate ", " (Json.describeMembers m.args) ++ "\x7d \x7d"

/-- What became of the remote folder, as shown to a developer. -/
def Cleanup.describe : Cleanup → String
  | .notRequested => "NotRequested"
  | .deleted => "Deleted"
  | .failed why => "Failed(" ++ why.describe ++ ")"

/-- A status record. -/
inductive Status where
  | progress (u : Progress.Update)
  | completed (cleanup : Cleanup)
  | failed (e : CopyError)
  deriving Repr

namespace Status

/-- The record for counters. -/
def ofSnapshot (s : Progress.Snapshot) : Status :=
  .progress (.ofSnapshot s)

/-- Whether a record is the last one of its transfer. -/
def isTerminal : Status → Bool
  | .progress _ => false
  | _ => true

/-- The counters of a progress record. -/
def snapshot? : Status → Option Progress.Snapshot
  | .progress u => some u.progress
  | _ => none

/-- The message shown for a record. -/
def message : Status → StatusMessage
  | .progress u => u.message
  | .completed _ => .make "Download completed" "tasks.drive.download.completed" []
  | .failed e => e.statusMessage

end Status

end FolderCopy
