import FolderCopy.Json.Reading

/-!
# Status messages

A message for a user interface: a default text, the key under which its wording in other languages
is found, and the arguments of that wording.
-/

namespace FolderCopy

/-- A message with a key under which it can be localised. -/
structure StatusMessage where
  text : String
  key : String
  /-- The arguments, keys ascending. -/
  args : List (String × Json)
  deriving Repr

namespace StatusMessage

/-- The arguments of a message made here, from any order. -/
def make (text key : String) (args : List (String × Json)) : StatusMessage :=
  { text, key, args := Json.ofPairs args }

/-- The record as JSON. -/
def toJson (m : StatusMessage) : Json :=
  .object [("defaultMessage", .text m.text), ("messageKey", .text m.key),
    ("messageArgs", .object m.args)]

/-- The names of the fields, in their order. -/
def fields : List String :=
  ["defaultMessage", "messageKey", "messageArgs"]

/-- The arguments of a message: an object of any values in which at most `depth` containers are
nested. -/
def args? (depth : Nat) : Json.Tree → Option (List (String × Json))
  | .object ms => (Json.Tree.memberValues? depth ms).map Json.ofPairs
  | _ => none

/-- Reads a message that stands inside `around` containers. -/
def ofTree? (around : Nat) (t : Json.Tree) : Option StatusMessage := do
  match ← t.slots? fields with
  | [text, key, args] =>
    let text ← text.required Json.Tree.text?
    let key ← key.required Json.Tree.text?
    let args ← args.required (args? (Json.maxNesting - around - 2))
    return { text, key, args }
  | _ => none

end StatusMessage

end FolderCopy
