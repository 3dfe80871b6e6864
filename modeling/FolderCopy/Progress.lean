import FolderCopy.ByteSize
import FolderCopy.StatusMessage

/-!
# Progress of a transfer

The totals of a folder, the changes that downloads report, and the counters of what is left. The
counters start at the totals, take the changes one by one, and stop at zero and at the largest
count of 64 bits.
-/

namespace FolderCopy

/-- How many files a folder holds and how many bytes they have together. -/
structure Totals where
  files : Nat
  bytes : Nat
  deriving DecidableEq, Repr

namespace Totals

/-- The totals of nothing. -/
def zero : Totals :=
  ⟨0, 0⟩

/-- A count of 64 bits, which begins again at zero after the largest one. -/
def wrap (n : Nat) : Nat :=
  n % (maxCount + 1)

/-- A count of 64 bits is not above the largest one. -/
theorem wrap_le (n : Nat) : wrap n ≤ maxCount :=
  Nat.le_of_lt_succ (Nat.mod_lt n (Nat.succ_pos maxCount))

/-- The totals with one more file; a file of unknown size counts no bytes. -/
def record (t : Totals) (size : Option Nat) : Totals :=
  ⟨wrap (t.files + 1), wrap (t.bytes + size.getD 0)⟩

/-- The totals as JSON. -/
def toJson (t : Totals) : Json :=
  .object [("files", .int t.files), ("bytes", .int t.bytes)]

/-- Reads totals. -/
def ofTree? (t : Json.Tree) : Option Totals := do
  match ← t.slots? ["files", "bytes"] with
  | [files, bytes] =>
    let files ← files.required Json.Tree.count?
    let bytes ← bytes.required Json.Tree.count?
    return { files, bytes }
  | _ => none

end Totals

namespace Progress

/-- A change of the counters. -/
structure Delta where
  bytes : Int
  files : Int
  deriving DecidableEq, Repr

namespace Delta

/-- Some bytes have arrived: as many fewer are left, at most the largest signed integer. -/
def received (n : Nat) : Delta :=
  ⟨-(min (n : Int) Json.maxInt), 0⟩

/-- A file is complete: one fewer is left. -/
def completed : Delta :=
  ⟨0, -1⟩

/-- The change as JSON. -/
def toJson (d : Delta) : Json :=
  .object [("bytes", .int d.bytes), ("files", .int d.files)]

/-- Reads a change. -/
def ofTree? (t : Json.Tree) : Option Delta := do
  match ← t.slots? ["bytes", "files"] with
  | [bytes, files] =>
    let bytes ← bytes.required Json.Tree.signed?
    let files ← files.required Json.Tree.signed?
    return { bytes, files }
  | _ => none

end Delta

/-- A counter moved by a signed amount, kept between zero and the largest count. -/
def shift (count : Nat) (by_ : Int) : Nat :=
  min (count + by_).toNat maxCount

/-- A count goes down by as much as is taken from it, and stops at zero. -/
theorem shift_of_nonpos {count : Nat} {by_ : Int} (hc : count ≤ maxCount) (hb : by_ ≤ 0) :
    shift count by_ = count - (-by_).toNat := by
  unfold shift
  omega

/-- What is left to do. -/
structure Snapshot where
  bytes : Nat
  files : Nat
  deriving DecidableEq, Repr

namespace Snapshot

/-- All of a folder is left. -/
def ofTotals (t : Totals) : Snapshot :=
  ⟨t.bytes, t.files⟩

/-- Nothing is left. -/
def zero : Snapshot :=
  ⟨0, 0⟩

/-- Whether nothing is left. -/
def isSettled (s : Snapshot) : Bool :=
  s.bytes == 0 && s.files == 0

/-- Nothing is left where both counters are at zero. -/
theorem isSettled_iff {s : Snapshot} : s.isSettled ↔ s = .zero := by
  obtain ⟨bytes, files⟩ := s
  simp [isSettled, zero]

/-- The counters after a change. -/
def apply (s : Snapshot) (d : Delta) : Snapshot :=
  ⟨shift s.bytes d.bytes, shift s.files d.files⟩

/-- The record that brings the counters to zero, where they are not there yet. -/
def settle? (s : Snapshot) : Option Snapshot :=
  if s.isSettled then none else some zero

/-- The message shown for what is left. -/
def message (s : Snapshot) : StatusMessage :=
  let noun := if s.files = 1 then "file" else "files"
  .make s!"Downloading - {s.files} {noun} / {ByteSize.render s.bytes} left"
    "tasks.drive.download.running" [("bytes", .int s.bytes), ("files", .int s.files)]

/-- The counters as members of a JSON object. -/
def members (s : Snapshot) : List (String × Json) :=
  [("bytesRemaining", .int s.bytes), ("filesRemaining", .int s.files)]

/-- The counters as JSON. -/
def toJson (s : Snapshot) : Json :=
  .object s.members

/-- Reads counters from what a record says of them. -/
def ofSlots? : List Json.Slot → Option Snapshot
  | [bytes, files] => do
    let bytes ← bytes.required Json.Tree.count?
    let files ← files.required Json.Tree.count?
    return { bytes, files }
  | _ => none

/-- Reads counters. -/
def ofTree? (t : Json.Tree) : Option Snapshot :=
  (t.slots? ["bytesRemaining", "filesRemaining"]).bind ofSlots?

end Snapshot

/-- Counters with the message shown for them. -/
structure Update where
  progress : Snapshot
  message : StatusMessage
  deriving Repr

namespace Update

/-- The update for counters. -/
def ofSnapshot (s : Snapshot) : Update :=
  ⟨s, s.message⟩

/-- The update as JSON: the counters and the message side by side. -/
def toJson (u : Update) : Json :=
  .object (u.progress.members ++ [("message", u.message.toJson)])

/-- Reads an update. It is an object only, and its unknown members must be readable values. -/
def ofTree? (t : Json.Tree) : Option Update := do
  let members ← t.members?
  let known := ["bytesRemaining", "filesRemaining", "message"]
  if (members.filter fun m => !known.contains m.1).any
      (fun m => (m.2.value? (Json.maxNesting - 1)).isNone) then none
  let bytes ← Json.slot? members "bytesRemaining"
  let files ← Json.slot? members "filesRemaining"
  let message ← Json.slot? members "message"
  let progress ← Snapshot.ofSlots? [bytes, files]
  let message ← message.required (StatusMessage.ofTree? 1)
  return { progress, message }

end Update

end Progress

end FolderCopy
