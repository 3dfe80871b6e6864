import FolderCopy.Transfer.State

/-!
# The events of a transfer

Everything that happens in a transfer is an event: an answer from outside, a turn of the main loop,
a turn of the consumer.
-/

namespace FolderCopy.Transfer

/-- Who an answer is for. -/
inductive Actor where
  | main
  | download (i : Nat)
  deriving DecidableEq, Repr

/-- Something that happens in a transfer. -/
inductive Event where
  /-- The destination was created, or not. -/
  | directory (r : Except CallError Unit)
  /-- The limiter granted or refused admission. -/
  | admission (a : Actor) (r : Except CallError Unit)
  /-- An admitted call to the store is started. -/
  | start (a : Actor)
  /-- The store answered a listing call. -/
  | page (r : Except CallError Page)
  /-- The store answered the call that deletes the folder. -/
  | removal (r : Except CallError Unit)
  /-- The store answered a call for the content of a file. -/
  | stream (i : Nat) (r : Except CallError Unit)
  /-- The local file of a download was opened, or not. -/
  | opened (i : Nat) (r : Except CallError Unit)
  /-- The remote content gave bytes, none at its end, or broke off. -/
  | read (i : Nat) (r : Except String Bytes)
  /-- Some of the bytes that are being stored have been, and the others have not. -/
  | stored (i n : Nat)
  /-- All bytes that were left were stored; on an error some of them may have been. -/
  | written (i : Nat) (r : Except (Nat × String) Unit)
  /-- The local file of a download was closed, or not. -/
  | closed (i : Nat) (r : Except String Unit)
  /-- The main loop takes the result of a download. -/
  | join (i : Nat)
  /-- The main loop takes a free slot for the next entry. -/
  | acquire
  /-- The main loop applies the oldest reported change. -/
  | fold
  /-- The main loop has nothing left to do. -/
  | drain
  /-- The waiting status record is put into the channel. -/
  | send
  /-- The consumer takes a record. -/
  | take
  /-- The consumer stops listening. -/
  | hangUp
  /-- The transfer notices that nobody listens. -/
  | cancel
  /-- A download is given up after the transfer is over. -/
  | abandon (i : Nat)

/-- The download that an event is about. -/
def Event.download? : Event → Option Nat
  | .admission (.download i) _ | .start (.download i) => some i
  | .stream i _ | .opened i _ | .read i _ | .stored i _ | .written i _ | .closed i _
  | .abandon i => some i
  | _ => none

end FolderCopy.Transfer
