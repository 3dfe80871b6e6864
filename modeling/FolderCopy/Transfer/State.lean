import FolderCopy.Disk
import FolderCopy.Listing
import FolderCopy.LocalName
import FolderCopy.Retry
import FolderCopy.Status

/-!
# The state of a transfer

A transfer copies the files of a remote folder into a local directory. It has a main loop and,
beside it, one download for each file that has been scheduled; the consumer takes its status records
from a channel of limited length. The state holds where each of them stands, and what the transfer
has called, reported and stored so far.
-/

namespace FolderCopy.Transfer

/-- What a transfer is asked to do. -/
structure Job where
  folder : String
  destination : String
  /-- How many downloads may run at a time; none counts as one. -/
  concurrency : Nat
  deleteAfter : Bool
  policy : Retry.Policy
  /-- What the transfer is called in reports. -/
  id : String := "00000000-0000-4000-8000-000000000000"
  deriving Repr

namespace Job

/-- The number of download slots. -/
def slots (j : Job) : Nat :=
  max 1 j.concurrency

/-- The path that an entry is stored at. -/
def target (j : Job) (e : Entry) : String :=
  joinPath j.destination (localName e.name)

end Job

/-- The largest number of slots that can be kept count of. -/
def slotLimit : Nat :=
  maxCount / 8

/-- The number of status records that wait for the consumer at most. -/
def channelLimit : Nat :=
  64

/-- The most bytes that a download reads at a time. -/
def chunkLimit : Nat :=
  64 * 1024

/-- A call to the outside. -/
inductive Call where
  | createDirectory (path : String)
  | store (c : StoreCall)
  | openFile (path : String)
  | closeFile (path : String)
  deriving DecidableEq, Repr

/-- Where a download stands. -/
inductive DownloadStage where
  /-- The content is asked for. -/
  | fetching (r : Retry.Stage)
  /-- The local file is being opened. -/
  | opening
  /-- The next bytes are awaited. -/
  | reading
  /-- Bytes are being stored; some of the chunk is left. -/
  | writing (chunk left : Bytes)
  /-- The local file is being closed. -/
  | closing
  | finished (r : Except CopyError Unit)
  /-- Given up because the transfer is over. -/
  | abandoned

/-- A scheduled download. -/
structure Download where
  entry : Entry
  stage : DownloadStage := .fetching .first
  /-- The bytes that the remote content has given so far. -/
  served : Bytes := []
  /-- The main loop has taken the result. -/
  joined : Bool := false

namespace Download

/-- Whether a download still runs; it holds a slot as long as it does. -/
def isRunning (d : Download) : Bool :=
  match d.stage with
  | .finished _ | .abandoned => false
  | _ => true

/-- Whether the content is being asked for or read. -/
def isInFlight (d : Download) : Bool :=
  match d.stage with
  | .fetching (.calling _) | .opening | .reading | .writing .. | .closing => true
  | _ => false

end Download

/-- A change of the counters, with the download that reports it. -/
structure Change where
  origin : Nat
  delta : Progress.Delta
  deriving DecidableEq, Repr

/-- What follows when a status record has been handed over. -/
inductive Next where
  /-- The download slots are set up and the main loop begins. -/
  | begin_
  /-- The main loop goes on. -/
  | loop
  /-- The remote folder is seen to. -/
  | cleanUp
  /-- The transfer ends. -/
  | stop
  deriving DecidableEq, Repr

/-- Where the main loop stands. -/
inductive Stage where
  /-- The destination is being created. -/
  | creating
  /-- The folder is listed to count its files. -/
  | counting (cursor : Cursor) (totals : Totals) (r : Retry.Stage)
  /-- A status record waits for room in the channel. -/
  | sending (record : Status) (next : Next)
  /-- The loop looks for something to do. -/
  | looping
  /-- A slot is held and the next page is asked for. -/
  | paging (r : Retry.Stage)
  /-- The remote folder is being deleted. -/
  | cleaning (r : Retry.Stage)
  | ended

namespace Stage

/-- Whether what a transfer came to has been settled. -/
def isOver : Stage → Bool
  | .sending _ .stop | .ended => true
  | _ => false

end Stage

/-- The state of a transfer. -/
structure State where
  stage : Stage := .creating
  /-- What is left to do. -/
  progress : Progress.Snapshot := .zero
  /-- The entries that the first listing, which counts the files, has given so far. -/
  counted : List Entry := []
  /-- The entries that the second listing, of the files to download, has given so far. -/
  listed : List Entry := []
  /-- Where the listing of the files to download stands. -/
  cursor : Cursor := .start
  /-- The entries of the current page that have not been scheduled. -/
  page : List Entry := []
  /-- The main loop knows that the listing has no more entries. -/
  exhausted : Bool := false
  /-- Free download slots. -/
  free : Nat
  /-- The downloads in the order in which they were scheduled. -/
  downloads : List Download := []
  /-- The changes that downloads have reported, in order. -/
  deltas : List Change := []
  /-- How many of these changes have been applied. -/
  folded : Nat := 0
  /-- The records that wait for the consumer. -/
  channel : List Status := []
  /-- All records that have been put into the channel. -/
  sent : List Status := []
  /-- The records that the consumer has taken. -/
  received : List Status := []
  /-- The consumer still takes records. -/
  listening : Bool := true
  disk : Disk := {}
  /-- The calls that have been started, in order. -/
  calls : List Call

/-- A transfer that has just begun, with what the local files hold. -/
def State.start (j : Job) (disk : Disk) : State :=
  { free := j.slots, disk, calls := [.createDirectory j.destination] }

end FolderCopy.Transfer
