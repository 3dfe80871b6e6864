import FolderCopy.Transfer.Event

/-!
# The steps of a download

A download goes on by itself: what an event does to it hangs on where it stands and on nothing else
in the transfer. Beside going on it may start a call, report a change of the counters, or change the
one local file that it writes.
-/

namespace FolderCopy.Transfer

/-- What a download does beside going on. -/
inductive Effect where
  /-- A call is started. -/
  | call (c : Call)
  /-- A change of the counters is reported. -/
  | report (d : Progress.Delta)
  /-- The local file is emptied. -/
  | empty
  /-- Bytes are added to the local file. -/
  | store (bytes : Bytes)
  deriving DecidableEq, Repr

namespace Effect

/-- The call that is started. -/
def call? : Effect → Option Call
  | .call c => some c
  | _ => none

/-- The change that is reported. -/
def delta? : Effect → Option Progress.Delta
  | .report d => some d
  | _ => none

/-- What becomes of the stored files, where the local file of the download has the given path. -/
def onDisk (path : String) (disk : Disk) : Effect → Disk
  | .empty => disk.truncate path
  | .store bytes => disk.append path bytes
  | .call _ | .report _ => disk

end Effect

namespace Download

/-- The download at another stage. -/
def at_ (d : Download) (stage : DownloadStage) : Download :=
  { d with stage }

/-- The download after something failed. -/
def fail (d : Download) (e : CopyError) : Download :=
  d.at_ (.finished (.error e))

/-- The error of a download whose local file could not be worked on. -/
def localFailure (j : Job) (d : Download) (action cause : String) : CopyError :=
  .localFailure action (j.target d.entry) cause

/-- The error of a download whose content broke off. -/
def interrupted (d : Download) (cause : String) : CopyError :=
  .transient 1 (d.entry.name ++ ": download interrupted: " ++ cause)

/-- A download after an event, with what else it does; none if the event cannot happen. -/
def step (j : Job) (d : Download) : Event → Option (Download × List Effect)
  | .admission _ r =>
    match d.stage, r with
    | .fetching (.asking n), .ok () => some (d.at_ (.fetching (.admitted n)), [])
    | .fetching (.asking _), .error e => some (d.fail (Retry.refused e), [])
    | _, _ => none
  | .start _ =>
    match d.stage with
    | .fetching (.admitted n) =>
      some (d.at_ (.fetching (.calling n)), [.call (.store (.download d.entry.id))])
    | _ => none
  | .stream _ r =>
    match d.stage with
    | .fetching (.calling n) =>
      match j.policy.after d.entry.name n r with
      | .inl (.ok ()) => some (d.at_ .opening, [.call (.openFile (j.target d.entry))])
      | .inl (.error e) => some (d.fail e, [])
      | .inr next => some (d.at_ (.fetching next), [])
    | _ => none
  | .opened _ r =>
    match d.stage, r with
    | .opening, .ok () => some (d.at_ .reading, [.empty])
    | .opening, .error e => some (d.fail (d.localFailure j "open" e.message), [])
    | _, _ => none
  | .read _ r =>
    match d.stage, r with
    | .reading, .ok [] => some (d.at_ .closing, [.call (.closeFile (j.target d.entry))])
    | .reading, .ok chunk =>
      if chunk.length ≤ chunkLimit then
        some ({ d with stage := .writing chunk chunk, served := d.served ++ chunk }, [])
      else none
    | .reading, .error m => some (d.fail (d.interrupted m), [])
    | _, _ => none
  | .stored _ n =>
    match d.stage with
    | .writing chunk left =>
      if 0 < n ∧ n < left.length then
        some (d.at_ (.writing chunk (left.drop n)), [.store (left.take n)])
      else none
    | _ => none
  | .written _ r =>
    match d.stage, r with
    | .writing chunk left, .ok () =>
      some (d.at_ .reading, [.store left, .report (.received chunk.length)])
    | .writing _ left, .error (stored, m) =>
      some (d.fail (d.localFailure j "write" m), [.store (left.take stored)])
    | _, _ => none
  | .closed _ r =>
    match d.stage, r with
    | .closing, .ok () => some (d.at_ (.finished (.ok ())), [.report .completed])
    | .closing, .error m => some (d.fail (d.localFailure j "close" m), [])
    | _, _ => none
  | .abandon _ => if d.isRunning then some (d.at_ .abandoned, []) else none
  | _ => none

end Download

end FolderCopy.Transfer
