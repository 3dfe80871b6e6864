import FolderCopy.Enumeration
import FolderCopy.Service
import FolderCopy.Simulation.Timeline

/-!
# Scenarios

Operations of the library carried out in scripted surroundings.
-/

namespace FolderCopy.Simulation

/-- Carries out a dialogue with the remote store. -/
def perform {α : Type} (d : Dialogue StoreCall StoreCall.Answer α) (w : World) : α × World :=
  d.run World.host w

/-- What was asked of the surroundings since this was last looked at, in order. -/
def World.takeContacts (w : World) : List Contact × World :=
  (w.contacts.reverse, { w with contacts := [] })

/-- Everything that was reported, in order. -/
def World.allReports (w : World) : List Log.Report :=
  w.reports.reverse

/-- The number of pages after which a listing is given up. -/
def pageLimit : Nat :=
  1000000

/-- Resolves a written path. -/
def resolve (p : Retry.Policy) (path : String) (createMissing : Bool) (w : World) :
    Except CopyError String × World :=
  match FolderPath.parse path with
  | .error e => (.error e, w)
  | .ok fp => perform (Resolution.resolve p fp createMissing) w

/-- The result of a reading of pages; one that was given up counts as an error. -/
def complete {α : Type} : Option (Except CopyError α) → Except CopyError α
  | some r => r
  | none => .error (.fatal "listing given up")

/-- The totals of the files of a folder. -/
def totals (p : Retry.Policy) (folder : String) (w : World) : Except CopyError Totals × World :=
  let (r, w) := perform (Enumeration.totals p folder pageLimit) w
  (complete r, w)

/-- All entries of a folder that pass a filter. -/
def listAll (p : Retry.Policy) (folder : String) (filter : Filter) (w : World) :
    Except CopyError (List Entry) × World :=
  let (r, w) := perform (Enumeration.listAll p folder filter pageLimit) w
  (complete r, w)

/-- The first pages of the files of a folder, all where no number is given. -/
def pages (p : Retry.Policy) (folder : String) (want : Option Nat) (w : World) :
    Except CopyError (List Page) × World :=
  let ((ps, ending), w) :=
    perform (Enumeration.pages p folder .files (want.getD pageLimit) .start) w
  match ending with
  | .failed e => (.error e, w)
  | .finished | .stopped _ => (.ok ps, w)

/-- The first entries of the files of a folder, all where no number is given. -/
def entries (p : Retry.Policy) (folder : String) (want : Option Nat) (w : World) :
    (List Entry × Option CopyError) × World :=
  perform (Enumeration.entries p folder pageLimit want .start) w

/-- Makes one call to the drive over the scripted web. -/
def connect (timeout : Nat) (c : StoreCall) (w : World) : Except CallError c.Answer × World :=
  (Drive.perform timeout c).run World.webHost w

/-- Asks for the content of a file over the scripted web and reads it: the bytes that came, and the
message if they broke off. -/
def readContent (timeout : Nat) (id : String) (w : World) :
    Except CallError (Bytes × Option String) × World :=
  let (r, w) := connect timeout (.download id) w
  match r, w.remote with
  | .ok _, .web { answered := some s, .. } =>
    (s.content.map fun reader => reader.drain Transfer.chunkLimit, w)
  | .ok _, _ => (.ok ([], none), w)
  | .error e, _ => (.error e, w)

/-- Calls that come out one after the other as scripted. -/
structure CallScript (α : Type) where
  outcomes : List (Except CallError α)
  /-- The outcome of a call without script. -/
  otherwise : α
  calls : Nat := 0
  gate : Gate := {}
  reports : List Log.Event := []

namespace CallScript

variable {α : Type}

/-- The outcome of the next call; the last one of the script stays. -/
def next (s : CallScript α) : Except CallError α :=
  match s.outcomes[min s.calls (s.outcomes.length - 1)]? with
  | some r => r
  | none => .ok s.otherwise

/-- The script as a host; an open one admits everything without being asked. -/
def host (open_ : Bool) : Host Unit (fun _ => α) (CallScript α) where
  acquire s :=
    if open_ then (.ok (), s)
    else
      let (r, gate) := s.gate.acquire
      (r, { s with gate })
  release := id
  call _ s := (s.next, { s with calls := s.calls + 1 })
  note e s := { s with reports := s.reports ++ [e] }
  enter _ s := s
  leave s := s

/-- Makes a scripted call under a policy. -/
def run (s : CallScript α) (p : Retry.Policy) (resource : String) (open_ : Bool) :
    Except CopyError α × CallScript α :=
  (p.run resource ()).run (host open_) s

end CallScript

end FolderCopy.Simulation
