import FolderCopy.Enumeration
import FolderCopy.Transfer.Download

/-!
# The steps of a transfer

`step` says what an event does to the state of a transfer, or that it cannot happen in a state. The
order in which events come is left open: any download may be answered before any other, and any
branch of the main loop that is ready may be the one it takes, since downloads go on while it looks.
A run is a list of events that can happen one after the other.
-/

namespace FolderCopy.Transfer

namespace State

/-- Ends the transfer with an error. -/
def fail (s : State) (e : CopyError) : State :=
  { s with stage := .sending (.failed e) .stop }

/-- Ends the transfer after every file was copied. -/
def complete (s : State) (c : Cleanup) : State :=
  { s with stage := .sending (.completed c) .stop }

/-- Starts a call. -/
def calling (s : State) (c : Call) : State :=
  { s with calls := s.calls ++ [c] }

/-- Changes a download. -/
def setDownload (s : State) (i : Nat) (d : Download) : State :=
  { s with downloads := s.downloads.set i d }

/-- A download has gone on, with all that it did. One that no longer runs gives its slot back. -/
def advance (s : State) (j : Job) (i : Nat) (d : Download) (fs : List Effect) : State :=
  { s.setDownload i d with
    free := if d.isRunning then s.free else s.free + 1
    deltas := s.deltas ++ (fs.filterMap Effect.delta?).map (⟨i, ·⟩)
    disk := fs.foldl (Effect.onDisk (j.target d.entry)) s.disk
    calls := s.calls ++ fs.filterMap Effect.call? }

/-- With a slot in hand and the given entries at the front of the listing: schedules the first one;
without entries, gives the slot back at the end of the listing and else asks for the next page. -/
def supply (s : State) : List Entry → State
  | e :: rest =>
    { s with stage := .looping, page := rest, downloads := s.downloads ++ [{ entry := e }] }
  | [] =>
    if s.cursor.isFinished then
      { s with stage := .looping, page := [], exhausted := true, free := s.free + 1 }
    else { s with stage := .paging .first, page := [] }

/-- The remote folder is deleted if that was asked for. -/
def cleanUp (s : State) (j : Job) : State :=
  if j.deleteAfter then { s with stage := .cleaning .first } else s.complete .notRequested

/-- The loop is over: the counters are brought to zero where they are not there yet. -/
def settle (s : State) (j : Job) : State :=
  match s.progress.settle? with
  | some p => { s with progress := p, stage := .sending (.ofSnapshot p) .cleanUp }
  | none => s.cleanUp j

/-- Goes on after a record was handed over. -/
def resume (s : State) (j : Job) : Next → State
  | .begin_ => { s with stage := if j.slots ≤ slotLimit then .looping else .ended }
  | .loop => { s with stage := .looping }
  | .cleanUp => s.cleanUp j
  | .stop => { s with stage := .ended }

/-- Takes the answer of the limiter to the main loop. -/
def takeAdmission (s : State) (r : Except CallError Unit) : Option State :=
  match s.stage, r with
  | .counting c t (.asking n), .ok () => some { s with stage := .counting c t (.admitted n) }
  | .paging (.asking n), .ok () => some { s with stage := .paging (.admitted n) }
  | .cleaning (.asking n), .ok () => some { s with stage := .cleaning (.admitted n) }
  | .counting _ _ (.asking _), .error e => some (s.fail (Retry.refused e))
  | .paging (.asking _), .error e => some (s.fail (Retry.refused e))
  | .cleaning (.asking _), .error e =>
    some (s.complete (.failed (Retry.refused e).statusMessage))
  | _, _ => none

/-- Starts the admitted call of the main loop. -/
def startCall (s : State) (j : Job) : Option State :=
  match s.stage with
  | .counting c t (.admitted n) =>
    some ({ s with stage := .counting c t (.calling n) }.calling
      (.store (.list (some j.folder) .files c.token)))
  | .paging (.admitted n) =>
    some ({ s with stage := .paging (.calling n) }.calling
      (.store (.list (some j.folder) .files s.cursor.token)))
  | .cleaning (.admitted n) =>
    some ({ s with stage := .cleaning (.calling n) }.calling (.store (.delete j.folder)))
  | _ => none

/-- Takes a page while the files are counted. -/
def countPage (s : State) (t : Totals) (p : Page) : State :=
  let t := p.entries.foldl (fun t e => t.record e.size) t
  let s := { s with counted := s.counted ++ p.entries }
  match Cursor.after p with
  | .finished =>
    let left := Progress.Snapshot.ofTotals t
    { s with progress := left, stage := .sending (.ofSnapshot left) .begin_ }
  | c => { s with stage := .counting c t .first }

/-- Takes the answer to a listing call. -/
def takePage (s : State) (j : Job) (r : Except CallError Page) : Option State :=
  match s.stage with
  | .counting c t (.calling n) =>
    match j.policy.after j.folder n r with
    | .inl (.ok p) => some (s.countPage t p)
    | .inl (.error e) => some (s.fail e)
    | .inr next => some { s with stage := .counting c t next }
  | .paging (.calling n) =>
    match j.policy.after j.folder n r with
    | .inl (.ok p) =>
      some ({ s with cursor := .after p, listed := s.listed ++ p.entries }.supply p.entries)
    | .inl (.error e) => some (s.fail e)
    | .inr next => some { s with stage := .paging next }
  | _ => none

/-- Takes the answer to the call that deletes the folder. -/
def takeRemoval (s : State) (j : Job) (r : Except CallError Unit) : Option State :=
  match s.stage with
  | .cleaning (.calling n) =>
    match j.policy.after j.folder n r with
    | .inl (.ok ()) => some (s.complete .deleted)
    | .inl (.error e) => some (s.complete (.failed e.statusMessage))
    | .inr next => some { s with stage := .cleaning next }
  | _ => none

/-- Takes the result of a download. -/
def join (s : State) (i : Nat) : Option State :=
  match s.stage, s.downloads[i]? with
  | .looping, some d =>
    match d.stage with
    | .finished r =>
      if d.joined then none
      else
        let s := s.setDownload i { d with joined := true }
        match r with
        | .ok () => some s
        | .error e => some (s.fail e)
    | _ => none
  | _, _ => none

/-- Takes a free slot for the next entry. -/
def acquire (s : State) : Option State :=
  match s.stage with
  | .looping =>
    if s.exhausted || s.free = 0 then none
    else some ({ s with free := s.free - 1 }.supply s.page)
  | _ => none

/-- Applies the oldest change that has not been applied. -/
def fold (s : State) : Option State :=
  match s.stage, s.deltas[s.folded]? with
  | .looping, some c =>
    let left := s.progress.apply c.delta
    some { s with
      progress := left, folded := s.folded + 1, stage := .sending (.ofSnapshot left) .loop }
  | _, _ => none

/-- Whether the main loop has nothing left to do. -/
def isDrained (s : State) : Bool :=
  s.exhausted && s.downloads.all (·.joined) && s.folded == s.deltas.length

/-- Leaves the main loop. -/
def drain (s : State) (j : Job) : Option State :=
  match s.stage with
  | .looping => if s.isDrained then some (s.settle j) else none
  | _ => none

/-- Puts the waiting record into the channel. With nobody listening the transfer ends. -/
def send (s : State) (j : Job) : Option State :=
  match s.stage with
  | .sending record next =>
    if !s.listening then some { s with stage := .ended }
    else if s.channel.length < channelLimit then
      some ({ s with channel := s.channel ++ [record], sent := s.sent ++ [record] }.resume j next)
    else none
  | _ => none

/-- The consumer takes a record. -/
def take (s : State) : Option State :=
  match s.channel with
  | [] => none
  | r :: rest => some { s with channel := rest, received := s.received ++ [r] }

/-- The consumer stops listening; records that wait for it are lost. -/
def hangUp (s : State) : Option State :=
  if s.listening then some { s with listening := false, channel := [] } else none

/-- The transfer notices that nobody listens. -/
def cancel (s : State) : Option State :=
  if s.listening || s.stage.isOver then none else some { s with stage := .ended }

/-- Whether an event of a download can happen while the transfer stands where it does: downloads
are given up only when it is over. -/
def permits (s : State) : Event → Bool
  | .abandon _ => s.stage.isOver
  | _ => true

/-- Lets a download go on. -/
def download (s : State) (j : Job) (i : Nat) (e : Event) : Option State :=
  match s.downloads[i]? with
  | none => none
  | some d =>
    if s.permits e then (d.step j e).map fun (d, fs) => s.advance j i d fs else none

end State

/-- The state after an event; none if the event cannot happen. -/
def step (j : Job) (s : State) (e : Event) : Option State :=
  match e with
  | .directory r =>
    match s.stage, r with
    | .creating, .ok () => some { s with stage := .counting .start .zero .first }
    | .creating, .error e =>
      some (s.fail (.localFailure "create" j.destination e.message))
    | _, _ => none
  | .admission .main r => s.takeAdmission r
  | .start .main => s.startCall j
  | .page r => s.takePage j r
  | .removal r => s.takeRemoval j r
  | .join i => s.join i
  | .acquire => s.acquire
  | .fold => s.fold
  | .drain => s.drain j
  | .send => s.send j
  | .take => s.take
  | .hangUp => s.hangUp
  | .cancel => s.cancel
  | e =>
    match e.download? with
    | none => none
    | some i => s.download j i e

/-- The state after events in turn; none if one of them cannot happen. -/
def run (j : Job) (s : State) (es : List Event) : Option State :=
  es.foldlM (step j) s

/-- Whether a state can come about in a transfer that starts with the given local files. -/
def Reachable (j : Job) (disk : Disk) (s : State) : Prop :=
  ∃ es, run j (.start j disk) es = some s

end FolderCopy.Transfer
