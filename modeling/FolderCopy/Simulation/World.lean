import FolderCopy.Simulation.Drive
import FolderCopy.Simulation.Files
import FolderCopy.Simulation.Web
import FolderCopy.Transfer.Step

/-!
# Scripted surroundings

All that an operation meets outside the library: the remote store (held in memory, or reached over a
scripted web), the limiter, and the local files. They keep a record of what was asked of them and
of what was reported.
-/

namespace FolderCopy.Simulation

/-- The remote store. -/
inductive Remote where
  | drive (d : Drive)
  | web (w : Web)

/-- A limiter that counts admissions and refuses some of them. -/
structure Gate where
  /-- The number of admissions asked for. -/
  asked : Nat := 0
  /-- The admissions that are refused, by their number from zero on. -/
  refusals : List (Nat × CallError) := []
  deriving Repr

/-- Answers the next admission. -/
def Gate.acquire (g : Gate) : Except CallError Unit × Gate :=
  let r := match g.refusals.find? (·.1 == g.asked) with
    | some (_, e) => .error e
    | none => .ok ()
  (r, { g with asked := g.asked + 1 })

/-- Something that was asked of the surroundings. -/
inductive Contact where
  | store (c : StoreCall)
  | request (r : Http.Request)
  | directory (path : String)
  | openFile (path : String)
  | closeFile (path : String)
  deriving Repr

/-- The surroundings. -/
structure World where
  remote : Remote := .drive {}
  gate : Gate := {}
  files : Files := {}
  /-- What the local files hold. -/
  disk : Disk := {}
  /-- What was asked, the last first. -/
  contacts : List Contact := []
  /-- What was reported, the last first. -/
  reports : List Log.Report := []
  /-- The spans that are open, the innermost first. -/
  spans : List Log.Span := []
  /-- The spans that have been opened, one from each place of the program. -/
  opened : List Log.Span := []
  /-- Downloads in flight, and the most there have been at a time. -/
  inFlight : Nat := 0
  peak : Nat := 0
  /-- The outcomes of calls for content that are still waited for, by download. -/
  opening : List (Nat × Except CallError Reader) := []
  /-- The content that is being read, by download. -/
  readers : List (Nat × Reader) := []

namespace World

/-- Keeps a record of something that was asked. -/
def contact (w : World) (c : Contact) : World :=
  { w with contacts := c :: w.contacts }

/-- Keeps a record of an event in the open spans. -/
def note (w : World) (e : Log.Event) : World :=
  { w with reports := { spans := w.spans.reverse, event := e } :: w.reports }

/-- Keeps a record of a span that is opened. -/
def noteSpan (w : World) (s : Log.Span) : World :=
  if w.opened.any (·.sharesSite s) then w else { w with opened := s :: w.opened }

/-- Opens a span. -/
def enter (s : Log.Span) (w : World) : World :=
  { w.noteSpan s with spans := s :: w.spans }

/-- Closes the innermost span. -/
def leave (w : World) : World :=
  { w with spans := w.spans.tail }

/-- The surroundings of something that goes on inside spans, the innermost first. -/
def inside (w : World) (spans : List Log.Span) : World :=
  { spans.foldr (fun s w => w.noteSpan s) w with spans }

/-- Answers the next admission. -/
def acquire (w : World) : Except CallError Unit × World :=
  let (r, gate) := w.gate.acquire
  (r, { w with gate })

/-- Answers a web call. -/
def webCall (c : Drive.WebCall) (w : World) : Except CallError c.Answer × World :=
  let w := match c with
    | .token => w
    | .send r | .stream r => w.contact (.request r)
  match w.remote with
  | .drive _ => (.error Web.silent, w)
  | .web web =>
    let (r, web) := web.answer c
    (r, { w with remote := .web web })

/-- The surroundings as the host of dialogues with the web. -/
def webHost : Host Drive.WebCall Drive.WebCall.Answer World where
  acquire := acquire
  release := id
  call := webCall
  note e w := w.note e
  enter := enter
  leave := leave

/-- Answers a call to the remote store. -/
def storeCall (c : StoreCall) (w : World) : Except CallError c.Answer × World :=
  match w.remote with
  | .drive d =>
    let (r, d) := d.answer c
    (r, { w.contact (.store c) with remote := .drive d })
  | .web web => (Drive.host web.timeout webHost).call c w

/-- The surroundings as the host of dialogues with the remote store. -/
def host : Host StoreCall StoreCall.Answer World where
  acquire := acquire
  release := id
  call := storeCall
  note e w := w.note e
  enter := enter
  leave := leave

/-- Starts a listing or deletion; gives the wait before it is answered. -/
def beginPlain (c : StoreCall) (w : World) : Nat × World :=
  match w.remote with
  | .drive d => (d.wait c, w.contact (.store c))
  | .web _ => (0, w)

/-- Answers a listing or deletion that was started. -/
def finishPlain (c : StoreCall) (w : World) : Except CallError c.Answer × World :=
  match w.remote with
  | .drive d =>
    let (r, d) := d.answer c
    (r, { w with remote := .drive d })
  | .web web => (Drive.host web.timeout webHost).call c w

/-- Starts a call for the content of a file; gives the wait before it is answered. -/
def beginStream (i : Nat) (id : String) (w : World) : Nat × World :=
  match w.remote with
  | .drive d =>
    let w := w.contact (.store (.download id))
    match d.file? id with
    | none => (0, w)
    | some f =>
      (f.delay, { w with inFlight := w.inFlight + 1, peak := max w.peak (w.inFlight + 1) })
  | .web web =>
    let w := { w with remote := .web { web with answered := none } }
    let (r, w) := (Drive.perform web.timeout (.download id)).run webHost w
    let answered := match w.remote with
      | .web web => web.answered
      | .drive _ => none
    let reader := r.bind fun _ => (answered.map (·.content)).getD (.error Web.silent)
    ((answered.map (·.delay)).getD 0, { w with opening := (i, reader) :: w.opening })

/-- Answers a call for the content of a file that was started. -/
def finishStream (i : Nat) (id : String) (w : World) : Except CallError Unit × World :=
  let (r, w) : Except CallError Reader × World :=
    match w.remote with
    | .drive d =>
      let (r, d') := d.openFile id
      let failed := (d.file? id).isSome && match r with
        | .error _ => true
        | .ok _ => false
      (r, { w with remote := .drive d', inFlight := w.inFlight - if failed then 1 else 0 })
    | .web _ =>
      (((w.opening.find? (·.1 == i)).map (·.2)).getD (.error Web.silent),
        { w with opening := w.opening.filter (·.1 != i) })
  match r with
  | .ok reader => (.ok (), { w with readers := (i, reader) :: w.readers })
  | .error e => (.error e, w)

/-- The content that a download reads. -/
def reader? (w : World) (i : Nat) : Option Reader :=
  (w.readers.find? (·.1 == i)).map (·.2)

/-- Reads the next piece of content. -/
def read (i room : Nat) (w : World) : Except String Bytes × World :=
  match w.reader? i with
  | none => (.ok [], w)
  | some r =>
    let (piece, r) := r.read room
    (piece, { w with readers := (i, r) :: w.readers.filter (·.1 != i) })

/-- A download no longer reads its content. -/
def dropReader (i : Nat) (w : World) : World :=
  if (w.reader? i).isSome then
    { w with readers := w.readers.filter (·.1 != i), inFlight := w.inFlight - 1 }
  else w

/-- Creates the destination. -/
def createDirectory (path : String) (w : World) : Except CallError Unit × World :=
  let r := match w.files.directoryError with
    | some e => .error e
    | none => .ok ()
  (r, w.contact (.directory path))

/-- Opens a local file. -/
def openFile (path : String) (w : World) : Except CallError Unit × World :=
  let r := match (w.files.script path).openError with
    | some e => .error e
    | none => .ok ()
  (r, w.contact (.openFile path))

/-- Closes a local file. -/
def closeFile (path : String) (w : World) : Except String Unit × World :=
  let r := match (w.files.script path).closeError with
    | some m => .error m
    | none => .ok ()
  (r, w.contact (.closeFile path))

/-- Everything that was still under way is given up. -/
def settle (w : World) : World :=
  { w with inFlight := 0, readers := [], opening := [], spans := [] }

end World

end FolderCopy.Simulation
