import FolderCopy.Simulation.Turns
import FolderCopy.Simulation.World
import FolderCopy.Transfer.Report

/-!
# A transfer in virtual time

One particular run of a transfer: time stands still while anything can happen, then moves on to the
end of the earliest wait. The main loop takes finished downloads before free slots and free slots
before reported changes; a download goes on until it has to wait. Everything that happens is an
event of the transfer.
-/

namespace FolderCopy.Simulation

open FolderCopy.Transfer

/-- A transfer in the middle of its run. -/
structure Timeline where
  job : Job
  state : State
  world : World
  /-- Milliseconds since the run began. -/
  clock : Nat := 0
  turns : Turns := {}
  /-- Downloads that have finished, in order, and whose results have not been taken. -/
  finished : List Nat := []
  /-- What has happened, the last first. -/
  history : List Event := []

namespace Timeline

/-- A transfer that has just begun. -/
def start (j : Job) (w : World) : Timeline :=
  { job := j, state := .start j w.disk,
    world := { w with reports := (opening j).reverse ++ w.reports } }

/-- Lets an event happen, with its reports. Downloads that it schedules come into the line. An event
that cannot happen changes nothing. -/
def happen (t : Timeline) (e : Event) : Timeline :=
  match step t.job t.state e with
  | none => t
  | some s =>
    let scheduled := (List.range (s.downloads.length - t.state.downloads.length)).map
      (t.state.downloads.length + ·)
    let turns := if e.download?.isSome then t.turns.after t.state s else t.turns
    { t with
      state := s
      world := { t.world with
        reports := (reports t.job t.state s e).reverse ++ t.world.reports }
      turns := scheduled.foldl (fun ts i => ts.join (.download i)) turns
      history := e :: t.history }

/-- The one who goes on steps aside. -/
def pause (t : Timeline) : Timeline :=
  { t with turns := t.turns.pause }

/-- The one who goes on waits, if only for a moment that is no wait at all. -/
def wait (t : Timeline) (a : Actor) (ms : Nat) (rest : Timeline → Timeline) : Timeline :=
  if ms = 0 then rest t else { t with turns := t.turns.wait a (t.clock + ms) }

/-- The one who goes on has done so and is no longer just after a wait. -/
def goOn (t : Timeline) (a : Actor) : Timeline :=
  { t with turns := t.turns.goOn a }

/-- The main loop lets something happen that is a step of its turn. -/
def spend (t : Timeline) (e : Event) : Timeline :=
  { t with turns := t.turns.spend }.happen e

/-- Opens the spans of the one who goes on. -/
def inSpans (t : Timeline) (a : Actor) : Timeline :=
  let spans := match a with
    | .main => [Transfer.span t.job]
    | .download i =>
      ((t.state.downloads[i]?).map fun d => downloadSpan d.entry).toList ++ [Transfer.span t.job]
  { t with world := t.world.inside spans }

/-- Answers the limiter's question. -/
def acquire (t : Timeline) (a : Actor) : Timeline :=
  let (r, world) := t.world.acquire
  ({ t with world }.happen (.admission a r)).goOn a

/-- A listing or deletion of the main loop: started, waited for, answered. -/
def plain (t : Timeline) (waited : Bool) (c : StoreCall)
    (event : Except CallError c.Answer → Event) : Timeline :=
  let finish (t : Timeline) :=
    let (r, world) := t.world.finishPlain c
    ({ t with world }.happen (event r)).goOn .main
  if waited then finish { t with turns := t.turns.spend }
  else
    let (ms, world) := t.world.beginPlain c
    { t with world }.wait .main ms finish

/-- A turn of the main loop where it has a choice. -/
def choose (t : Timeline) : Timeline :=
  if t.turns.effort.isSpent then { t with turns := t.turns.giveWay }
  else
    let t := { t with turns := t.turns.watchResults }
    match t.finished with
    | i :: rest => { t with finished := rest }.spend (.join i)
    | [] =>
      if !t.state.exhausted && 0 < t.state.free then t.spend .acquire
      else if t.state.folded < t.state.deltas.length then t.spend .fold
      else if t.state.isDrained then t.spend .drain
      else { t with turns := t.turns.awaitChange }

/-- Puts a record into the channel, if it has room. -/
def hand (t : Timeline) : Timeline :=
  if t.turns.effort.isSpent then { t with turns := t.turns.giveWay }
  else if t.state.channel.length < channelLimit then t.spend .send
  else { t with turns := t.turns.awaitRoom }

/-- A turn of the main loop. -/
def mainTurn (t : Timeline) (waited : Bool) : Timeline :=
  match t.state.stage with
  | .creating =>
    let (r, world) := t.world.createDirectory t.job.destination
    { t with world }.happen (.directory r)
  | .counting _ _ (.asking _) | .paging (.asking _) | .cleaning (.asking _) => t.acquire .main
  | .counting _ _ (.admitted _) | .paging (.admitted _) | .cleaning (.admitted _) =>
    t.happen (.start .main)
  | .counting c _ (.calling _) =>
    t.plain waited (.list (some t.job.folder) .files c.token) .page
  | .paging (.calling _) =>
    t.plain waited (.list (some t.job.folder) .files t.state.cursor.token) .page
  | .cleaning (.calling _) => t.plain waited (.delete t.job.folder) .removal
  | .sending _ _ => t.hand
  | .looping => t.choose
  | .ended => t.pause

/-- Notes that a download has finished. -/
def close (t : Timeline) (i : Nat) : Timeline :=
  match t.state.downloads[i]? with
  | some { stage := .finished _, .. } =>
    { t.pause with finished := t.finished ++ [i], world := t.world.dropReader i }
  | _ => t.goOn (.download i)

/-- A turn of a download. -/
def downloadTurn (t : Timeline) (waited : Bool) (i : Nat) (d : Download) : Timeline :=
  let path := t.job.target d.entry
  match d.stage with
  | .fetching (.asking _) => (t.acquire (.download i)).close i
  | .fetching (.admitted _) => (t.happen (.start (.download i))).close i
  | .fetching (.calling _) =>
    let finish (t : Timeline) :=
      let (r, world) := t.world.finishStream i d.entry.id
      ({ t with world }.happen (.stream i r)).close i
    if waited then finish t
    else
      let (ms, world) := t.world.beginStream i d.entry.id
      { t with world }.wait (.download i) ms finish
  | .opening =>
    let (r, world) := t.world.openFile path
    ({ t with world }.happen (.opened i r)).close i
  | .reading =>
    let read (t : Timeline) :=
      let (r, world) := t.world.read i chunkLimit
      ({ t with world }.happen (.read i r)).close i
    if waited then read t
    else t.wait (.download i) (((t.world.reader? i).map (·.delay)).getD 0) read
  | .writing _ left =>
    let held := ((t.state.disk.read? path).getD []).length
    (t.happen (.written i ((t.world.files.script path).write held left))).close i
  | .closing =>
    let (r, world) := t.world.closeFile path
    ({ t with world }.happen (.closed i r)).close i
  | .finished _ | .abandoned => t.pause

/-- A turn of the one who goes on. Whoever waits does nothing, and no download goes on once it is
settled what the transfer came to. -/
def turn (t : Timeline) (a : Actor) (waited : Bool) : Timeline :=
  if t.turns.isWaiting a then t.pause
  else
    match a with
    | .main => (t.inSpans .main).mainTurn waited
    | .download i =>
      if t.state.stage.isOver then t.pause
      else
        match t.state.downloads[i]? with
        | some d => (t.inSpans (.download i)).downloadTurn waited i d
        | none => t.pause

/-- The consumer takes the records of the channel. -/
def drain (t : Timeline) : Timeline :=
  let records := t.state.channel
  let t := records.foldl (fun t _ => t.happen .take) t
  { t with turns := if records.isEmpty then t.turns else t.turns.emptied }

/-- Time moves on to the end of the wait that ends first, if that is before the time `stop`. -/
def pass (stop : Option Nat) (t : Timeline) : Option Timeline :=
  match t.turns.earliest? with
  | none => none
  | some (a, time) =>
    if stop.any (· ≤ time) then none
    else some { t with clock := time, turns := t.turns.endWait a }

/-- The next thing that happens before the time `stop`; none if nothing does. -/
def tick (stop : Option Nat) (t : Timeline) : Option Timeline :=
  match t.state.stage, t.turns.current with
  | .ended, _ => none
  | _, some (a, waited) => some (t.turn a waited)
  | _, none =>
    match t.turns.next? with
    | some turns => some { t with turns }
    | none =>
      if t.turns.line.isEmpty && !t.turns.gaveWay && t.state.channel.isEmpty then t.pass stop
      else some { t with turns := t.turns.newRound }.drain

/-- Lets things happen, `n` of them at most. -/
def run (stop : Option Nat) : (n : Nat) → Timeline → Timeline
  | 0, t => t
  | n + 1, t =>
    match t.tick stop with
    | none => t
    | some t => run stop n t

/-- Gives up what is still under way. -/
def abandon (t : Timeline) : Timeline :=
  let t := (List.range t.state.downloads.length).foldl (fun t i => t.happen (.abandon i)) t
  { t with world := { t.world.settle with disk := t.state.disk } }

/-- Ends a run: where the transfer has ended, the consumer takes the last records, and else it stops
listening. Says whether it did. -/
def finish (t : Timeline) : Bool × Timeline :=
  match t.state.stage with
  | .ended => (false, t.drain.abandon)
  | _ => (true, ((t.inSpans .main).happen .hangUp |>.happen .cancel).abandon)

end Timeline

/-- The number of things that may happen in one simulated run. -/
def turnLimit : Nat :=
  100000000

/-- What an observer sees of a run. -/
structure Observed where
  records : List Status
  /-- The consumer stopped listening before the end. -/
  stopped : Bool

/-- Runs a transfer in scripted surroundings until it ends or the consumer stops listening. -/
def transfer (j : Job) (stop : Option Nat) (w : World) : Observed × World :=
  let (stopped, t) := ((Timeline.start j w).run stop turnLimit).finish
  ({ records := t.state.received, stopped }, t.world)

end FolderCopy.Simulation
