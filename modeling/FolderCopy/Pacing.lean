import FolderCopy.Clock
import FolderCopy.Effort
import FolderCopy.Log.Event
import FolderCopy.Text.Duration

/-!
# Paced admission

A limiter that admits a limited number of callers at a time and leaves a minimal time between two
admissions. A caller takes a slot, then enters the pacing section, which holds one caller at a time,
and waits there until the minimal time has passed since the last admission. It may give up at any
point. The clock moves on its own.

All times and lengths of time are in nanoseconds: the interval of a limiter, the times that its
callers wait and stay, and the clock. Among many callers (`step`) the clock may stand anywhere, and
whoever waits comes out of it at any time from the one that it waits for. A single caller (`Sole`)
meets a clock that moves only while it waits, up to the moment at which a timer goes off.
-/

namespace FolderCopy.Pacing

/-- A limiter: how many callers it admits at a time, and the least time between two admissions, in
nanoseconds. -/
structure Limiter where
  limit : Nat
  interval : Nat
  deriving DecidableEq, Repr

/-- The number of slots, at least one. -/
def Limiter.slots (l : Limiter) : Nat :=
  max 1 l.limit

/-- Where a caller stands. -/
inductive Caller where
  /-- Waits for a slot. -/
  | queued
  /-- Owns a slot and waits for the pacing section. -/
  | slotted
  /-- Waits in the pacing section until a time at least. -/
  | pacing (until_ : Nat)
  /-- Admitted at a time; holds a permit. -/
  | granted (at_ : Nat)
  /-- Admitted at a time; gave its permit back. -/
  | released (at_ : Nat)
  /-- Gave up before it was admitted. -/
  | abandoned
  deriving DecidableEq, Repr

/-- The state of a limiter and its callers. -/
structure State where
  now : Nat := 0
  /-- Free slots. -/
  free : Nat
  /-- The time of the last admission. -/
  last : Option Nat := none
  /-- The caller in the pacing section. -/
  pacer : Option Nat := none
  /-- The callers in the order in which they came. -/
  callers : List Caller := []
  deriving DecidableEq, Repr

/-- A limiter that nobody has called. -/
def State.start (l : Limiter) : State :=
  { free := l.slots }

/-- Something that happens to a limiter. -/
inductive Event where
  /-- A further caller asks for admission. -/
  | arrive
  /-- A caller takes a free slot. -/
  | takeSlot (i : Nat)
  /-- A caller with a slot enters the pacing section. -/
  | enter (i : Nat)
  /-- The wait of the caller in the pacing section is over. -/
  | wake (i : Nat)
  /-- A caller gives up. -/
  | abandon (i : Nat)
  /-- A caller gives its permit back. -/
  | release (i : Nat)
  /-- Time passes. -/
  | pass (time : Nat)
  deriving DecidableEq, Repr

namespace State

/-- How long a caller that enters the pacing section now has to wait. -/
def rest (s : State) (l : Limiter) : Nat :=
  match s.last with
  | none => 0
  | some t => l.interval - (s.now - t)

/-- Changes a caller. -/
def set (s : State) (i : Nat) (c : Caller) : State :=
  { s with callers := s.callers.set i c }

/-- Admits a caller. -/
def grant (s : State) (i : Nat) : State :=
  { s.set i (.granted s.now) with last := some s.now, pacer := none }

end State

/-- The state after an event; none if it cannot happen. -/
def step (l : Limiter) (s : State) : Event → Option State
  | .arrive => some { s with callers := s.callers ++ [.queued] }
  | .takeSlot i =>
    match s.callers[i]? with
    | some .queued => if s.free = 0 then none else some { s.set i .slotted with free := s.free - 1 }
    | _ => none
  | .enter i =>
    match s.callers[i]?, s.pacer with
    | some .slotted, none =>
      if s.rest l = 0 then some (s.grant i)
      else some { s.set i (.pacing (s.now + s.rest l)) with pacer := some i }
    | _, _ => none
  | .wake i =>
    match s.callers[i]? with
    | some (.pacing t) => if t ≤ s.now then some (s.grant i) else none
    | _ => none
  | .abandon i =>
    match s.callers[i]? with
    | some .queued => some (s.set i .abandoned)
    | some .slotted => some { s.set i .abandoned with free := s.free + 1 }
    | some (.pacing _) => some { s.set i .abandoned with free := s.free + 1, pacer := none }
    | _ => none
  | .release i =>
    match s.callers[i]? with
    | some (.granted t) => some { s.set i (.released t) with free := s.free + 1 }
    | _ => none
  | .pass time => some { s with now := s.now + time }

/-- The state after events in turn; none if one of them cannot happen. -/
def run (l : Limiter) (s : State) (es : List Event) : Option State :=
  es.foldlM (step l) s

/-- What is reported when a caller enters the pacing section. -/
def waits (time : Nat) : Log.Event :=
  Log.Component.limiter.event .debug ("Rate limiting: waiting " ++ Text.duration time) []

/-- A permit as shown to a developer; one that holds a slot is restricted. -/
def describePermit (restricted : Bool) : String :=
  "AdmissionPermit \x7b restricted: " ++ toString restricted ++ " \x7d"

/-- A caller gives up when the timer goes off that is set for the end of its time. -/
def giveUp (l : Limiter) (s : State) (i limit : Nat) : Option State :=
  run l s [.pass (Clock.roundUp (s.now + limit) - s.now), .abandon i]

/-- A caller that alone asks for admission goes as far as it can, waits where it has to, and gives
up after a time. It has a timer for the end of the wait and one for the end of its time, and where
both go off at once the wait was not too long. -/
def attempt (l : Limiter) (s : State) (limit : Nat) : Option State := do
  let i := s.callers.length
  let s ← step l s .arrive
  match step l s (.takeSlot i) with
  | none => giveUp l s i limit
  | some s =>
    let s ← step l s (.enter i)
    match s.callers[i]? with
    | some (.pacing t) =>
      if Clock.roundUp t ≤ Clock.roundUp (s.now + limit) then
        run l s [.pass (Clock.roundUp t - s.now), .wake i]
      else giveUp l s i limit
    | _ => some s

/-- A limiter with a single caller at a time, and the callers that it admitted, in order. The clock
stands at whole milliseconds, at which timers go off. To take a slot, to enter the pacing section,
to come out of a wait, and to give up at once are a step each. Whoever has no step left steps aside,
and no time passes. -/
structure Sole where
  limiter : Limiter
  state : State
  admitted : List Nat := []
  reports : List Log.Event := []
  /-- The steps left since time last passed. -/
  effort : Effort := .full

namespace Sole

/-- A limiter that nobody has called. -/
def start (l : Limiter) : Sole :=
  { limiter := l, state := .start l }

/-- Whether a caller would have to step aside between taking a slot and entering the pacing section,
which is too late for one that gives up at once. -/
def tires (c : Sole) (limit : Nat) : Bool :=
  limit == 0 && 0 < c.state.free && c.effort.left == 1

/-- The steps left after an attempt that took no time. -/
def effortAfter (c : Sole) (granted : Bool) : Effort :=
  if granted then c.effort.step.step
  else if c.state.free = 0 then c.effort.step
  else c.effort.renew.spend 3

/-- Asks for admission and gives up after a time; says whether it was granted. -/
def acquire (c : Sole) (limit : Nat) : Bool × Sole :=
  let i := c.state.callers.length
  if c.tires limit then
    let given := run c.limiter c.state [.arrive, .takeSlot i, .abandon i]
    (false, { c with state := given.getD c.state, effort := c.effort.spend 1 })
  else
    let rest := c.state.rest c.limiter
    let state := (attempt c.limiter c.state limit).getD c.state
    let reports := c.reports ++ if c.state.free = 0 || rest = 0 then [] else [waits rest]
    let granted := isGranted (state.callers[i]?)
    let effort :=
      if c.state.now < state.now then Effort.full.step else c.effortAfter granted
    (granted,
      { c with state, reports, effort,
               admitted := if granted then c.admitted ++ [i] else c.admitted })
where
  /-- Whether a caller holds a permit. -/
  isGranted : Option Caller → Bool
    | some (.granted _) => true
    | _ => false

/-- Gives the permit of an admission back, admissions counting from zero; says whether it was held.
-/
def release (c : Sole) (n : Nat) : Bool × Sole :=
  match c.admitted[n]? with
  | none => (false, c)
  | some i =>
    match step c.limiter c.state (.release i) with
    | none => (false, c)
    | some s => (true, { c with state := s })

/-- Lets time pass until the timer goes off that is set for it. -/
def sleep (c : Sole) (time : Nat) : Sole :=
  let rest := Clock.roundUp (c.state.now + time) - c.state.now
  { c with
    state := (step c.limiter c.state (.pass rest)).getD c.state
    effort := if time = 0 then c.effort.step else Effort.full.step }

end Sole

end FolderCopy.Pacing
