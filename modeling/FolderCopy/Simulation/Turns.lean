import FolderCopy.Effort
import FolderCopy.Transfer.Step

/-!
# Taking turns

The main loop and the downloads of a transfer take turns at one moment of virtual time. They stand
in a line, and the first one goes on until it has to wait or has nothing to do. The main loop can do
only so much in a turn; then it gives way to the others. A round is a number of turns, or the turns
until the line is empty; between rounds the consumer takes the records that are there.
-/

namespace FolderCopy.Simulation

open FolderCopy.Transfer

/-- The number of turns in a round. -/
def roundLength : Nat :=
  61

/-- Who goes on, who comes next, and what the main loop waits for. -/
structure Turns where
  /-- The one who goes on, and whether after a wait. -/
  current : Option (Actor × Bool) := none
  /-- Who goes on after that, in this order. -/
  line : List (Actor × Bool) := [(.main, false)]
  /-- Who waits, and until when. -/
  waits : List (Actor × Nat) := []
  /-- The turns that are left in the round. -/
  left : Nat := roundLength
  /-- What the main loop may still do in its turn: to take a result, a slot or a reported change, to
  hand over a record, and to come out of a wait are a step each. -/
  effort : Effort := .full
  /-- The main loop gave way in this round. -/
  gaveWay : Bool := false
  /-- The main loop is to be told when a download has finished. -/
  wantsResult : Bool := false
  /-- The main loop is to be told when a change is reported. -/
  wantsChange : Bool := false
  /-- The main loop is to be told when the channel has room. -/
  wantsRoom : Bool := false

namespace Turns

/-- The one who goes on steps aside. -/
def pause (t : Turns) : Turns :=
  { t with current := none }

/-- The one who goes on is no longer just after a wait. -/
def goOn (t : Turns) (a : Actor) : Turns :=
  { t with current := some (a, false) }

/-- The one who goes on steps aside until a time. -/
def wait (t : Turns) (a : Actor) (time : Nat) : Turns :=
  { t.pause with waits := t.waits ++ [(a, time)] }

/-- Whether someone waits for a time. -/
def isWaiting (t : Turns) (a : Actor) : Bool :=
  t.waits.any (·.1 == a)

/-- Puts someone at the end of the line. -/
def join (t : Turns) (a : Actor) : Turns :=
  { t with line := t.line ++ [(a, false)] }

/-- Puts the main loop into the line, unless it stands there. -/
def rouse (t : Turns) : Turns :=
  if t.line.any (·.1 == .main) then t else t.join .main

/-- A roused main loop stands in the line. -/
theorem main_mem_line_rouse (t : Turns) : ∃ w, (Actor.main, w) ∈ t.rouse.line := by
  unfold rouse
  split
  next h =>
    obtain ⟨⟨a, w⟩, hmem, ha⟩ := List.any_eq_true.1 h
    have : a = .main := by simpa using ha
    exact ⟨w, this ▸ hmem⟩
  next => exact ⟨false, by simp [join]⟩

/-- Rousing twice is rousing once. -/
theorem rouse_rouse (t : Turns) : t.rouse.rouse = t.rouse := by
  obtain ⟨w, h⟩ := t.main_mem_line_rouse
  have : t.rouse.line.any (·.1 == .main) := List.any_eq_true.2 ⟨_, h, by simp⟩
  generalize t.rouse = u at this
  simp [rouse, this]

/-- The main loop takes a step of its turn. -/
def spend (t : Turns) : Turns :=
  { t with effort := t.effort.spend 1 }

/-- The main loop gives way. -/
def giveWay (t : Turns) : Turns :=
  { t.pause with gaveWay := true }

/-- The main loop steps aside until a change is reported or a download has finished. -/
def awaitChange (t : Turns) : Turns :=
  { t.pause with wantsChange := true }

/-- The main loop steps aside until the channel has room. -/
def awaitRoom (t : Turns) : Turns :=
  { t.pause with wantsRoom := true }

/-- The main loop looks whether a download has finished, and is told from then on. -/
def watchResults (t : Turns) : Turns :=
  { t with wantsResult := true }

/-- A change was reported. -/
def changed (t : Turns) : Turns :=
  if t.wantsChange then { t.rouse with wantsChange := false } else t

/-- A download has finished. -/
def finished (t : Turns) : Turns :=
  if t.wantsResult then { t.rouse with wantsResult := false } else t

/-- The channel has room. -/
def emptied (t : Turns) : Turns :=
  if t.wantsRoom then { t.rouse with wantsRoom := false } else t

/-- What a download did to the state comes to the main loop's attention. -/
def after (before after : State) (t : Turns) : Turns :=
  let t := if before.deltas.length < after.deltas.length then t.changed else t
  if before.free < after.free then t.finished else t

/-- The next turn of the round begins. -/
def next? (t : Turns) : Option Turns :=
  match t.line, t.left with
  | next :: line, left + 1 =>
    some { t with current := some next, line, left, effort := .full }
  | _, _ => none

/-- A new round begins. -/
def newRound (t : Turns) : Turns :=
  { (if t.gaveWay then t.rouse else t) with left := roundLength, gaveWay := false }

/-- The wait that ends first. -/
def earliest? (t : Turns) : Option (Actor × Nat) :=
  t.waits.foldl (fun best w =>
    match best with
    | none => some w
    | some b => if w.2 < b.2 then some w else some b) none

/-- Someone's wait ends, and with it a new round begins. -/
def endWait (t : Turns) (a : Actor) : Turns :=
  let t := t.newRound
  { t with waits := t.waits.filter (·.1 != a), line := t.line ++ [(a, true)] }

end Turns

end FolderCopy.Simulation
