import FolderCopy.Log.Event
import FolderCopy.Text.Numeral

/-!
# Thresholds

How important an event must be to be let through. Main statement: the wider of two thresholds lets
through what either of them does.
-/

namespace FolderCopy.Log

/-- The least important level that is let through; nothing is if there is none. -/
abbrev Threshold := Option Level

namespace Threshold

/-- Whether a level is let through. -/
def allows (t : Threshold) (l : Level) : Bool :=
  match t with
  | none => false
  | some least => least.rank ≤ l.rank

/-- The threshold that lets more through. -/
def widest (a b : Threshold) : Threshold :=
  match a, b with
  | none, b => b
  | a, none => a
  | some a, some b => if a.rank ≤ b.rank then some a else some b

/-- The wider of two thresholds lets through what either of them does. -/
theorem allows_widest (a b : Threshold) (l : Level) :
    (a.widest b).allows l = (a.allows l || b.allows l) := by
  cases a with
  | none => simp [widest, allows]
  | some a =>
    cases b with
    | none => simp [widest, allows]
    | some b =>
      by_cases h : a.rank ≤ b.rank <;> simp only [widest, allows, h, if_true, if_false] <;>
        rw [Bool.eq_iff_iff, Bool.or_eq_true, decide_eq_true_eq, decide_eq_true_eq] <;> omega

/-- The threshold that a number names: `0` lets nothing through and `5` everything. -/
def ofNumber? (n : Nat) : Option Threshold :=
  match n with
  | 0 => some none
  | 1 => some (some .error)
  | 2 => some (some .warn)
  | 3 => some (some .info)
  | 4 => some (some .debug)
  | 5 => some (some .trace)
  | _ => none

/-- The threshold that a word names, in either case. -/
def ofWord? (s : String) : Option Threshold :=
  let word := String.ofList (s.toList.map Char.toLower)
  if word = "off" then some none
  else if word = "" then some (some .error)
  else (Level.all.find? (·.name == word)).map some

/-- The threshold that a text names, by number or by word. -/
def ofText? (s : String) : Option Threshold :=
  match Text.count? s with
  | some n => ofNumber? n
  | none => ofWord? s

end Threshold

end FolderCopy.Log
