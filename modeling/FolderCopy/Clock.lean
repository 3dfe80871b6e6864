/-!
# The clock

Times and lengths of time are whole nanoseconds, times since the clock began. A timer does not go
off at any moment: it goes off at the first whole millisecond of the clock that is not too early.
Main statement: from a whole millisecond on, to wait for a length of time is to wait for that length
rounded up.
-/

namespace FolderCopy.Clock

/-- The nanoseconds of a millisecond, at which timers go off. -/
def millisecond : Nat := 1000000

/-- A time or a length of time, rounded up to whole milliseconds. -/
def roundUp (time : Nat) : Nat :=
  time + (millisecond - time % millisecond) % millisecond

/-- Whether a time, or a length of time, is made of whole milliseconds. -/
def IsWhole (time : Nat) : Prop :=
  time % millisecond = 0

instance : DecidablePred IsWhole :=
  fun time => inferInstanceAs (Decidable (time % millisecond = 0))

variable {now time : Nat}

/-- A timer never goes off early. -/
theorem le_roundUp (time : Nat) : time ≤ roundUp time := by
  unfold roundUp millisecond
  omega

/-- A timer goes off at a whole millisecond. -/
theorem isWhole_roundUp (time : Nat) : IsWhole (roundUp time) := by
  unfold IsWhole roundUp millisecond
  omega

/-- A timer that is set for a whole millisecond goes off just then. -/
theorem roundUp_of_isWhole (h : IsWhole time) : roundUp time = time := by
  unfold IsWhole millisecond at h
  unfold roundUp millisecond
  omega

/-- The clock begins at a whole millisecond. -/
theorem isWhole_zero : IsWhole 0 :=
  Nat.zero_mod _

/-- Where no time is waited for, none passes. -/
theorem roundUp_zero : roundUp 0 = 0 :=
  roundUp_of_isWhole isWhole_zero

/-- From one whole millisecond to another it is whole milliseconds. -/
theorem IsWhole.sub (h : IsWhole time) (h' : IsWhole now) : IsWhole (time - now) := by
  unfold IsWhole millisecond at *
  omega

/-- What is whole milliseconds long ends at a whole millisecond if it begins at one. -/
theorem IsWhole.add (h : IsWhole now) (h' : IsWhole time) : IsWhole (now + time) := by
  unfold IsWhole millisecond at *
  omega

/-- A timer that is set at a whole millisecond takes its time, rounded up. -/
theorem roundUp_add (h : IsWhole now) (time : Nat) : roundUp (now + time) = now + roundUp time := by
  unfold IsWhole millisecond at h
  unfold roundUp millisecond
  omega

end FolderCopy.Clock
