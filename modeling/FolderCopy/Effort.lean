/-!
# Effort

What someone may do in one turn before the others get theirs: a limited number of steps. Main
statement: whoever has none left steps aside and comes back with all of them.
-/

namespace FolderCopy

/-- The steps that are left in a turn. -/
structure Effort where
  left : Nat
  deriving DecidableEq, Repr

namespace Effort

/-- The steps of a whole turn. -/
def full : Effort :=
  ⟨128⟩

/-- Whether no step is left. -/
def isSpent (e : Effort) : Bool :=
  e.left == 0

/-- Takes some steps, as far as they go. -/
def spend (e : Effort) (n : Nat) : Effort :=
  ⟨e.left - n⟩

/-- Steps aside if no step is left. -/
def renew (e : Effort) : Effort :=
  if e.isSpent then full else e

/-- Takes a step, after stepping aside where that is needed. -/
def step (e : Effort) : Effort :=
  e.renew.spend 1

/-- After stepping aside there are always steps left. -/
theorem isSpent_renew (e : Effort) : e.renew.isSpent = false := by
  unfold renew
  cases h : e.isSpent
  · simpa using h
  · rfl

end Effort

end FolderCopy
