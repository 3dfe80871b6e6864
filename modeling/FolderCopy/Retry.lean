import FolderCopy.CopyError
import FolderCopy.Dialogue

/-!
# Retried calls

Every call to the remote store is made under a policy that allows some number of attempts. Each
attempt asks the limiter for admission first and gives the permit back when the call returned. What
the outcome of an attempt means is said once (`verdict`), and both readings of the policy use it:
the dialogue that makes the attempts one after the other, and the stages in which a retried call
stands while other work goes on beside it.
-/

namespace FolderCopy.Retry

/-- How many attempts a call may take, at least one. -/
structure Policy where
  maxAttempts : Nat
  pos : 0 < maxAttempts
  deriving DecidableEq, Repr

/-- What the outcome of an attempt means. -/
inductive Verdict (α : Type) where
  /-- No further attempt is made. -/
  | settled (r : Except CopyError α)
  /-- A further attempt may help. -/
  | passing (e : CallError)

/-- The verdict on an attempt. The resource names what the call is about: it is the path of a
missing resource and introduces every other error. -/
def verdict {α : Type} (resource : String) : Except CallError α → Verdict α
  | .ok a => .settled (.ok a)
  | .error e =>
    match e.outlook with
    | .absent => .settled (.error (.notFound resource e.message))
    | .hopeless => .settled (.error (.fatalIn resource e.message))
    | .passing => .passing e

/-- The error of a call that was not admitted. -/
def refused (e : CallError) : CopyError :=
  .fatalIn "Admission refused" e.message

/-- The error of a call whose attempts are spent. -/
def spent (resource : String) (attempts : Nat) (e : CallError) : CopyError :=
  .transient attempts (resource ++ ": " ++ e.message)

namespace Policy

/-- The policy with a number of attempts, none counting as one. -/
def ofNat (n : Nat) : Policy :=
  ⟨max 1 n, by omega⟩

/-- Three attempts. -/
def standard : Policy :=
  ofNat 3

/-- The policy as shown to a developer. -/
def describe (p : Policy) : String :=
  "RetryPolicy \x7b max_attempts: " ++ toString p.maxAttempts ++ ", .. \x7d"

/-- What is reported about the outcome of the attempt number `n`. -/
def reports {α : Type} (p : Policy) (resource : String) (n : Nat) :
    Except CallError α → List Log.Event
  | .ok _ =>
    if n ≤ 1 then []
    else [Log.Component.retry.event .debug "Remote call recovered"
      [("resource", resource), ("attempt", toString n)]]
  | .error e =>
    if !e.isRetryable then []
    else if n < p.maxAttempts then
      [Log.Component.retry.event .warn "Remote call failed, retrying"
        [("resource", resource), ("attempt", toString n),
          ("max_attempts", toString p.maxAttempts), ("error", e.message)]]
    else
      [Log.Component.retry.event .warn "Remote call failed, giving up"
        [("resource", resource), ("attempts", toString n), ("error", e.message)]]

end Policy

section Dialogues

variable {Q : Type} {A : Q → Type}

/-- The attempt number `n`, and what follows where a further attempt may help. -/
def attempt (p : Policy) (resource : String) (q : Q) (n : Nat)
    (again : CallError → Dialogue Q A (Except CopyError (A q))) :
    Dialogue Q A (Except CopyError (A q)) :=
  .acquire fun
    | .error e => .done (.error (refused e))
    | .ok () => .call q fun r => .release <| .notes (p.reports resource n r) <|
        match verdict resource r with
        | .settled x => .done x
        | .passing e => again e

/-- The attempts from number `n` on, where `left` more may follow the first of them. -/
def attempts (p : Policy) (resource : String) (q : Q) :
    (left n : Nat) → Dialogue Q A (Except CopyError (A q))
  | 0, n => attempt p resource q n fun e => .done (.error (spent resource n e))
  | left + 1, n => attempt p resource q n fun _ => attempts p resource q left (n + 1)

/-- A call under a policy. -/
def Policy.run (p : Policy) (resource : String) (q : Q) :
    Dialogue Q A (Except CopyError (A q)) :=
  attempts p resource q (p.maxAttempts - 1) 1

end Dialogues

/-- Where a retried call stands; attempts count from one. -/
inductive Stage where
  /-- The limiter is asked for admission. -/
  | asking (n : Nat)
  /-- A permit is held and the call has not been started. -/
  | admitted (n : Nat)
  /-- The call is under way. -/
  | calling (n : Nat)
  deriving DecidableEq, Repr

namespace Stage

/-- Before the first attempt. -/
def first : Stage :=
  .asking 1

/-- The number of the attempt. -/
def number : Stage → Nat
  | .asking n | .admitted n | .calling n => n

/-- Whether a permit is held. -/
def holdsPermit : Stage → Bool
  | .asking _ => false
  | .admitted _ | .calling _ => true

end Stage

/-- A retried call after the outcome of the attempt number `n`: settled, or at a further attempt. -/
def Policy.after {α : Type} (p : Policy) (resource : String) (n : Nat) (r : Except CallError α) :
    Except CopyError α ⊕ Stage :=
  match verdict resource r with
  | .settled x => .inl x
  | .passing e =>
    if n < p.maxAttempts then .inr (.asking (n + 1)) else .inl (.error (spent resource n e))

end FolderCopy.Retry
