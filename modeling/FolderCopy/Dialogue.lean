import FolderCopy.CallError
import FolderCopy.Log.Event

/-!
# Dialogues

An operation that makes one call after the other is a finite tree: it asks for admission, makes a
call, reports an event, and goes on with what it was answered. What the answers are is left to a
host, so one operation is run against any surroundings, and what it does whatever it is answered is
read off the tree.
-/

namespace FolderCopy

/-- An operation with result `α` that makes calls `Q`, a call `q` being answered by an `A q` or an
error. -/
inductive Dialogue (Q : Type) (A : Q → Type) (α : Type) where
  | done (a : α)
  /-- Asks the limiter for admission and holds the permit it grants. -/
  | acquire (next : Except CallError Unit → Dialogue Q A α)
  /-- Gives the permit back. -/
  | release (next : Dialogue Q A α)
  | call (q : Q) (next : Except CallError (A q) → Dialogue Q A α)
  | note (e : Log.Event) (next : Dialogue Q A α)
  | enter (s : Log.Span) (next : Dialogue Q A α)
  | leave (next : Dialogue Q A α)

namespace Dialogue

variable {Q : Type} {A : Q → Type} {α β : Type}

/-- Goes on with the result of a dialogue. -/
def bind (d : Dialogue Q A α) (f : α → Dialogue Q A β) : Dialogue Q A β :=
  match d with
  | .done a => f a
  | .acquire next => .acquire fun r => (next r).bind f
  | .release next => .release (next.bind f)
  | .call q next => .call q fun r => (next r).bind f
  | .note e next => .note e (next.bind f)
  | .enter s next => .enter s (next.bind f)
  | .leave next => .leave (next.bind f)

instance : Monad (Dialogue Q A) where
  pure := .done
  bind := bind

/-- Reports events one after the other. -/
def notes (es : List Log.Event) (next : Dialogue Q A α) : Dialogue Q A α :=
  es.foldr .note next

/-- A dialogue inside a span. -/
def within (s : Log.Span) (d : Dialogue Q A α) : Dialogue Q A α :=
  .enter s (d.bind fun a => .leave (.done a))

/-- Goes on with the value of a dialogue that may fail; an error ends it. -/
def andThen {ε : Type} (d : Dialogue Q A (Except ε α)) (f : α → Dialogue Q A (Except ε β)) :
    Dialogue Q A (Except ε β) :=
  d.bind fun
    | .ok a => f a
    | .error e => .done (.error e)

/-- A dialogue that may fail, with its error changed. -/
def mapError {ε δ : Type} (f : ε → δ) (d : Dialogue Q A (Except ε α)) :
    Dialogue Q A (Except δ α) :=
  d.bind fun r => .done (r.mapError f)

end Dialogue

/-- Surroundings that answer a dialogue, with a state of their own. -/
structure Host (Q : Type) (A : Q → Type) (σ : Type) where
  acquire : σ → Except CallError Unit × σ
  release : σ → σ
  call : (q : Q) → σ → Except CallError (A q) × σ
  note : Log.Event → σ → σ
  enter : Log.Span → σ → σ
  leave : σ → σ

/-- The result of a dialogue with a host, and the host's state after it. -/
def Dialogue.run {Q : Type} {A : Q → Type} {α σ : Type} (h : Host Q A σ) :
    Dialogue Q A α → σ → α × σ
  | .done a, s => (a, s)
  | .acquire next, s => (next (h.acquire s).1).run h (h.acquire s).2
  | .release next, s => next.run h (h.release s)
  | .call q next, s => (next (h.call q s).1).run h (h.call q s).2
  | .note e next, s => next.run h (h.note e s)
  | .enter sp next, s => next.run h (h.enter sp s)
  | .leave next, s => next.run h (h.leave s)

/-- Running a dialogue and going on with its result is running the two in turn. -/
theorem Dialogue.run_bind {Q : Type} {A : Q → Type} {α β σ : Type} (h : Host Q A σ)
    (d : Dialogue Q A α) (f : α → Dialogue Q A β) (s : σ) :
    (d.bind f).run h s = (f (d.run h s).1).run h (d.run h s).2 := by
  induction d generalizing s with
  | done a => rfl
  | acquire next ih => exact ih _ _
  | release next ih => exact ih _
  | call q next ih => exact ih _ _
  | note e next ih => exact ih _
  | enter sp next ih => exact ih _
  | leave next ih => exact ih _

end FolderCopy
