import Mathlib.Tactic.Lemma
import FolderCopy.Dialogue

/-!
# What passes between a dialogue and its host

The answers that a dialogue gets are up to its host. `exchanges` lists what is asked and answered in
a run against a host, and `Yields` says what a run passes and comes to, with a law for each way in
which dialogues are put together. Which calls a dialogue makes whatever it is answered is said by
`Calls`, without a host.
-/

namespace FolderCopy

/-- Something that passes between a dialogue and its host, reports apart. -/
inductive Exchange (Q : Type) (A : Q → Type) where
  | admission (r : Except CallError Unit)
  /-- The permit is given back. -/
  | release
  | call (q : Q) (r : Except CallError (A q))

/-- Whether an exchange is a call that failed. -/
def Exchange.isFailure {Q : Type} {A : Q → Type} : Exchange Q A → Bool
  | .call _ (.error _) => true
  | _ => false

/-- Whether an exchange is no refusal, and no failure that asking again cannot help. -/
def Exchange.isHarmless {Q : Type} {A : Q → Type} : Exchange Q A → Bool
  | .admission (.error _) => false
  | .call _ (.error e) => e.isRetryable
  | _ => true

/-- Whether a host keeps a view of its state whatever is asked of it, as far as its calls are of
some kind. -/
structure Host.Keeps {Q : Type} {A : Q → Type} {σ V : Type} (h : Host Q A σ) (P : Q → Prop)
    (view : σ → V) : Prop where
  acquire : ∀ s, view (h.acquire s).2 = view s
  release : ∀ s, view (h.release s) = view s
  call : ∀ q, P q → ∀ s, view (h.call q s).2 = view s
  note : ∀ e s, view (h.note e s) = view s
  enter : ∀ sp s, view (h.enter sp s) = view s
  leave : ∀ s, view (h.leave s) = view s

/-- Whether a host that is in a state of some kind stays so until it answers a call with success,
and what the answer and the state are then. -/
structure Host.Answers {Q : Type} {A : Q → Type} {σ : Type} (h : Host Q A σ) (q : Q)
    (before : σ → Prop) (after : A q → σ → Prop) : Prop where
  acquire : ∀ s, before s → before (h.acquire s).2
  release : ∀ s, before s → before (h.release s)
  note : ∀ e s, before s → before (h.note e s)
  failed : ∀ s e, before s → (h.call q s).1 = .error e → before (h.call q s).2
  answered : ∀ s a, before s → (h.call q s).1 = .ok a → after a (h.call q s).2
  released : ∀ a s, after a s → after a (h.release s)
  noted : ∀ a e s, after a s → after a (h.note e s)

/-- A host that keeps a view answers calls in states with this view. -/
lemma Host.Keeps.answers {Q : Type} {A : Q → Type} {σ V : Type} {h : Host Q A σ} {P : Q → Prop}
    {view : σ → V} (hk : h.Keeps P view) {q : Q} (hq : P q) (v : V) :
    h.Answers q (view · = v) fun a _ => ∃ s, view s = v ∧ (h.call q s).1 = .ok a where
  acquire s hs := (hk.acquire s).trans hs
  release s hs := (hk.release s).trans hs
  note e s hs := (hk.note e s).trans hs
  failed s _ hs _ := (hk.call q hq s).trans hs
  answered s _ hs hr := ⟨s, hs, hr⟩
  released _ _ := id
  noted _ _ _ := id

/-- Whether a host answers as another one does while the states of the two are related, as far as
its calls are of some kind. -/
structure Host.Simulates {Q : Type} {A : Q → Type} {σ τ : Type} (h : Host Q A σ) (h' : Host Q A τ)
    (P : Q → Prop) (R : σ → τ → Prop) : Prop where
  acquire : ∀ s t, R s t →
    (h.acquire s).1 = (h'.acquire t).1 ∧ R (h.acquire s).2 (h'.acquire t).2
  release : ∀ s t, R s t → R (h.release s) (h'.release t)
  call : ∀ q, P q → ∀ s t, R s t →
    (h.call q s).1 = (h'.call q t).1 ∧ R (h.call q s).2 (h'.call q t).2
  note : ∀ e s t, R s t → R (h.note e s) (h'.note e t)
  enter : ∀ sp s t, R s t → R (h.enter sp s) (h'.enter sp t)
  leave : ∀ s t, R s t → R (h.leave s) (h'.leave t)

namespace Dialogue

variable {Q : Type} {A : Q → Type} {α β γ ε δ σ V : Type}

/-- What passes between a dialogue and its host, in order. -/
def exchanges (h : Host Q A σ) : Dialogue Q A α → σ → List (Exchange Q A)
  | .done _, _ => []
  | .acquire next, s =>
    .admission (h.acquire s).1 :: (next (h.acquire s).1).exchanges h (h.acquire s).2
  | .release next, s => .release :: next.exchanges h (h.release s)
  | .call q next, s => .call q (h.call q s).1 :: (next (h.call q s).1).exchanges h (h.call q s).2
  | .note e next, s => next.exchanges h (h.note e s)
  | .enter sp next, s => next.exchanges h (h.enter sp s)
  | .leave next, s => next.exchanges h (h.leave s)

/-- Whether a dialogue passes given exchanges with a host, and ends with a given result. -/
def Yields (h : Host Q A σ) (s : σ) (d : Dialogue Q A α) (xs : List (Exchange Q A)) (a : α) :
    Prop :=
  d.exchanges h s = xs ∧ (d.run h s).1 = a

/-- Whether all calls of a dialogue are of some kind, whatever it is answered. -/
def Calls (P : Q → Prop) : Dialogue Q A α → Prop
  | .done _ => True
  | .acquire next => ∀ r, (next r).Calls P
  | .release next | .note _ next | .enter _ next | .leave next => next.Calls P
  | .call q next => P q ∧ ∀ r, (next r).Calls P

section Laws

variable (h : Host Q A σ) (d : Dialogue Q A α) (f : α → Dialogue Q A β) (s : σ)

/-- The exchanges of two dialogues one after the other are those of the first, then those of the
second. -/
lemma exchanges_bind :
    (d.bind f).exchanges h s = d.exchanges h s ++ (f (d.run h s).1).exchanges h (d.run h s).2 := by
  induction d generalizing s with
  | done a => rfl
  | acquire next ih | call q next ih => exact congrArg _ (ih _ _)
  | release next ih => exact congrArg _ (ih _)
  | note e next ih | enter sp next ih | leave next ih => exact ih _

/-- What a report keeps, several reports keep. -/
lemma foldl_note {K : σ → Prop} (hk : ∀ e s, K s → K (h.note e s)) (es : List Log.Event) {s : σ}
    (hs : K s) : K (es.foldl (fun s e => h.note e s) s) := by
  induction es generalizing s with
  | nil => exact hs
  | cons e es ih => exact ih (hk e s hs)

/-- Reports ahead of a dialogue are told to the host, and the dialogue runs as it does after that.
-/
lemma run_notes (es : List Log.Event) :
    (notes es d).run h s = d.run h (es.foldl (fun s e => h.note e s) s) := by
  induction es generalizing s with
  | nil => rfl
  | cons e es ih => exact ih _

/-- Reports are no exchanges. -/
lemma exchanges_notes (es : List Log.Event) :
    (notes es d).exchanges h s = d.exchanges h (es.foldl (fun s e => h.note e s) s) := by
  induction es generalizing s with
  | nil => rfl
  | cons e es ih => exact ih _

variable {h d f s} {xs ys : List (Exchange Q A)} {a : α} {b : β} {e : ε}

/-- Two dialogues one after the other pass the exchanges of both. -/
lemma Yields.bind (hd : d.Yields h s xs a) (hf : (f a).Yields h (d.run h s).2 ys b) :
    (d.bind f).Yields h s (xs ++ ys) b := by
  obtain ⟨rfl, rfl⟩ := hd
  obtain ⟨rfl, rfl⟩ := hf
  exact ⟨exchanges_bind h d f s, congrArg Prod.fst (run_bind h d f s)⟩

/-- A dialogue that is over after another one, with a result made of that one's. -/
lemma Yields.bind_done (hd : d.Yields h s xs a) (hf : f a = .done b) :
    (d.bind f).Yields h s xs b := by
  rw [← List.append_nil xs]
  apply hd.bind
  rw [hf]
  exact ⟨rfl, rfl⟩

/-- A dialogue that goes on from an answer passes the exchanges of both of its parts. -/
lemma Yields.andThen {d : Dialogue Q A (Except ε α)} {f : α → Dialogue Q A (Except ε β)}
    {r : Except ε β} (hd : d.Yields h s xs (.ok a)) (hf : (f a).Yields h (d.run h s).2 ys r) :
    (d.andThen f).Yields h s (xs ++ ys) r :=
  Yields.bind hd hf

/-- A dialogue that goes on from an answer runs as what follows the answer. -/
lemma Yields.run_andThen {d : Dialogue Q A (Except ε α)} (hd : d.Yields h s xs (.ok a))
    (f : α → Dialogue Q A (Except ε β)) : (d.andThen f).run h s = (f a).run h (d.run h s).2 := by
  rw [Dialogue.andThen, run_bind, hd.2]

/-- A dialogue that would go on from an answer ends with an error instead. -/
lemma Yields.andThen_error {d : Dialogue Q A (Except ε α)} (hd : d.Yields h s xs (.error e))
    (f : α → Dialogue Q A (Except ε β)) : (d.andThen f).Yields h s xs (.error e) :=
  hd.bind_done rfl

/-- Another wording of the error changes no exchange. -/
lemma Yields.mapError {d : Dialogue Q A (Except ε α)} {r : Except ε α} (hd : d.Yields h s xs r)
    (f : ε → δ) : (d.mapError f).Yields h s xs (r.mapError f) :=
  hd.bind_done rfl

/-- A span around a dialogue is told to the host and changes no exchange. -/
lemma Yields.within {sp : Log.Span} (hd : d.Yields h (h.enter sp s) xs a) :
    (within sp d).Yields h s xs a := by
  rw [← List.append_nil xs]
  exact Yields.bind hd ⟨rfl, rfl⟩

end Laws

section Calls

variable {P : Q → Prop} {d : Dialogue Q A α}

/-- Calls of two dialogues one after the other are calls of one of them. -/
lemma Calls.bind {f : α → Dialogue Q A β} (hd : d.Calls P) (hf : ∀ a, (f a).Calls P) :
    (d.bind f).Calls P := by
  induction d with
  | done a => exact hf a
  | acquire next ih => exact fun r => ih r (hd r)
  | call q next ih => exact ⟨hd.1, fun r => ih r (hd.2 r)⟩
  | release next ih | note e next ih | enter sp next ih | leave next ih => exact ih hd

/-- Calls of a dialogue that goes on from an answer are calls of one of its parts. -/
lemma Calls.andThen {d : Dialogue Q A (Except ε α)} {f : α → Dialogue Q A (Except ε β)}
    (hd : d.Calls P) (hf : ∀ a, (f a).Calls P) : (d.andThen f).Calls P := by
  apply hd.bind
  intro r
  cases r with
  | ok a => exact hf a
  | error e => trivial

/-- Another wording of the error makes no call. -/
lemma Calls.mapError {d : Dialogue Q A (Except ε α)} {f : ε → δ} (hd : d.Calls P) :
    (d.mapError f).Calls P :=
  hd.bind fun _ => trivial

/-- A span around a dialogue makes no call. -/
lemma Calls.within {sp : Log.Span} (hd : d.Calls P) : (within sp d).Calls P :=
  Calls.bind hd fun _ => trivial

/-- Reports make no calls. -/
lemma Calls.notes {es : List Log.Event} (hd : d.Calls P) : (notes es d).Calls P := by
  induction es with
  | nil => exact hd
  | cons e es ih => exact ih

/-- Calls of one kind are calls of every wider kind. -/
lemma Calls.mono {P' : Q → Prop} (hd : d.Calls P) (hP : ∀ q, P q → P' q) : d.Calls P' := by
  induction d with
  | done a => trivial
  | acquire next ih => exact fun r => ih r (hd r)
  | call q next ih => exact ⟨hP q hd.1, fun r => ih r (hd.2 r)⟩
  | release next ih | note e next ih | enter sp next ih | leave next ih => exact ih hd

/-- A view that the calls of a dialogue keep is the same after it as before. -/
lemma view_run {h : Host Q A σ} {view : σ → V} (hk : h.Keeps P view) (hd : d.Calls P) (s : σ) :
    view (d.run h s).2 = view s := by
  induction d generalizing s with
  | done a => rfl
  | acquire next ih => exact (ih _ (hd _) _).trans (hk.acquire s)
  | release next ih => exact (ih hd _).trans (hk.release s)
  | call q next ih => exact (ih _ (hd.2 _) _).trans (hk.call q hd.1 s)
  | note e next ih => exact (ih hd _).trans (hk.note e s)
  | enter sp next ih => exact (ih hd _).trans (hk.enter sp s)
  | leave next ih => exact (ih hd _).trans (hk.leave s)

/-- A dialogue comes to the same with a host that answers as another one does. -/
lemma run_simulates {τ : Type} {h : Host Q A σ} {h' : Host Q A τ} {R : σ → τ → Prop}
    (hsim : h.Simulates h' P R) (hd : d.Calls P) {s : σ} {t : τ} (hs : R s t) :
    (d.run h s).1 = (d.run h' t).1 ∧ R (d.run h s).2 (d.run h' t).2 := by
  induction d generalizing s t with
  | done a => exact ⟨rfl, hs⟩
  | acquire next ih =>
    obtain ⟨heq, hstate⟩ := hsim.acquire s t hs
    simp only [run, heq]
    exact ih _ (hd _) hstate
  | release next ih => exact ih hd (hsim.release s t hs)
  | call q next ih =>
    obtain ⟨heq, hstate⟩ := hsim.call q hd.1 s t hs
    simp only [run, heq]
    exact ih _ (hd.2 _) hstate
  | note e next ih => exact ih hd (hsim.note e s t hs)
  | enter sp next ih => exact ih hd (hsim.enter sp s t hs)
  | leave next ih => exact ih hd (hsim.leave s t hs)

/-- The calls of a dialogue are of the kind that it makes, with any host. -/
lemma calls_exchanges {h : Host Q A σ} (hd : d.Calls P) {s : σ} {q : Q}
    {r : Except CallError (A q)} (hm : .call q r ∈ d.exchanges h s) : P q := by
  induction d generalizing s with
  | done a => cases hm
  | acquire next ih =>
    rcases List.mem_cons.1 hm with hm | hm
    · cases hm
    · exact ih _ (hd _) hm
  | release next ih =>
    rcases List.mem_cons.1 hm with hm | hm
    · cases hm
    · exact ih hd hm
  | call q' next ih =>
    rcases List.mem_cons.1 hm with hm | hm
    · cases hm
      exact hd.1
    · exact ih _ (hd.2 _) hm
  | note e next ih | enter sp next ih | leave next ih => exact ih hd hm

end Calls

end Dialogue

end FolderCopy
