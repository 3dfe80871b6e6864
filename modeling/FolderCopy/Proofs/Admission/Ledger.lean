import Mathlib.Data.List.Induction
import FolderCopy.Service
import FolderCopy.Proofs.Exchanges

/-!
# Permits and calls

What the limiter and the store see of one party are marks: it is admitted or refused, its call is
started and returns, its permit is given back. `Phase.next` says which mark may follow in which
phase, so marks that can be followed from the first phase on are whole rounds and the beginning of
one more (`Phase.exists_rounds`). `Heeds` says of a dialogue that it keeps to this order whatever it
is answered, and the dialogues of the service do.
-/

namespace FolderCopy.Admission

/-- What a party holds of the limiter. -/
inductive Permit where
  | none
  /-- A permit whose call has not been started. -/
  | fresh
  /-- A permit whose call has been started. -/
  | used
  deriving DecidableEq, Repr

def Permit.isFresh : Permit → Bool
  | .fresh => true
  | .none | .used => false

/-- What the limiter and the store see of a party. -/
inductive Mark where
  | granted
  | refused
  | started (c : StoreCall)
  | returned
  /-- The permit is given back after the call returned. -/
  | released
  /-- The permit is given back before its call was started, by a party that is given up. -/
  | forfeited
  /-- The permit is given back while its call is under way, by a party that is given up. -/
  | interrupted
  deriving DecidableEq, Repr

namespace Mark

def isGranted : Mark → Bool
  | .granted => true
  | _ => false

def isStarted : Mark → Bool
  | .started _ => true
  | _ => false

def isForfeited : Mark → Bool
  | .forfeited => true
  | _ => false

end Mark

/-- The marks of a call that is admitted and returns: it has a permit of its own, which is given
back before anything else. -/
def round (c : StoreCall) : List Mark :=
  [.granted, .started c, .returned, .released]

/-- How far a party has come since it last gave a permit back. -/
inductive Phase where
  | idle
  | granted
  | calling
  /-- The call has returned and the permit is still held. -/
  | answered
  /-- The party was refused, or given up while it held a permit: it makes no call any more. -/
  | stopped
  deriving DecidableEq, Repr

namespace Phase

def permit : Phase → Permit
  | .idle | .stopped => .none
  | .granted => .fresh
  | .calling | .answered => .used

/-- The phase after a mark; none if the mark is out of order. -/
def next : Phase → Mark → Option Phase
  | .idle, .granted => some .granted
  | .idle, .refused => some .stopped
  | .granted, .started _ => some .calling
  | .granted, .forfeited => some .stopped
  | .calling, .returned => some .answered
  | .calling, .interrupted => some .stopped
  | .answered, .released => some .idle
  | _, _ => none

def after (ph : Phase) (ms : List Mark) : Option Phase :=
  ms.foldlM next ph

/-- The marks since a party last gave a permit back, by its phase. -/
inductive Tail : Phase → List Mark → Prop where
  | idle : Tail .idle []
  | refused : Tail .stopped [.refused]
  | granted : Tail .granted [.granted]
  | forfeited : Tail .stopped [.granted, .forfeited]
  | calling (c : StoreCall) : Tail .calling [.granted, .started c]
  | interrupted (c : StoreCall) : Tail .stopped [.granted, .started c, .interrupted]
  | answered (c : StoreCall) : Tail .answered [.granted, .started c, .returned]

variable {ph ph' ph'' : Phase} {ms ms' : List Mark}

/-- Marks follow one another as the phases that they lead through. -/
lemma after_append (h : ph.after ms = some ph') (h' : ph'.after ms' = some ph'') :
    ph.after (ms ++ ms') = some ph'' := by
  rw [after, List.foldlM_append, ← after, h]
  exact h'

/-- Marks in order are whole rounds and the beginning of one more. -/
theorem exists_rounds (h : Phase.idle.after ms = some ph) :
    ∃ (cs : List StoreCall) (tail : List Mark), ms = cs.flatMap round ++ tail ∧ Tail ph tail := by
  -- From the back: the last mark ends a round, or goes on with the one that was begun.
  induction ms using List.reverseRecOn generalizing ph with
  | nil =>
    cases h
    exact ⟨[], [], rfl, .idle⟩
  | append_singleton ms m ih =>
    rw [after, List.foldlM_append] at h
    obtain ⟨ph₀, h₀, h⟩ := Option.bind_eq_some_iff.1 h
    obtain ⟨ph₁, hm, h⟩ := Option.bind_eq_some_iff.1 h
    cases h
    obtain ⟨cs, tail, rfl, htail⟩ := ih h₀
    rw [List.append_assoc]
    cases htail with
    | idle =>
      cases m <;> cases hm
      · exact ⟨cs, _, rfl, .granted⟩
      · exact ⟨cs, _, rfl, .refused⟩
    | granted =>
      cases m <;> cases hm
      · exact ⟨cs, _, rfl, .calling _⟩
      · exact ⟨cs, _, rfl, .forfeited⟩
    | calling c =>
      cases m <;> cases hm
      · exact ⟨cs, _, rfl, .answered c⟩
      · exact ⟨cs, _, rfl, .interrupted c⟩
    | answered c =>
      cases m <;> cases hm
      exact ⟨cs ++ [c], [], by simp [round], .idle⟩
    | refused | forfeited | interrupted c => cases m <;> cases hm

/-- A mark keeps the account of fresh permits: granted on one side, started and forfeited on the
other. -/
lemma countP_next {m : Mark} (h : ph.next m = some ph') :
    m.isGranted.toNat + ph.permit.isFresh.toNat =
      m.isStarted.toNat + m.isForfeited.toNat + ph'.permit.isFresh.toNat := by
  cases ph <;> cases m <;> cases h <;> rfl

/-- Every permit that was granted is fresh, or its call was started, or it was forfeited. -/
lemma countP_after (h : ph.after ms = some ph') :
    ms.countP Mark.isGranted + ph.permit.isFresh.toNat =
      ms.countP Mark.isStarted + ms.countP Mark.isForfeited + ph'.permit.isFresh.toNat := by
  have htoNat (b : Bool) : (if b then 1 else 0) = b.toNat := by
    cases b <;> rfl
  induction ms generalizing ph with
  | nil =>
    cases h
    simp
  | cons m ms ih =>
    rw [after, List.foldlM_cons] at h
    obtain ⟨ph₀, h₀, hms⟩ := Option.bind_eq_some_iff.1 h
    have hnext := countP_next h₀
    have hrest := ih hms
    simp only [List.countP_cons, htoNat]
    omega

end Phase

section Dialogues

variable {Q : Type} {A : Q → Type} {α β ε δ : Type}

/-- Whether a dialogue in some phase goes on in order, whatever it is answered. One that was refused
makes no call and ends with an error. -/
def Heeds : Dialogue Q A (Except ε α) → Phase → Prop
  | .done r, ph => ph = .idle ∨ ph = .stopped ∧ ∃ e, r = .error e
  | .acquire next, ph =>
    ph = .idle ∧ Heeds (next (.ok ())) .granted ∧ ∀ e, Heeds (next (.error e)) .stopped
  | .release next, ph => ph = .answered ∧ Heeds next .idle
  | .call _ next, ph => ph = .granted ∧ ∀ r, Heeds (next r) .answered
  | .note _ next, ph | .enter _ next, ph | .leave next, ph => Heeds next ph

variable {d : Dialogue Q A (Except ε α)} {ph : Phase}

/-- A dialogue heeds admission if it does up to its result, and what follows does from there. -/
lemma Heeds.bind {f : Except ε α → Dialogue Q A (Except δ β)} (hd : Heeds d ph)
    (hok : ∀ a, Heeds (f (.ok a)) .idle)
    (herror : ∀ e ph, ph = .idle ∨ ph = .stopped → Heeds (f (.error e)) ph) :
    Heeds (d.bind f) ph := by
  induction d generalizing ph with
  | done r =>
    -- Only one that was not refused comes to a value, so what follows it begins with nothing held.
    cases r with
    | ok a =>
      rcases hd with rfl | ⟨-, e, he⟩
      · exact hok a
      · cases he
    | error e => exact herror e ph (hd.imp_right And.left)
  | acquire next ih =>
    obtain ⟨hph, hgranted, hrefused⟩ := hd
    exact ⟨hph, ih _ hgranted, fun e => ih _ (hrefused e)⟩
  | release next ih => exact ⟨hd.1, ih hd.2⟩
  | call q next ih => exact ⟨hd.1, fun r => ih r (hd.2 r)⟩
  | note e next ih | enter sp next ih | leave next ih => exact ih hd

/-- Nothing more is owed where a dialogue ends with an error. -/
lemma heeds_error {e : ε} (h : ph = .idle ∨ ph = .stopped) :
    Heeds (.done (.error e) : Dialogue Q A (Except ε α)) ph :=
  h.imp_right fun hph => ⟨hph, e, rfl⟩

/-- A dialogue that goes on from an answer heeds admission if both of its parts do. -/
lemma Heeds.andThen {f : α → Dialogue Q A (Except ε β)} (hd : Heeds d ph)
    (hf : ∀ a, Heeds (f a) .idle) : Heeds (d.andThen f) ph :=
  hd.bind hf fun _ _ => heeds_error

/-- Another wording of the error changes nothing about admission. -/
lemma Heeds.mapError {f : ε → δ} (hd : Heeds d ph) : Heeds (d.mapError f) ph :=
  hd.bind (fun _ => .inl rfl) fun _ _ => heeds_error

/-- A span around a dialogue changes nothing about admission. -/
lemma Heeds.within {sp : Log.Span} (hd : Heeds d ph) : Heeds (.within sp d) ph :=
  hd.bind (fun _ => .inl rfl) fun e _ h => h.imp_right fun hph => ⟨hph, e, rfl⟩

/-- Reports ahead of a dialogue change nothing about admission. -/
lemma Heeds.notes {es : List Log.Event} (hd : Heeds d ph) : Heeds (.notes es d) ph := by
  induction es with
  | nil => exact hd
  | cons e es ih => exact ih

/-- An attempt is admitted before it calls, and is followed by another one or by none. -/
lemma heeds_attempt {p : Retry.Policy} {resource : String} {q : Q} {n : Nat}
    {again : CallError → Dialogue Q A (Except CopyError (A q))}
    (hagain : ∀ e, Heeds (again e) .idle) : Heeds (Retry.attempt p resource q n again) .idle := by
  refine ⟨rfl, ⟨rfl, fun r => ⟨rfl, .notes ?_⟩⟩, fun e => .inr ⟨rfl, _, rfl⟩⟩
  cases Retry.verdict resource r with
  | settled x => exact .inl rfl
  | passing e => exact hagain e

/-- A retried call has a permit of its own for each attempt. -/
lemma heeds_run (p : Retry.Policy) (resource : String) (q : Q) :
    Heeds (p.run (A := A) resource q) .idle := by
  suffices h : ∀ left n, Heeds (Retry.attempts (A := A) p resource q left n) .idle from h _ _
  intro left
  induction left with
  | zero => exact fun n => heeds_attempt fun e => .inl rfl
  | succ left ih => exact fun n => heeds_attempt fun e => ih (n + 1)

end Dialogues

section Operations

open Resolution

variable (p : Retry.Policy) (path : String) (createMissing : Bool)

/-- Entering a folder heeds admission. -/
lemma heeds_enter (name : String) (parent : Option String) :
    Heeds (enter p path createMissing name parent) .idle := by
  refine .andThen (.mapError (.andThen (heeds_run p name _) fun page => .inl rfl)) fun found => ?_
  cases found with
  | some id => exact .inl rfl
  | none =>
    cases createMissing with
    | true => exact .mapError (.andThen (heeds_run p name _) fun id => .inl rfl)
    | false => exact .inl rfl

/-- Descending along names heeds admission. -/
lemma heeds_descend (name : String) (rest : List String) (parent : Option String) :
    Heeds (descend p path createMissing name rest parent) .idle := by
  induction rest generalizing name parent with
  | nil => exact heeds_enter p path createMissing name parent
  | cons next rest ih =>
    exact .andThen (heeds_enter p path createMissing name parent) fun id => ih next (some id)

/-- Resolving a path heeds admission. -/
lemma heeds_folder : Heeds (Service.folder p path createMissing) .idle := by
  refine .within ?_
  cases FolderPath.parse path with
  | error e => exact .inl rfl
  | ok path =>
    obtain ⟨segments, nonempty, clean⟩ := path
    cases segments with
    | nil => exact absurd rfl nonempty
    | cons name rest => exact .within (heeds_descend p _ createMissing name rest none)

/-- Removing a folder heeds admission. -/
lemma heeds_remove : Heeds (Service.remove p path) .idle :=
  .within <| .andThen (heeds_folder p path false) fun id =>
    .andThen (heeds_run p id _) fun _ => .inl rfl

/-- Beginning a download heeds admission. -/
lemma heeds_download (destination : String) (o : DownloadOptions) :
    Heeds (Service.download p path destination o) .idle :=
  .within <| .andThen (heeds_folder p path false) fun _ => .inl rfl

end Operations

end FolderCopy.Admission
