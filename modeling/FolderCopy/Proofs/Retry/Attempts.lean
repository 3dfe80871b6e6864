import FolderCopy.Proofs.Exchanges
import FolderCopy.Proofs.Transfer.Inversion

/-!
# The attempts of a retried call

A retried call is a series of attempts: some that failed in passing, and a last one that says how
the call ended. The dialogue of a retried call passes through the same stages as one that stands
beside other work (`attempts_eq_after`), so what an attempt can do is said once for both.
-/

namespace FolderCopy.Retry

/-- How the last attempt of a call ended. -/
inductive LastAttempt (α : Type) where
  /-- The limiter refused admission. -/
  | refused (e : CallError)
  | failed (e : CallError)
  | succeeded (a : α)

/-- The attempts of a call: the errors of those that were followed by a further one, and the last
one. -/
structure Series (α : Type) where
  failures : List CallError
  last : LastAttempt α

section Exchanges

variable {Q : Type} {A : Q → Type}

/-- What passes in an attempt that was admitted: the permit is held for the call and no longer. -/
def admitted (q : Q) (r : Except CallError (A q)) : List (Exchange Q A) :=
  [.admission (.ok ()), .call q r, .release]

/-- What passes in attempts that fail. -/
def failing (q : Q) (es : List CallError) : List (Exchange Q A) :=
  es.flatMap fun e => admitted q (.error e)

def LastAttempt.exchanges (q : Q) : LastAttempt (A q) → List (Exchange Q A)
  | .refused e => [.admission (.error e)]
  | .failed e => admitted q (.error e)
  | .succeeded a => admitted q (.ok a)

def Series.exchanges (q : Q) (S : Series (A q)) : List (Exchange Q A) :=
  failing q S.failures ++ S.last.exchanges q

/-- Whether what passes stays within a budget of attempts: admission is never refused, every failure
is one that may pass, and no call fails as often in a row as it may be attempted. -/
structure WithinBudget (budget : Nat) (xs : List (Exchange Q A)) : Prop where
  granted : ∀ e, .admission (.error e) ∉ xs
  passing : ∀ q e, .call q (.error e) ∈ xs → e.isRetryable
  spared : ∀ q es, failing q es <:+: xs → es.length < budget

/-- Every failing attempt is a failure in the log. -/
lemma countP_failing (q : Q) (es : List CallError) :
    (failing (A := A) q es).countP (·.isFailure) = es.length := by
  induction es with
  | nil => rfl
  | cons e es ih =>
    rw [failing, List.flatMap_cons, ← failing, List.countP_append, ih]
    exact Nat.add_comm 1 es.length

/-- What holds few failures, all of them passing, stays within a budget. -/
lemma WithinBudget.of_countP {budget : Nat} {xs : List (Exchange Q A)}
    (hharmless : xs.all (·.isHarmless)) (hcount : xs.countP (·.isFailure) < budget) :
    WithinBudget budget xs := by
  rw [List.all_eq_true] at hharmless
  constructor
  · intro e hm
    cases hharmless _ hm
  · intro q e hm
    exact hharmless _ hm
  · intro q es hm
    have hle := hm.sublist.countP_le (p := (·.isFailure))
    rw [countP_failing] at hle
    exact Nat.lt_of_le_of_lt hle hcount

/-- What stays within a budget does so in every part. -/
lemma WithinBudget.of_infix {budget : Nat} {xs ys : List (Exchange Q A)}
    (h : WithinBudget budget xs) (hi : ys <:+: xs) : WithinBudget budget ys := by
  constructor
  · exact fun e hm => h.granted e (hi.subset hm)
  · exact fun q e hm => h.passing q e (hi.subset hm)
  · exact fun q es hm => h.spared q es (hm.trans hi)

end Exchanges

namespace Series

variable {α : Type}

/-- What a series that begins with the attempt number `n` comes to. -/
def resultFrom (resource : String) (n : Nat) (S : Series α) : Except CopyError α :=
  match S.last with
  | .refused e => .error (refused e)
  | .succeeded a => .ok a
  | .failed e =>
    match e.outlook with
    | .absent => .error (.notFound resource e.message)
    | .hopeless => .error (.fatalIn resource e.message)
    | .passing => .error (spent resource (n + S.failures.length) e)

def result (resource : String) (S : Series α) : Except CopyError α :=
  S.resultFrom resource 1

/-- Whether a series of at most `budget` attempts goes on as long as it may help, and no longer. -/
structure Fits (budget : Nat) (S : Series α) : Prop where
  passing : ∀ e ∈ S.failures, e.isRetryable
  within : S.failures.length < budget
  spent : ∀ e, S.last = .failed e → e.isRetryable → S.failures.length + 1 = budget

def prepend (e : CallError) (S : Series α) : Series α :=
  { S with failures := e :: S.failures }

/-- A series with one more attempt in front comes to what it came to from the next number on. -/
lemma resultFrom_prepend (resource : String) (n : Nat) (e : CallError) (S : Series α) :
    (S.prepend e).resultFrom resource n = S.resultFrom resource (n + 1) := by
  simp [resultFrom, prepend, Nat.add_assoc, Nat.add_comm 1]

/-- A series with one more attempt in front begins with the exchanges of this attempt. -/
lemma exchanges_prepend {Q : Type} {A : Q → Type} {q : Q} (e : CallError) (S : Series (A q)) :
    (S.prepend e).exchanges q = admitted q (.error e) ++ S.exchanges q := by
  simp [exchanges, prepend, failing]

/-- A single attempt fits any budget, a failure in passing only one that is spent with it. -/
lemma Fits.single {last : LastAttempt α} {budget : Nat}
    (h : ∀ e, last = .failed e → e.isRetryable → budget = 0) :
    (Series.mk [] last).Fits (budget + 1) :=
  ⟨fun _ he => absurd he List.not_mem_nil, Nat.succ_pos _,
    fun e hl hr => congrArg (· + 1) (h e hl hr).symm⟩

/-- A series with one more passing failure in front fits into one more attempt. -/
lemma Fits.prepend {budget : Nat} {e : CallError} {S : Series α} (h : S.Fits budget)
    (he : e.isRetryable) : (S.prepend e).Fits (budget + 1) := by
  refine ⟨?_, Nat.succ_lt_succ h.within, ?_⟩
  · intro e' he'
    rcases List.mem_cons.1 he' with rfl | he'
    · exact he
    · exact h.passing e' he'
  · intro e' hl hr
    exact congrArg Nat.succ (h.spent e' hl hr)

/-- A series comes to a value where its last attempt did. -/
lemma result_eq_ok {resource : String} {a : α} {S : Series α} :
    S.result resource = .ok a ↔ S.last = .succeeded a := by
  unfold result resultFrom
  cases S.last with
  | refused e => simp
  | succeeded b => simp
  | failed e => cases ho : e.outlook <;> simp [ho]

/-- Within the budget of a call, its last attempt succeeds. -/
lemma Fits.succeeds {Q : Type} {A : Q → Type} {q : Q} {budget : Nat} {S : Series (A q)}
    {xs : List (Exchange Q A)} (h : S.Fits budget) (hb : WithinBudget budget xs)
    (hm : S.exchanges q <:+: xs) : ∃ a, S.last = .succeeded a := by
  unfold Series.exchanges at hm
  cases hl : S.last with
  | succeeded a => exact ⟨a, rfl⟩
  | refused e =>
    rw [hl] at hm
    refine absurd (hm.subset ?_) (hb.granted e)
    simp [LastAttempt.exchanges]
  | failed e =>
    rw [hl] at hm
    have hpassing : e.isRetryable := by
      refine hb.passing q e (hm.subset ?_)
      simp [LastAttempt.exchanges, admitted]
    -- The last attempt fails like those before it, and so many are not within the budget.
    have hlength : (S.failures ++ [e]).length < budget := by
      refine hb.spared q _ ?_
      simpa [failing, LastAttempt.exchanges] using hm
    have := h.spent e hl hpassing
    simp only [List.length_append, List.length_cons, List.length_nil] at hlength
    omega

end Series

variable {Q : Type} {A : Q → Type}

/-- The dialogue of a retried call, which makes its attempt number `n` and goes on with the stage
that follows. -/
lemma attempts_eq_after (p : Policy) (resource : String) (q : Q) (n : Nat) :
    attempts (A := A) p resource q (p.maxAttempts - n) n = .acquire fun
      | .error e => .done (.error (refused e))
      | .ok () => .call q fun r => .release <| .notes (p.reports resource n r) <|
        match p.after resource n r with
        | .inl x => .done x
        | .inr next => attempts p resource q (p.maxAttempts - next.number) next.number := by
  have hunfold : attempts (A := A) p resource q (p.maxAttempts - n) n =
      attempt p resource q n fun e =>
        if n < p.maxAttempts then attempts p resource q (p.maxAttempts - (n + 1)) (n + 1)
        else .done (.error (spent resource n e)) := by
    by_cases hlt : n < p.maxAttempts
    · rw [show p.maxAttempts - n = p.maxAttempts - (n + 1) + 1 by omega]
      simp only [hlt, if_true]
      rfl
    · rw [show p.maxAttempts - n = 0 by omega]
      simp only [hlt, if_false]
      rfl
  rw [hunfold]
  refine congrArg Dialogue.acquire (funext fun r => ?_)
  cases r with
  | error e => rfl
  | ok u =>
    refine congrArg (Dialogue.call q) (funext fun r => ?_)
    unfold Policy.after
    cases verdict resource r with
    | settled x => rfl
    | passing e =>
      -- Whether this is the last attempt decides how both sides go on.
      by_cases hlt : n < p.maxAttempts <;> simp [hlt, Stage.number]

/-- Where an attempt settles a call: with the value of a successful one, or with the error that the
outlook of a failed one makes of it, a passing one at the last attempt only. -/
lemma Policy.after_eq_inl {α : Type} {p : Policy} {resource : String} {n : Nat}
    {r : Except CallError α} {x : Except CopyError α} (hn : n ≤ p.maxAttempts)
    (h : p.after resource n r = .inl x) :
    (∃ a, r = .ok a ∧ x = .ok a) ∨
    ∃ e, r = .error e ∧ (e.isRetryable → n = p.maxAttempts) ∧
      x = (Series.mk [] (.failed e) : Series α).resultFrom resource n := by
  cases r with
  | ok a =>
    cases h
    exact .inl ⟨a, rfl, rfl⟩
  | error e =>
    refine .inr ⟨e, rfl, ?_⟩
    unfold Policy.after verdict at h
    unfold CallError.isRetryable Series.resultFrom
    cases ho : e.outlook <;> simp only [ho] at h ⊢
    · cases h
      exact ⟨nofun, rfl⟩
    · cases h
      exact ⟨nofun, rfl⟩
    · split at h
      case isTrue => cases h
      case isFalse hlt =>
        cases h
        exact ⟨fun _ => by omega, rfl⟩

/-- What is tried again failed in a way that may pass. -/
lemma Policy.isRetryable_of_after {α : Type} {p : Policy} {resource : String} {n : Nat}
    {e : CallError} {next : Stage}
    (h : p.after (α := α) resource n (.error e) = .inr next) : e.isRetryable := by
  unfold Policy.after verdict at h
  unfold CallError.isRetryable
  cases ho : e.outlook <;> simp only [ho] at h
  · cases h
  · cases h
  · rfl

section Hosts

variable {σ : Type} {h : Host Q A σ} {q : Q} {I : σ → Prop} {J : A q → σ → Prop}

/-- From any attempt on, a retried call makes a series of attempts that fits what is left of its
budget, and comes to what they do. -/
lemma attempts_series (hA : h.Answers q I J) (p : Policy) (resource : String) {left n : Nat}
    (hn : n + left = p.maxAttempts) {s : σ} (hs : I s) :
    ∃ S : Series (A q), S.Fits (left + 1) ∧
      (attempts p resource q left n).Yields h s (S.exchanges q) (S.resultFrom resource n) ∧
      ∀ a, S.last = .succeeded a → J a ((attempts p resource q left n).run h s).2 := by
  induction left using Nat.strongRecOn generalizing n s with
  | ind left ih =>
    obtain rfl : left = p.maxAttempts - n := by omega
    rw [attempts_eq_after p resource q n]
    simp only [Dialogue.Yields, Dialogue.exchanges, Dialogue.run]
    have hacquired := hA.acquire s hs
    cases (h.acquire s).1 with
    | error e =>
      refine ⟨⟨[], .refused e⟩, .single (fun _ h => by cases h), ⟨?_, rfl⟩, fun _ h => by cases h⟩
      simp [Series.exchanges, failing, LastAttempt.exchanges, Dialogue.exchanges]
    | ok u =>
      simp only [Dialogue.exchanges, Dialogue.run, Dialogue.run_notes, Dialogue.exchanges_notes]
      -- What holds of the state after the attempt, once its outcome has been reported.
      have hfailed (es : List Log.Event) (e : CallError)
          (hr : (h.call q (h.acquire s).2).1 = .error e) :=
        Dialogue.foldl_note h hA.note es (hA.release _ (hA.failed _ e hacquired hr))
      have hanswered (es : List Log.Event) (a : A q)
          (hr : (h.call q (h.acquire s).2).1 = .ok a) :=
        Dialogue.foldl_note h (hA.noted a) es (hA.released a _ (hA.answered _ a hacquired hr))
      generalize (h.call q (h.acquire s).2).1 = r at hfailed hanswered ⊢
      specialize hfailed (p.reports resource n r)
      specialize hanswered (p.reports resource n r)
      generalize List.foldl _ _ _ = s' at hfailed hanswered ⊢
      cases hafter : p.after resource n r with
      | inl x =>
        rcases Policy.after_eq_inl (by omega) hafter with ⟨a, rfl, rfl⟩ | ⟨e, rfl, hlast, rfl⟩
        · refine ⟨⟨[], .succeeded a⟩, .single (fun _ h => by cases h), ⟨?_, rfl⟩, ?_⟩
          · simp [Series.exchanges, failing, LastAttempt.exchanges, admitted, Dialogue.exchanges]
          · rintro _ ⟨⟩
            exact hanswered a rfl
        · refine ⟨⟨[], .failed e⟩, .single ?_, ⟨?_, rfl⟩, fun _ h => by cases h⟩
          · intro e' he' hretry
            cases he'
            have := hlast hretry
            omega
          · simp [Series.exchanges, failing, LastAttempt.exchanges, admitted, Dialogue.exchanges]
      | inr next =>
        obtain ⟨e, rfl, hlt, rfl⟩ := Policy.after_inr hafter
        obtain ⟨S, hfits, ⟨hlog, hres⟩, hS⟩ :=
          ih (p.maxAttempts - (n + 1)) (by omega) (n := n + 1) (by omega) (hfailed e rfl)
        refine ⟨S.prepend e, ?_, ⟨?_, ?_⟩, hS⟩
        · have := hfits.prepend (Policy.isRetryable_of_after hafter)
          rwa [show p.maxAttempts - (n + 1) + 1 = p.maxAttempts - n by omega] at this
        · rw [S.exchanges_prepend, ← hlog]
          rfl
        · rw [S.resultFrom_prepend, ← hres]
          rfl

/-- A call under a policy makes a series of attempts that fits the policy, and comes to what they
do. -/
theorem Policy.run_series (hA : h.Answers q I J) (p : Policy) (resource : String) {s : σ}
    (hs : I s) :
    ∃ S : Series (A q), S.Fits p.maxAttempts ∧
      (p.run resource q).Yields h s (S.exchanges q) (S.result resource) ∧
      ∀ a, S.last = .succeeded a → J a ((p.run resource q).run h s).2 := by
  have hpos := p.pos
  have hS := attempts_series hA p resource
    (show 1 + (p.maxAttempts - 1) = p.maxAttempts by omega) hs
  rwa [Nat.sub_add_cancel hpos] at hS

end Hosts

/-- An attempt makes its call only, if what follows does. -/
lemma attempt_calls {p : Policy} {resource : String} {q : Q} {n : Nat}
    {again : CallError → Dialogue Q A (Except CopyError (A q))}
    (hagain : ∀ e, (again e).Calls (· = q)) : (attempt p resource q n again).Calls (· = q) := by
  intro r
  cases r with
  | error e => trivial
  | ok u =>
    refine ⟨rfl, fun r => Dialogue.Calls.notes ?_⟩
    cases verdict resource r with
    | settled x => trivial
    | passing e => exact hagain e

/-- Under a policy the same call is made again and again. -/
lemma Policy.run_calls (p : Policy) (resource : String) (q : Q) :
    (p.run (A := A) resource q).Calls (· = q) := by
  suffices h : ∀ left n, (attempts (A := A) p resource q left n).Calls (· = q) from h _ _
  intro left
  induction left with
  | zero => exact fun n => attempt_calls fun _ => trivial
  | succ left ih => exact fun n => attempt_calls fun _ => ih (n + 1)

end FolderCopy.Retry
