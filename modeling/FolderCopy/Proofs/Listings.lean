import FolderCopy.Listing
import FolderCopy.Proofs.Retry.Attempts

/-!
# Listings asked for one after the other

To enumerate a folder and to follow a path are both to ask for one listing after the other, each in
a series of attempts, until all are answered or one finally fails. A `Reading` says what became of
the listings asked for; what is asked for next is up to the operation.
-/

namespace FolderCopy.Listing

open Retry

/-- A page of a listing that is asked for; the resource is what an error is said to be about. -/
structure Ask where
  resource : String
  parent : Option String
  filter : Filter
  token : Option String

abbrev Ask.call (a : Ask) : StoreCall :=
  .list a.parent a.filter a.token

/-- An asked page that was given, after attempts that failed. -/
structure Answered where
  ask : Ask
  failures : List CallError
  page : Page

/-- An asked page whose attempts came to an error. -/
structure GivenUp where
  ask : Ask
  attempts : Series Page
  error : CopyError

/-- What became of pages asked for one after the other: those that were given, and the one that was
given up, if one was. -/
structure Reading where
  answered : List Answered
  failed : Option GivenUp

abbrev StoreExchange :=
  Exchange StoreCall StoreCall.Answer

def Answered.exchanges (r : Answered) : List StoreExchange :=
  failing r.ask.call r.failures ++ admitted r.ask.call (.ok r.page)

def GivenUp.exchanges (f : GivenUp) : List StoreExchange :=
  f.attempts.exchanges f.ask.call

/-- What a call for a page comes to: a page that the host answers with, or an error. -/
lemma Ask.outcome {σ : Type} {h : Host StoreCall StoreCall.Answer σ} {a : Ask} {I : σ → Prop}
    {J : Page → σ → Prop} (hA : h.Answers a.call I J) (p : Policy) {s : σ} (hs : I s) :
    (∃ r : Answered, r.ask = a ∧ (∀ e ∈ r.failures, e.isRetryable) ∧
      r.failures.length < p.maxAttempts ∧
      (p.run a.resource a.call).Yields h s r.exchanges (.ok r.page) ∧
      J r.page ((p.run a.resource a.call).run h s).2) ∨
    ∃ f : GivenUp, f.ask = a ∧ f.attempts.Fits p.maxAttempts ∧
      f.attempts.result a.resource = .error f.error ∧
      (p.run a.resource a.call).Yields h s f.exchanges (.error f.error) := by
  obtain ⟨S, hfits, hyields, hJ⟩ := p.run_series hA a.resource hs
  cases hr : S.result a.resource with
  | ok page =>
    have hlast := Series.result_eq_ok.1 hr
    refine .inl ⟨⟨a, S.failures, page⟩, rfl, hfits.passing, hfits.within, ?_, hJ page hlast⟩
    rwa [Series.exchanges, hlast, hr] at hyields
  | error e =>
    rw [hr] at hyields
    exact .inr ⟨⟨a, S, e⟩, rfl, hfits, hr, hyields⟩

namespace Reading

variable (R : Reading)

def exchanges : List StoreExchange :=
  R.answered.flatMap (·.exchanges) ++ (R.failed.map (·.exchanges)).getD []

def pages : List Page :=
  R.answered.map (·.page)

def error? : Option CopyError :=
  R.failed.map (·.error)

/-- What comes of a value that is made of all pages: where a page was given up, its error stands in
its place. -/
def answer {α : Type} (a : α) : Except CopyError α :=
  match R.failed with
  | none => .ok a
  | some f => .error f.error

/-- A reading that ends after some pages. -/
def upTo (limit : Nat) : Reading :=
  ⟨R.answered.take limit, if limit ≤ R.answered.length then none else R.failed⟩

def prepend (r : Answered) : Reading :=
  ⟨r :: R.answered, R.failed⟩

/-- Whether a reading goes through what is to be asked for as it comes, within the budget for each
page, and ends early only where a page is given up. -/
structure Follows (p : Policy) (asks : List Ask) : Prop where
  asked : R.answered.map (·.ask) = asks.take R.answered.length
  within : ∀ r ∈ R.answered,
    (∀ e ∈ r.failures, e.isRetryable) ∧ r.failures.length < p.maxAttempts
  complete : R.failed = none → R.answered.length = asks.length
  failed : ∀ f, R.failed = some f → asks[R.answered.length]? = some f.ask ∧
    f.attempts.Fits p.maxAttempts ∧ f.attempts.result f.ask.resource = .error f.error

variable {R} {p : Policy} {asks : List Ask} {r : Answered}

/-- Of no requests nothing is served. -/
lemma upTo_zero : R.upTo 0 = ⟨[], none⟩ := by
  simp [upTo]

/-- Up to a limit, a reading serves its first request and what the rest of it serves. -/
lemma upTo_prepend (limit : Nat) : (R.prepend r).upTo (limit + 1) = (R.upTo limit).prepend r := by
  simp [upTo, prepend]

/-- A reading that fails at once fails within every limit. -/
lemma upTo_failed (f : GivenUp) (limit : Nat) :
    (⟨[], some f⟩ : Reading).upTo (limit + 1) = ⟨[], some f⟩ := by
  simp [upTo]

/-- The exchanges of a reading begin with those of its first request. -/
lemma exchanges_prepend : (R.prepend r).exchanges = r.exchanges ++ R.exchanges := by
  simp [exchanges, prepend]

/-- The exchanges of a reading with one request are those of the request. -/
lemma exchanges_single : (⟨[r], none⟩ : Reading).exchanges = r.exchanges := by
  simp [exchanges]

/-- Nothing that is read follows from nothing that is asked. -/
lemma follows_nil : (⟨[], none⟩ : Reading).Follows p [] := by
  refine ⟨rfl, nofun, fun _ => rfl, ?_⟩
  rintro _ ⟨⟩

/-- A reading that fails at once has made its first request. -/
lemma follows_failed {f : GivenUp} {a : Ask} (hask : f.ask = a)
    (hfits : f.attempts.Fits p.maxAttempts)
    (hr : f.attempts.result a.resource = .error f.error) :
    (⟨[], some f⟩ : Reading).Follows p (a :: asks) := by
  subst hask
  refine ⟨rfl, nofun, nofun, ?_⟩
  rintro _ ⟨⟩
  exact ⟨rfl, hfits, hr⟩

/-- A request in front of a reading goes before all others. -/
lemma Follows.prepend {a : Ask} (h : R.Follows p asks) (hask : r.ask = a)
    (hpassing : ∀ e ∈ r.failures, e.isRetryable) (hlength : r.failures.length < p.maxAttempts) :
    (R.prepend r).Follows p (a :: asks) := by
  subst hask
  constructor
  · exact congrArg (r.ask :: ·) h.asked
  · intro r' hr'
    rcases List.mem_cons.1 hr' with rfl | hr'
    · exact ⟨hpassing, hlength⟩
    · exact h.within r' hr'
  · exact fun hn => congrArg Nat.succ (h.complete hn)
  · exact h.failed

/-- No more is answered than is asked. -/
lemma Follows.length_le (h : R.Follows p asks) : R.answered.length ≤ asks.length := by
  have := congrArg List.length h.asked
  simp only [List.length_map, List.length_take] at this
  omega

/-- A reading does not end early after as many pages as are to be asked for. -/
lemma Follows.upTo_eq (h : R.Follows p asks) {limit : Nat} (hlimit : asks.length ≤ limit) :
    R.upTo limit = R := by
  have hlength := h.length_le
  have hanswered : R.answered.take limit = R.answered := List.take_of_length_le (by omega)
  have hfailed : (if limit ≤ R.answered.length then none else R.failed) = R.failed := by
    cases hf : R.failed with
    | none => exact ite_self _
    | some f =>
      -- What was given up had to be asked for.
      have hlt := (List.getElem?_eq_some_iff.1 (h.failed f hf).1).1
      exact if_neg (by omega)
  unfold upTo
  rw [hanswered, hfailed]

/-- Within the budget no page is given up. -/
lemma Follows.failed_eq_none (h : R.Follows p asks)
    (hb : WithinBudget p.maxAttempts R.exchanges) : R.failed = none := by
  cases hf : R.failed with
  | none => rfl
  | some f =>
    obtain ⟨-, hfits, herror⟩ := h.failed f hf
    have hm : f.attempts.exchanges f.ask.call <:+: R.exchanges := by
      unfold exchanges
      rw [hf]
      exact (List.suffix_append _ _).isInfix
    obtain ⟨page, hlast⟩ := hfits.succeeds hb hm
    rw [Series.result_eq_ok.2 hlast] at herror
    cases herror

end Reading

end FolderCopy.Listing
