import Mathlib.Order.Bounds.Defs
import FolderCopy.Proofs.Retry.Attempts

/-!
# What a retried call comes to

A call under a policy is run against answers that are fixed in advance: what the limiter says to
each attempt, and what each call comes to. The first attempt that settles the matter decides the
result, and what would be answered after it is never asked for.
-/

namespace FolderCopy.Retry

/-- Answers that are fixed in advance. Attempts and calls count from one. -/
structure Script (Q : Type) (A : Q → Type) where
  admission : Nat → Except CallError Unit
  outcome : Nat → (q : Q) → Except CallError (A q)

/-- What has been asked so far: how many admissions, and which calls. -/
structure Asked (Q : Type) where
  admissions : Nat
  calls : List Q

/-- A call that has been made some times. -/
def Asked.only {Q : Type} (q : Q) (admissions calls : Nat) : Asked Q :=
  ⟨admissions, List.replicate calls q⟩

namespace Script

variable {Q : Type} {A : Q → Type}

def host (c : Script Q A) : Host Q A (Asked Q) where
  acquire s := (c.admission (s.admissions + 1), { s with admissions := s.admissions + 1 })
  release := id
  call q s := (c.outcome (s.calls.length + 1) q, { s with calls := s.calls ++ [q] })
  note _ s := s
  enter _ s := s
  leave s := s

/-- Whether the attempt number `n` of a call is its last one under a budget. A budget of zero counts
as one. -/
inductive Ends (c : Script Q A) (q : Q) (budget n : Nat) : Prop where
  | refused {e} (h : c.admission n = .error e)
  | succeeded {a} (h : c.outcome n q = .ok a)
  | notFound {r} (h : c.outcome n q = .error (.notFound r))
  | status404 {m} (h : c.outcome n q = .error (.httpStatus 404 m))
  | invalidResponse {m} (h : c.outcome n q = .error (.invalidResponse m))
  | unavailable {m} (h : c.outcome n q = .error (.unavailable m))
  | spent (h : n = max 1 budget)

/-- The error of a call whose last attempt failed. -/
def reported (resource : String) (budget : Nat) (e : CallError) : CopyError :=
  match e with
  | .notFound _ | .httpStatus 404 _ => .notFound resource e.message
  | .invalidResponse _ | .unavailable _ => .fatal (resource ++ ": " ++ e.message)
  | .httpStatus _ _ | .failed _ | .io _ =>
    .transient (max 1 budget) (resource ++ ": " ++ e.message)

/-- The result of a call whose last attempt is number `n`. -/
def reference (c : Script Q A) (resource : String) (q : Q) (budget n : Nat) :
    Except CopyError (A q) :=
  match c.admission n with
  | .error e => .error (.fatal ("Admission refused: " ++ e.message))
  | .ok () => (c.outcome n q).mapError (reported resource budget)

/-- How often a call is made whose last attempt is number `n`: an attempt that is refused admission
makes no call. -/
def invocations (c : Script Q A) (n : Nat) : Nat :=
  match c.admission n with
  | .error _ => n - 1
  | .ok () => n

variable {c : Script Q A} {resource : String} {q : Q} {budget n : Nat}

/-- Whether attempts end with some number is seen from this number alone. -/
lemma Ends.of_agree {c' : Script Q A} (ha : c'.admission n = c.admission n)
    (ho : c'.outcome n q = c.outcome n q) (h : c.Ends q budget n) : c'.Ends q budget n := by
  cases h with
  | refused h => exact .refused (ha.trans h)
  | succeeded h => exact .succeeded (ho.trans h)
  | notFound h => exact .notFound (ho.trans h)
  | status404 h => exact .status404 (ho.trans h)
  | invalidResponse h => exact .invalidResponse (ho.trans h)
  | unavailable h => exact .unavailable (ho.trans h)
  | spent h => exact .spent h

/-- An attempt that fails in passing is the last one only where the budget is spent. -/
lemma Ends.eq_budget {e : CallError} (h : c.Ends q budget n) (ha : c.admission n = .ok ())
    (ho : c.outcome n q = .error e) (he : e.isRetryable) : n = max 1 budget := by
  cases h with
  | refused h => cases ha.symm.trans h
  | succeeded h => cases ho.symm.trans h
  | notFound h | status404 h | invalidResponse h | unavailable h =>
    cases ho.symm.trans h
    cases he
  | spent h => exact h

/-- The last attempt of the budget ends in an error, whatever the error is. -/
lemma after_max_error (e : CallError) :
    (Policy.ofNat budget).after (α := A q) resource (max 1 budget) (.error e) =
      .inl (.error (reported resource budget e)) := by
  have hlast : ¬ max 1 budget < (Policy.ofNat budget).maxAttempts := Nat.lt_irrefl _
  cases e with
  | notFound r | invalidResponse m | unavailable m => rfl
  | failed m | io m => exact if_neg hlast
  | httpStatus status m =>
    by_cases hs : status = 404
    · subst hs
      rfl
    · have hv : verdict (α := A q) resource (.error (.httpStatus status m)) =
          .passing (.httpStatus status m) := by
        simp [verdict, CallError.outlook, hs]
      simp only [Policy.after, hv, if_neg hlast]
      simp [reported, spent]

/-- The attempt that ends a series gives its reference result. -/
lemma Ends.after_eq (h : c.Ends q budget n) (ha : c.admission n = .ok ()) :
    (Policy.ofNat budget).after resource n (c.outcome n q) =
      .inl (c.reference resource q budget n) := by
  unfold reference Policy.after
  rw [ha]
  cases h with
  | refused h => cases ha.symm.trans h
  | succeeded h | notFound h | status404 h | invalidResponse h | unavailable h =>
    rw [h]
    rfl
  | spent hn =>
    subst hn
    cases c.outcome (max 1 budget) q with
    | ok a => rfl
    | error e => exact after_max_error e

/-- An attempt that settles a call is its last one. -/
lemma Ends.of_after {x : Except CopyError (A q)} (hn : n ≤ max 1 budget)
    (h : (Policy.ofNat budget).after resource n (c.outcome n q) = .inl x) :
    c.Ends q budget n := by
  rcases Policy.after_eq_inl hn h with ⟨a, ho, -⟩ | ⟨e, ho, hlast, -⟩
  · exact .succeeded ho
  · cases e with
    | notFound r => exact .notFound ho
    | invalidResponse m => exact .invalidResponse ho
    | unavailable m => exact .unavailable ho
    | failed m | io m => exact .spent (hlast rfl)
    | httpStatus status m =>
      by_cases hs : status = 404
      · subst hs
        exact .status404 ho
      · exact .spent (hlast (by simp [CallError.isRetryable, CallError.outlook, hs]))

/-- After an attempt that does not end a series, another one is asked for. -/
lemma after_of_not_ends (hn : n ≤ max 1 budget) (h : ¬ c.Ends q budget n) :
    (Policy.ofNat budget).after resource n (c.outcome n q) = .inr (.asking (n + 1)) := by
  cases hafter : (Policy.ofNat budget).after resource n (c.outcome n q) with
  | inl x => exact absurd (.of_after hn hafter) h
  | inr next =>
    obtain ⟨-, -, -, rfl⟩ := Policy.after_inr hafter
    rfl

/-- An attempt, made after `k` others that were all admitted. -/
lemma run_attempts (p : Policy) (k : Nat) :
    (attempts p resource q (p.maxAttempts - (k + 1)) (k + 1)).run c.host (.only q k k) =
      match c.admission (k + 1) with
      | .error e => (.error (refused e), .only q (k + 1) k)
      | .ok () =>
        match p.after resource (k + 1) (c.outcome (k + 1) q) with
        | .inl x => (x, .only q (k + 1) (k + 1))
        | .inr next =>
          (attempts p resource q (p.maxAttempts - next.number) next.number).run c.host
            (.only q (k + 1) (k + 1)) := by
  have hnotes (es : List Log.Event) (s : Asked Q) :
      es.foldl (fun s e => c.host.note e s) s = s := by
    induction es with
    | nil => rfl
    | cons e es ih => exact ih
  rw [attempts_eq_after p resource q (k + 1)]
  simp only [Dialogue.run]
  rw [show c.host.acquire (.only q k k) = (c.admission (k + 1), .only q (k + 1) k) from rfl]
  cases c.admission (k + 1) with
  | error e => rfl
  | ok u =>
    have hcall : c.host.call q (.only q (k + 1) k) =
        (c.outcome (k + 1) q, .only q (k + 1) (k + 1)) := by
      simp [host, Asked.only, ← List.replicate_succ']
    simp only [Dialogue.run, Dialogue.run_notes, hcall, hnotes]
    cases p.after resource (k + 1) (c.outcome (k + 1) q) with
    | inl x => rfl
    | inr next => rfl

/-- A run stops with the attempt that ends it. -/
lemma run_of_ends {left k : Nat} (hk : k + 1 + left = max 1 budget)
    (h : c.Ends q budget (k + 1)) :
    (attempts (.ofNat budget) resource q left (k + 1)).run c.host (.only q k k) =
      (c.reference resource q budget (k + 1), .only q (k + 1) (c.invocations (k + 1))) := by
  obtain rfl : left = (Policy.ofNat budget).maxAttempts - (k + 1) := Nat.eq_sub_of_add_eq' hk
  rw [run_attempts _ k]
  cases ha : c.admission (k + 1) with
  | error e => simp [reference, invocations, ha, refused, CopyError.fatalIn]
  | ok u =>
    rw [h.after_eq ha]
    simp [invocations, ha]

/-- A run goes on after an attempt that does not end it. -/
lemma run_of_not_ends {left k : Nat} (hk : k + 1 + (left + 1) = max 1 budget)
    (h : ¬ c.Ends q budget (k + 1)) :
    (attempts (.ofNat budget) resource q (left + 1) (k + 1)).run c.host (.only q k k) =
      (attempts (.ofNat budget) resource q left (k + 2)).run c.host (.only q (k + 1) (k + 1)) := by
  have hleft : left + 1 = (Policy.ofNat budget).maxAttempts - (k + 1) := Nat.eq_sub_of_add_eq' hk
  have hnext : left = (Policy.ofNat budget).maxAttempts - (k + 2) := by omega
  rw [hleft, run_attempts _ k]
  cases ha : c.admission (k + 1) with
  | error e => exact absurd (.refused ha) h
  | ok u =>
    rw [after_of_not_ends (Nat.le.intro hk) h, hnext]
    rfl

/-- From any attempt on, a call goes on up to its last attempt, which decides the result. -/
lemma run_attempts_reference (left k : Nat) (hk : k + 1 + left = max 1 budget) :
    ∃ n, IsLeast {m | k + 1 ≤ m ∧ c.Ends q budget m} n ∧
      (attempts (.ofNat budget) resource q left (k + 1)).run c.host (.only q k k) =
        (c.reference resource q budget n, .only q n (c.invocations n)) := by
  have first {k : Nat} (h : c.Ends q budget (k + 1)) :
      IsLeast {m | k + 1 ≤ m ∧ c.Ends q budget m} (k + 1) :=
    ⟨⟨Nat.le_refl _, h⟩, fun m hm => hm.1⟩
  -- What is left of the budget bounds how far off the last attempt is.
  induction left generalizing k with
  | zero => exact ⟨k + 1, first (.spent hk), run_of_ends hk (.spent hk)⟩
  | succ left ih =>
    by_cases h : c.Ends q budget (k + 1)
    · exact ⟨k + 1, first h, run_of_ends hk h⟩
    · obtain ⟨n, hn, hrun⟩ := ih (k + 1) (by omega)
      refine ⟨n, ⟨⟨Nat.le_of_succ_le hn.1.1, hn.1.2⟩, ?_⟩, (run_of_not_ends hk h).trans hrun⟩
      rintro m ⟨hm, hends⟩
      rcases Nat.eq_or_lt_of_le hm with rfl | hlt
      · exact absurd hends h
      · exact hn.2 ⟨hlt, hends⟩

/-- A run makes the least number of attempts after which it ends, and gives their result. -/
lemma run_ofNat_reference (c : Script Q A) (budget : Nat) (resource : String) (q : Q) :
    ∃ n, IsLeast {m | 1 ≤ m ∧ c.Ends q budget m} n ∧
      ((Policy.ofNat budget).run resource q).run c.host ⟨0, []⟩ =
        (c.reference resource q budget n, ⟨n, List.replicate (c.invocations n) q⟩) :=
  run_attempts_reference (max 1 budget - 1) 0 (by omega)

/-- Against answers fixed in advance, a call under a policy makes the attempts up to the first one
that ends it, and comes to what that attempt says. What would be answered later has no influence;
after attempts that failed in passing, a success within the budget is the result as it is. -/
theorem run_reference (c : Script Q A) (budget : Nat) (resource : String) (q : Q) :
    ∃ n, IsLeast {m | 1 ≤ m ∧ c.Ends q budget m} n ∧
      ((Policy.ofNat budget).run resource q).run c.host ⟨0, []⟩ =
        (c.reference resource q budget n, ⟨n, List.replicate (c.invocations n) q⟩) ∧
      (∀ c' : Script Q A,
        (∀ m, 1 ≤ m → m ≤ n →
          c'.admission m = c.admission m ∧ c'.outcome m q = c.outcome m q) →
        ((Policy.ofNat budget).run resource q).run c'.host ⟨0, []⟩ =
          ((Policy.ofNat budget).run resource q).run c.host ⟨0, []⟩) ∧
      ∀ k a, 1 ≤ k → k ≤ max 1 budget →
        (∀ m, 1 ≤ m → m < k →
          c.admission m = .ok () ∧ ∃ e, c.outcome m q = .error e ∧ e.isRetryable) →
        c.admission k = .ok () → c.outcome k q = .ok a →
        (((Policy.ofNat budget).run resource q).run c.host ⟨0, []⟩).1 = .ok a := by
  obtain ⟨n, hn, hrun⟩ := run_ofNat_reference c budget resource q
  refine ⟨n, hn, hrun, ?_, ?_⟩
  · intro c' hagree
    obtain ⟨n', hn', hrun'⟩ := run_ofNat_reference c' budget resource q
    obtain ⟨ha, ho⟩ := hagree n hn.1.1 (Nat.le_refl n)
    -- The other script ends at the same attempt: both see the same up to there.
    have hle : n' ≤ n := hn'.2 ⟨hn.1.1, hn.1.2.of_agree ha ho⟩
    obtain ⟨ha', ho'⟩ := hagree n' hn'.1.1 hle
    obtain rfl : n' = n :=
      Nat.le_antisymm hle (hn.2 ⟨hn'.1.1, hn'.1.2.of_agree ha'.symm ho'.symm⟩)
    rw [hrun, hrun']
    simp only [reference, invocations, ha, ho]
  · intro k a hk hle hbefore ha ho
    have hends : c.Ends q budget k := .succeeded ho
    have hfirst : n = k := by
      refine Nat.le_antisymm (hn.2 ⟨hk, hends⟩) (Nat.not_lt.1 fun hlt => ?_)
      obtain ⟨ha', e, ho', he⟩ := hbefore n hn.1.1 hlt
      have := hn.1.2.eq_budget ha' ho' he
      omega
    rw [hrun, hfirst]
    simp only [reference, ha, ho]
    rfl

/-- A call that fails twice in passing and then succeeds, within a budget of three. -/
example :
    let c : Script Unit (fun _ => Nat) :=
      { admission := fun _ => .ok ()
        outcome := fun n _ => if n < 3 then .error (.httpStatus 503 "backend error") else .ok n }
    ((Policy.ofNat 3).run "y.txt" ()).run c.host ⟨0, []⟩ = (.ok 3, ⟨3, [(), (), ()]⟩) := rfl

end Script

end FolderCopy.Retry
