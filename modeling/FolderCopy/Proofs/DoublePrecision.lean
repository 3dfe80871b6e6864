import Mathlib.Tactic.Lemma
import FolderCopy.DoublePrecision

/-!
# Rounding to double precision

Rounding a quotient errs by half a unit at most and keeps the order, and so does rounding a count to
double precision, where the unit is the step between the neighbouring numbers. Main statement: the
number that a count is rounded to is the nearest one of double precision.
-/

namespace FolderCopy

/-! ## Quotients -/

/-- What a rounded quotient is, by how much the division leaves over. -/
lemma roundHalfEven_cases (num den : Nat) :
    (2 * (num % den) < den ∧ roundHalfEven num den = num / den) ∨
      (den < 2 * (num % den) ∧ roundHalfEven num den = num / den + 1) ∨
      (2 * (num % den) = den ∧ roundHalfEven num den = num / den + num / den % 2) := by
  unfold roundHalfEven
  dsimp only
  split
  case isTrue h => exact .inl ⟨h, rfl⟩
  case isFalse h =>
    split
    case isTrue h' => exact .inr (.inl ⟨h', rfl⟩)
    case isFalse h' => exact .inr (.inr ⟨by omega, rfl⟩)

section Quotients

variable {num num' den k : Nat}

/-- A quotient is rounded by half a unit at most, and by half a unit to even numbers only. -/
lemma roundHalfEven_spec (hd : 0 < den) (num : Nat) :
    2 * (roundHalfEven num den * den) ≤ 2 * num + den ∧
      2 * num ≤ 2 * (roundHalfEven num den * den) + den ∧
      (2 * (roundHalfEven num den * den) = 2 * num + den ∨
        2 * num = 2 * (roundHalfEven num den * den) + den → roundHalfEven num den % 2 = 0) := by
  have hnum : num / den * den + num % den = num := by
    rw [Nat.mul_comm]
    exact Nat.div_add_mod num den
  have hlt : num % den < den := Nat.mod_lt num hd
  have hcases := roundHalfEven_cases num den
  generalize roundHalfEven num den = r at hcases
  generalize num / den = q at hnum hcases
  have hup : (q + 1) * den = q * den + den := Nat.succ_mul q den
  rcases hcases with ⟨hm, rfl⟩ | ⟨hm, rfl⟩ | ⟨hm, rfl⟩
  · omega
  · rw [hup]
    omega
  · rcases Nat.mod_two_eq_zero_or_one q with he | ho
    · rw [he, Nat.add_zero]
      omega
    · rw [ho, hup]
      omega

/-- Rounding keeps the order. -/
lemma roundHalfEven_mono (hd : 0 < den) (h : num ≤ num') :
    roundHalfEven num den ≤ roundHalfEven num' den := by
  obtain ⟨habove, -⟩ := roundHalfEven_spec hd num
  obtain ⟨-, hbelow, -⟩ := roundHalfEven_spec hd num'
  refine Nat.le_of_not_lt fun hlt => ?_
  -- A larger number for a smaller quotient: both of them must be a half, and then the same.
  have hmul : (roundHalfEven num' den + 1) * den ≤ roundHalfEven num den * den :=
    Nat.mul_le_mul_right den hlt
  rw [Nat.succ_mul] at hmul
  have heq : num = num' := by omega
  rw [heq] at hlt
  exact Nat.lt_irrefl _ hlt

/-- A whole quotient is not rounded. -/
lemma roundHalfEven_mul (hd : 0 < den) (k : Nat) : roundHalfEven (k * den) den = k := by
  rw [roundHalfEven, Nat.mul_div_cancel k hd, Nat.mul_mod_left]
  simp [hd]

/-- What is at most a whole number is rounded to at most that. -/
lemma roundHalfEven_le (hd : 0 < den) (h : num ≤ k * den) : roundHalfEven num den ≤ k := by
  have hmono := roundHalfEven_mono hd h
  rwa [roundHalfEven_mul hd] at hmono

/-- What is at least a whole number is rounded to at least that. -/
lemma le_roundHalfEven (hd : 0 < den) (h : k * den ≤ num) : k ≤ roundHalfEven num den := by
  have hmono := roundHalfEven_mono hd h
  rwa [roundHalfEven_mul hd] at hmono

end Quotients

/-! ## Counts -/

/-- The step between the neighbouring numbers of double precision at a count. -/
def doubleStep (n : Nat) : Nat :=
  Nat.pow 2 (n.log2 - 52)

/-- Whether a whole number is of double precision: 53 significant bits at most. -/
def IsDouble (d : Nat) : Prop :=
  ∃ m k, m < Nat.pow 2 53 ∧ d = m * Nat.pow 2 k

/-- Whether a number is the one of double precision that is nearest to a count. Of two that are, it
is the one with an even last bit. -/
structure IsNearestDouble (n d : Nat) : Prop where
  isDouble : IsDouble d
  nearest : ∀ d', IsDouble d' → ((d : Int) - n).natAbs ≤ ((d' : Int) - n).natAbs
  even : ∀ d', IsDouble d' → d' ≠ d → ((d' : Int) - n).natAbs = ((d : Int) - n).natAbs →
    ∃ m k, m % 2 = 0 ∧ Nat.pow 2 52 ≤ m ∧ m < Nat.pow 2 53 ∧ d = m * Nat.pow 2 k

/-- Exponents of two add up. -/
lemma twoPow_add (a b : Nat) : Nat.pow 2 (a + b) = Nat.pow 2 a * Nat.pow 2 b :=
  Nat.pow_add 2 a b

/-- Powers of two grow with the exponent. -/
lemma twoPow_le {a b : Nat} (h : a ≤ b) : Nat.pow 2 a ≤ Nat.pow 2 b :=
  Nat.pow_le_pow_right (by decide) h

/-- The distance of two neighbouring doubles is not zero. -/
lemma doubleStep_pos (n : Nat) : 0 < doubleStep n :=
  Nat.two_pow_pos _

/-- A count has 53 bits of its steps at most. -/
lemma lt_mul_doubleStep (n : Nat) : n < Nat.pow 2 53 * doubleStep n := by
  rw [doubleStep, ← twoPow_add]
  exact Nat.lt_of_lt_of_le Nat.lt_log2_self (twoPow_le (by omega))

/-- Where the step is not one, a count has 53 bits of its steps. -/
lemma mul_doubleStep_le {n : Nat} (h : 1 < doubleStep n) : Nat.pow 2 52 * doubleStep n ≤ n := by
  have hlog : 52 < n.log2 := by
    refine Nat.lt_of_not_le fun hle => Nat.lt_irrefl 1 ?_
    rwa [doubleStep, Nat.sub_eq_zero_of_le hle] at h
  have hn : n ≠ 0 := by
    rintro rfl
    exact absurd hlog (by decide)
  rw [doubleStep, ← twoPow_add, Nat.add_sub_cancel' (Nat.le_of_lt hlog)]
  exact Nat.log2_self_le hn

/-- The nearest double is a rounded number of steps. -/
lemma nearestDouble_eq (n : Nat) :
    nearestDouble n = roundHalfEven n (doubleStep n) * doubleStep n := by
  rcases Nat.lt_or_ge n (Nat.pow 2 53) with h | h
  · have hstep : doubleStep n = 1 := by
      refine Nat.le_antisymm (Nat.le_of_not_lt fun hlt => ?_) (doubleStep_pos n)
      have hle := Nat.mul_le_mul_left (Nat.pow 2 52) hlt
      exact absurd (Nat.le_trans hle (mul_doubleStep_le hlt)) (Nat.not_le.2 h)
    have hwhole := roundHalfEven_mul Nat.zero_lt_one n
    rw [Nat.mul_one] at hwhole
    rw [nearestDouble_of_lt h, hstep, hwhole, Nat.mul_one]
  · exact if_neg (Nat.not_lt.2 h)

/-- A count is rounded to 53 bits of its steps at most; with one more, it is a power of two. -/
lemma significand_le (n : Nat) : roundHalfEven n (doubleStep n) ≤ Nat.pow 2 53 :=
  roundHalfEven_le (doubleStep_pos n) (Nat.le_of_lt (lt_mul_doubleStep n))

section Counts

variable {n n' d : Nat}

/-- The nearest double is at most half a step off. -/
lemma nearestDouble_error (n : Nat) :
    2 * nearestDouble n ≤ 2 * n + doubleStep n ∧ 2 * n ≤ 2 * nearestDouble n + doubleStep n := by
  obtain ⟨habove, hbelow, -⟩ := roundHalfEven_spec (doubleStep_pos n) n
  rw [nearestDouble_eq]
  exact ⟨habove, hbelow⟩

/-- The step is 2048 at most as long as a count has 64 bits. -/
lemma doubleStep_le (h : n < Nat.pow 2 64) : doubleStep n ≤ Nat.pow 2 11 := by
  have hlog : n.log2 < 64 := by
    rcases Nat.eq_zero_or_pos n with rfl | hpos
    · decide
    · exact (Nat.log2_lt (Nat.ne_of_gt hpos)).2 h
  exact twoPow_le (by omega)

/-- A larger count has the same step, or one that is twice as large at least. -/
lemma doubleStep_cases (h : n ≤ n') :
    doubleStep n = doubleStep n' ∨ 2 * doubleStep n ≤ doubleStep n' := by
  have hlog : n.log2 ≤ n'.log2 := by
    rcases Nat.eq_zero_or_pos n with rfl | hpos
    · exact Nat.zero_le _
    · have hpow := Nat.le_trans (Nat.log2_self_le (Nat.ne_of_gt hpos)) h
      exact (Nat.le_log2 (Nat.ne_of_gt (Nat.lt_of_lt_of_le hpos h))).2 hpow
  rcases Nat.lt_or_ge (n.log2 - 52) (n'.log2 - 52) with hlt | hge
  · refine .inr ?_
    rw [doubleStep, Nat.mul_comm]
    exact twoPow_le hlt
  · refine .inl ?_
    rw [doubleStep, doubleStep, Nat.le_antisymm hge (by omega)]

/-- The nearest doubles of two numbers are in the same order. -/
lemma nearestDouble_mono (h : n ≤ n') : nearestDouble n ≤ nearestDouble n' := by
  rw [nearestDouble_eq, nearestDouble_eq]
  rcases doubleStep_cases h with heq | htwice
  · rw [heq]
    exact Nat.mul_le_mul_right _ (roundHalfEven_mono (doubleStep_pos n') h)
  -- Where the steps differ, a power of two lies between the counts, and rounding does not pass it.
  · have hpos := doubleStep_pos n
    have hhigh := Nat.mul_le_mul_right (doubleStep n) (significand_le n)
    have hlow := Nat.mul_le_mul_right (doubleStep n')
      (le_roundHalfEven (doubleStep_pos n') (mul_doubleStep_le (n := n') (by omega)))
    have hbetween := Nat.mul_le_mul_left (Nat.pow 2 52) htwice
    have hpow : Nat.pow 2 53 * doubleStep n = Nat.pow 2 52 * (2 * doubleStep n) := by
      rw [← Nat.mul_assoc]
    omega

/-- A power of two with 53 bits before it is kept too. -/
lemma nearestDouble_of_le (h : n ≤ Nat.pow 2 53) : nearestDouble n = n := by
  rcases Nat.lt_or_eq_of_le h with hlt | rfl
  · exact nearestDouble_of_lt hlt
  · decide

/-- Of the numbers of double precision, those that are no multiples of the step at a count lie below
the power of two that the count reaches. -/
lemma IsDouble.cases (h : IsDouble d) (n : Nat) :
    (∃ q, d = q * doubleStep n) ∨ (1 < doubleStep n ∧ d < Nat.pow 2 52 * doubleStep n) := by
  obtain ⟨m, k, hm, rfl⟩ := h
  rcases Nat.lt_or_ge k (n.log2 - 52) with hlt | hge
  · refine .inr ⟨Nat.lt_of_lt_of_le (by decide) (twoPow_le (a := 1) (by omega)), ?_⟩
    calc m * Nat.pow 2 k < Nat.pow 2 53 * Nat.pow 2 k :=
          Nat.mul_lt_mul_of_pos_right hm (Nat.two_pow_pos k)
      _ = Nat.pow 2 52 * Nat.pow 2 (k + 1) := by rw [← twoPow_add, ← twoPow_add]; congr 1; omega
      _ ≤ Nat.pow 2 52 * doubleStep n := Nat.mul_le_mul_left _ (twoPow_le hlt)
  · refine .inl ⟨m * Nat.pow 2 (k - (n.log2 - 52)), ?_⟩
    rw [Nat.mul_assoc, doubleStep, ← twoPow_add, Nat.sub_add_cancel hge]

/-- What is taken for the nearest double is one. -/
lemma isDouble_nearestDouble (n : Nat) : IsDouble (nearestDouble n) := by
  rw [nearestDouble_eq]
  rcases Nat.lt_or_eq_of_le (significand_le n) with hlt | heq
  · exact ⟨_, _, hlt, rfl⟩
  -- Rounded up to the next power of two, the number has one significant bit.
  · refine ⟨1, 53 + (n.log2 - 52), by decide, ?_⟩
    rw [heq, Nat.one_mul, twoPow_add]
    rfl

/-- No multiple of the step is nearer to a count than the one that it is rounded to. -/
lemma nearestDouble_le_dist (n q : Nat) :
    ((nearestDouble n : Int) - n).natAbs ≤ ((q * doubleStep n : Nat) - n : Int).natAbs ∧
      (((q * doubleStep n : Nat) - n : Int).natAbs = ((nearestDouble n : Int) - n).natAbs →
        q * doubleStep n = nearestDouble n ∨
          (1 < doubleStep n ∧ roundHalfEven n (doubleStep n) % 2 = 0)) := by
  obtain ⟨habove, hbelow, heven⟩ := roundHalfEven_spec (doubleStep_pos n) n
  have hpos := doubleStep_pos n
  rw [nearestDouble_eq]
  generalize roundHalfEven n (doubleStep n) = r at habove hbelow heven
  generalize doubleStep n = step at habove hbelow heven hpos
  have hcases : q * step = r * step ∨ q * step + step ≤ r * step ∨ r * step + step ≤ q * step := by
    rcases Nat.lt_trichotomy q r with hlt | rfl | hlt
    · exact .inr (.inl (by rw [← Nat.succ_mul]; exact Nat.mul_le_mul_right step hlt))
    · exact .inl rfl
    · exact .inr (.inr (by rw [← Nat.succ_mul]; exact Nat.mul_le_mul_right step hlt))
  omega

/-- A count is rounded to the number of double precision that is nearest to it. -/
theorem isNearestDouble (n : Nat) : IsNearestDouble n (nearestDouble n) := by
  have hbelow {d : Nat} (hstep : 1 < doubleStep n) (hd : d < Nat.pow 2 52 * doubleStep n) :
      ((nearestDouble n : Int) - n).natAbs < ((d : Int) - n).natAbs := by
    have hle := mul_doubleStep_le hstep
    have hdist := (nearestDouble_le_dist n (Nat.pow 2 52)).1
    omega
  refine ⟨isDouble_nearestDouble n, ?_, ?_⟩
  · intro d hd
    rcases hd.cases n with ⟨q, rfl⟩ | ⟨hstep, hlt⟩
    · exact (nearestDouble_le_dist n q).1
    · exact Nat.le_of_lt (hbelow hstep hlt)
  · intro d hd hne hdist
    rcases hd.cases n with ⟨q, rfl⟩ | ⟨hstep, hlt⟩
    · rcases (nearestDouble_le_dist n q).2 hdist with heq | ⟨hstep, heven⟩
      · exact absurd heq hne
      · have hlow := le_roundHalfEven (doubleStep_pos n) (mul_doubleStep_le hstep)
        rw [nearestDouble_eq]
        rcases Nat.lt_or_eq_of_le (significand_le n) with hlt | heq
        · exact ⟨_, _, heven, hlow, hlt, rfl⟩
        · refine ⟨Nat.pow 2 52, n.log2 - 52 + 1, by decide, Nat.le_refl _, by decide, ?_⟩
          rw [heq, doubleStep, ← twoPow_add, ← twoPow_add]
          congr 1
          omega
    · exact absurd hdist (Nat.ne_of_gt (hbelow hstep hlt))

end Counts

end FolderCopy
