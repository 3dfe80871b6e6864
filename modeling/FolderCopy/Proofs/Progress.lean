import Mathlib.Algebra.BigOperators.Group.List.Basic
import Mathlib.Algebra.Ring.Int.Defs
import Mathlib.Tactic.Lemma
import FolderCopy.Progress
import FolderCopy.Proofs.Json.Formats

/-!
# Counters under any changes

What becomes of the counters when changes of any size and sign are applied one after the other.
Both counters move alike, so each law is about one counter that is shifted by the amounts that
changes have for it. Main statement: `changes_sound`.
-/

namespace FolderCopy.Progress

/-! ## One shift -/

section Shifts

variable {m n : Nat} {a b : Int}

/-- No shift leads beyond the largest count. -/
lemma shift_le (n : Nat) (a : Int) : shift n a ≤ maxCount :=
  Nat.min_le_right _ _

/-- A shift by nothing leaves a count. -/
lemma shift_zero (hn : n ≤ maxCount) : shift n 0 = n := by
  unfold shift
  omega

/-- A shift keeps the order of two counts and brings them no further apart. -/
lemma shift_between (h : m ≤ n) (a : Int) :
    shift m a ≤ shift n a ∧ shift n a + m ≤ shift m a + n := by
  unfold shift
  omega

/-- Two shifts downwards are one by their sum. -/
lemma shift_shift (hn : n ≤ maxCount) (ha : a ≤ 0) (hb : b ≤ 0) :
    shift (shift n a) b = shift n (a + b) := by
  unfold shift
  omega

/-- A shift that takes away is a difference that stops at zero. -/
lemma shift_eq_max (hn : n ≤ maxCount) (ha : a ≤ 0) : (shift n a : Int) = max 0 (n + a) := by
  unfold shift
  omega

end Shifts

/-! ## Many shifts -/

section Amounts

variable {m n : Nat} {as : List Int}

/-- No shifts lead beyond the largest count. -/
lemma foldl_shift_le (hn : n ≤ maxCount) (as : List Int) : as.foldl shift n ≤ maxCount := by
  cases as using List.reverseRecOn with
  | nil => exact hn
  | append_singleton as a =>
    rw [List.foldl_append]
    exact shift_le _ a

/-- Shifts keep the order of two counts, and lead them no further apart. -/
lemma foldl_shift_between (h : m ≤ n) (as : List Int) :
    as.foldl shift m ≤ as.foldl shift n ∧ as.foldl shift n + m ≤ as.foldl shift m + n := by
  -- Each shift keeps what the rest of them needs: the order, and the gap that was there before.
  induction as generalizing m n with
  | nil => exact ⟨h, Nat.le_of_eq (Nat.add_comm n m)⟩
  | cons a as ih =>
    obtain ⟨horder, hgap⟩ := shift_between h a
    obtain ⟨horder', hgap'⟩ := ih horder
    rw [List.foldl_cons, List.foldl_cons]
    exact ⟨horder', by omega⟩

/-- Shifts lead two counts no further apart. -/
lemma natAbs_foldl_shift_sub_le (m n : Nat) (as : List Int) :
    (((as.foldl shift m : Nat) : Int) - (as.foldl shift n : Nat)).natAbs ≤
      ((m : Int) - n).natAbs := by
  rcases Nat.le_total m n with h | h
  · have hbetween := foldl_shift_between h as
    omega
  · have hbetween := foldl_shift_between h as
    omega

/-- Where no amount is positive, their sum is not. -/
lemma sum_nonpos (h : ∀ a ∈ as, a ≤ 0) : as.sum ≤ 0 := by
  induction as with
  | nil => exact Int.le_refl 0
  | cons a as ih =>
    rw [List.forall_mem_cons] at h
    rw [List.sum_cons]
    exact Int.add_nonpos h.1 (ih h.2)

/-- Shifts that take away come to one shift by their sum. -/
lemma foldl_shift_of_nonpos (hn : n ≤ maxCount) (h : ∀ a ∈ as, a ≤ 0) :
    as.foldl shift n = shift n as.sum := by
  induction as generalizing n with
  | nil => exact (shift_zero hn).symm
  | cons a as ih =>
    rw [List.forall_mem_cons] at h
    rw [List.foldl_cons, ih (shift_le n a) h.2, shift_shift hn h.1 (sum_nonpos h.2), List.sum_cons]

end Amounts

/-! ## Shifts in words -/

/-- A difference of words, or zero where there is none. -/
def saturatingSub (x y : UInt64) : UInt64 :=
  if x < y then 0 else x - y

/-- A sum of words, or the largest word where there is none. -/
def saturatingAdd (x y : UInt64) : UInt64 :=
  if .ofNat maxCount - x < y then .ofNat maxCount else x + y

/-- A counter of 64 bits moved by a word with a sign. The magnitude of the word is read without a
sign, so that the least one has one too. -/
def shiftWord (count : UInt64) (by_ : Int64) : UInt64 :=
  if by_ < 0 then saturatingSub count (-by_).toUInt64 else saturatingAdd count by_.toUInt64

/-- The saturating difference of words is the difference of numbers. -/
lemma toNat_saturatingSub (x y : UInt64) : (saturatingSub x y).toNat = x.toNat - y.toNat := by
  unfold saturatingSub
  split
  case isTrue h =>
    rw [UInt64.lt_iff_toNat_lt] at h
    exact (Nat.sub_eq_zero_of_le (Nat.le_of_lt h)).symm
  case isFalse h => exact UInt64.toNat_sub_of_le _ _ (UInt64.not_lt.1 h)

/-- The saturating sum of words is the sum of numbers, up to the largest count. -/
lemma toNat_saturatingAdd (x y : UInt64) :
    (saturatingAdd x y).toNat = min (x.toNat + y.toNat) maxCount := by
  have hx : x.toNat ≤ maxCount := Nat.le_of_lt_succ x.toNat_lt
  have hmax : (UInt64.ofNat maxCount).toNat = maxCount := by decide
  have hroom : (UInt64.ofNat maxCount - x).toNat = maxCount - x.toNat := by
    rw [UInt64.toNat_sub_of_le _ _ (UInt64.le_iff_toNat_le.2 (hmax ▸ hx)), hmax]
  unfold saturatingAdd
  split
  case isTrue h =>
    rw [UInt64.lt_iff_toNat_lt, hroom] at h
    omega
  case isFalse h =>
    rw [UInt64.lt_iff_toNat_lt, hroom] at h
    rw [UInt64.toNat_add, Nat.min_eq_left (by omega)]
    exact Nat.mod_eq_of_lt (by rw [maxCount] at h hx; omega)

/-- A word with a sign, by the word that has the same bits. -/
lemma toInt_cases (x : Int64) :
    (2 * x.toUInt64.toNat < UInt64.size ∧ x.toInt = x.toUInt64.toNat) ∨
      (UInt64.size ≤ 2 * x.toUInt64.toNat ∧ x.toInt = x.toUInt64.toNat - (UInt64.size : Nat)) := by
  have hcond : x.toInt = if 2 * x.toUInt64.toNat < UInt64.size then (x.toUInt64.toNat : Int)
      else x.toUInt64.toNat - (UInt64.size : Nat) := BitVec.toInt_eq_toNat_cond x.toBitVec
  split at hcond
  case isTrue h => exact .inl ⟨h, hcond⟩
  case isFalse h => exact .inr ⟨Nat.le_of_not_lt h, hcond⟩

/-- The magnitude of a negative word; that of the least one is read off its own bits. -/
lemma toNat_neg_toUInt64 {x : Int64} (h : x.toInt < 0) :
    (-x).toUInt64.toNat = (-x.toInt).toNat := by
  have hlt : x.toUInt64.toNat < UInt64.size := x.toUInt64.toNat_lt
  rw [Int64.toUInt64_neg, UInt64.toNat_neg]
  rcases toInt_cases x with ⟨-, hx⟩ | ⟨hhigh, hx⟩
  · omega
  · rw [Nat.mod_eq_of_lt (by omega)]
    omega

/-- A word that is not negative is the same number without a sign. -/
lemma toNat_toUInt64 {x : Int64} (h : 0 ≤ x.toInt) : x.toUInt64.toNat = x.toInt.toNat := by
  have hlt : x.toUInt64.toNat < UInt64.size := x.toUInt64.toNat_lt
  rcases toInt_cases x with ⟨-, hx⟩ | ⟨-, hx⟩
  · omega
  · omega

/-- In words a counter is moved as it is in numbers: nothing wraps around. -/
lemma toNat_shiftWord (count : UInt64) (by_ : Int64) :
    (shiftWord count by_).toNat = shift count.toNat by_.toInt := by
  have hcount : count.toNat ≤ maxCount := Nat.le_of_lt_succ count.toNat_lt
  unfold shiftWord shift
  split
  case isTrue h =>
    have hneg : by_.toInt < 0 := Int64.lt_iff_toInt_lt.1 h
    rw [toNat_saturatingSub, toNat_neg_toUInt64 hneg]
    omega
  case isFalse h =>
    have hnonneg : 0 ≤ by_.toInt := Int.not_lt.1 fun hneg => h (Int64.lt_iff_toInt_lt.2 hneg)
    rw [toNat_saturatingAdd, toNat_toUInt64 hnonneg]
    omega

/-- Shifts of a word are shifts of its number. -/
lemma toNat_foldl_shiftWord (count : UInt64) (words : List Int64) :
    (words.foldl shiftWord count).toNat = (words.map Int64.toInt).foldl shift count.toNat := by
  induction words generalizing count with
  | nil => rfl
  | cons by_ words ih => rw [List.foldl_cons, ih, toNat_shiftWord, List.map_cons, List.foldl_cons]

/-! ## Both counters -/

/-- One of the two counters. -/
inductive Counter where
  | bytes
  | files
  deriving DecidableEq, Repr

/-- How much is left by one of the counters. -/
def Snapshot.count (s : Snapshot) : Counter → Nat
  | .bytes => s.bytes
  | .files => s.files

/-- The amount that a change has for one of the counters. -/
def Delta.amount (d : Delta) : Counter → Int
  | .bytes => d.bytes
  | .files => d.files

/-- The changes that are made together by several. -/
def Delta.total (ds : List Delta) : Delta :=
  ⟨(ds.map (·.bytes)).sum, (ds.map (·.files)).sum⟩

section Counters

variable {s : Snapshot} {d : Delta} {ds : List Delta}

/-- Both counters fit where a snapshot fits. -/
lemma Snapshot.Fits.count_le (h : s.Fits) (c : Counter) : s.count c ≤ maxCount := by
  cases c with
  | bytes => exact h.1
  | files => exact h.2

/-- The amounts of a change that fits are words. -/
lemma Delta.Fits.toInt_ofInt_amount (h : d.Fits) (c : Counter) :
    (Int64.ofInt (d.amount c)).toInt = d.amount c := by
  obtain ⟨⟨hbytes, hbytes'⟩, hfiles, hfiles'⟩ := h
  cases c with
  | bytes => exact Int64.toInt_ofInt_of_le hbytes (Int.lt_add_one_of_le hbytes')
  | files => exact Int64.toInt_ofInt_of_le hfiles (Int.lt_add_one_of_le hfiles')

/-- The amount of a total is the sum of the amounts. -/
lemma Delta.amount_total (ds : List Delta) (c : Counter) :
    (total ds).amount c = (ds.map (·.amount c)).sum := by
  cases c <;> rfl

/-- Each counter is shifted by its own amounts. -/
lemma count_foldl_apply (s : Snapshot) (ds : List Delta) (c : Counter) :
    (ds.foldl Snapshot.apply s).count c = (ds.map (·.amount c)).foldl shift (s.count c) := by
  induction ds generalizing s with
  | nil => rfl
  | cons d ds ih =>
    rw [List.foldl_cons, ih, List.map_cons, List.foldl_cons]
    cases c <;> rfl

/-- Counters that fit still fit after changes. -/
lemma fits_foldl_apply (h : s.Fits) (ds : List Delta) : (ds.foldl Snapshot.apply s).Fits := by
  have hcount (c : Counter) : (ds.foldl Snapshot.apply s).count c ≤ maxCount := by
    rw [count_foldl_apply]
    exact foldl_shift_le (h.count_le c) _
  exact ⟨hcount .bytes, hcount .files⟩

/-- Changes that lower a counter move it by their sum, whatever their order is. -/
lemma count_foldl_apply_of_nonpos {c : Counter} (hs : s.Fits) (h : ∀ d ∈ ds, d.amount c ≤ 0) :
    (ds.foldl Snapshot.apply s).count c = shift (s.count c) (ds.map (·.amount c)).sum := by
  rw [count_foldl_apply, foldl_shift_of_nonpos (hs.count_le c)]
  exact List.forall_mem_map.2 h

/-- Together, changes that lower a counter lower it. -/
lemma amount_total_nonpos {groups : List (List Delta)} {c : Counter}
    (h : ∀ d ∈ groups.flatten, d.amount c ≤ 0) :
    ∀ d ∈ groups.map Delta.total, d.amount c ≤ 0 := by
  refine List.forall_mem_map.2 fun ds hds => ?_
  rw [Delta.amount_total]
  exact sum_nonpos (List.forall_mem_map.2 fun d hd => h d (List.mem_flatten_of_mem hds hd))

/-- The amounts of totals add up to those of all changes. -/
lemma sum_amount_total (groups : List (List Delta)) (c : Counter) :
    ((groups.map Delta.total).map (·.amount c)).sum = (groups.flatten.map (·.amount c)).sum := by
  rw [List.map_flatten, List.sum_flatten, List.map_map, List.map_map]
  exact congrArg List.sum (List.map_congr_left fun ds _ => Delta.amount_total ds c)

/-- Both counters are shifted as words just as they are as numbers. -/
lemma toNat_foldl_shiftWord_amount (hs : s.Fits) (hds : ∀ d ∈ ds, d.Fits) (c : Counter) :
    ((ds.map fun d => Int64.ofInt (d.amount c)).foldl shiftWord (.ofNat (s.count c))).toNat =
      (ds.foldl Snapshot.apply s).count c := by
  have hcount : (UInt64.ofNat (s.count c)).toNat = s.count c :=
    UInt64.toNat_ofNat_of_lt' (Nat.lt_succ_of_le (hs.count_le c))
  rw [toNat_foldl_shiftWord, hcount, count_foldl_apply, List.map_map]
  exact congrArg (List.foldl shift (s.count c))
    (List.map_congr_left fun d hd => (hds d hd).toInt_ofInt_amount c)

/-- Bytes that have arrived are taken from those that are left, as far as there are any. -/
lemma apply_received (hs : s.Fits) {n : Nat} (hn : n < Nat.pow 2 63) :
    s.apply (.received n) = ⟨s.bytes - min s.bytes n, s.files⟩ := by
  have hle : (n : Int) ≤ Json.maxInt := by
    have hn' : n < 9223372036854775808 := hn
    rw [Json.maxInt]
    omega
  have hbytes : (s.apply (.received n)).bytes = s.bytes - min s.bytes n := by
    rw [Snapshot.apply, Delta.received, Int.min_eq_left hle]
    show shift s.bytes (-n) = _
    rw [shift_of_nonpos hs.1 (by omega)]
    omega
  exact congrArg₂ Snapshot.mk hbytes (shift_zero hs.2)

end Counters

/-- The counters are sound under any changes. They stay counts of 64 bits, and words of 64 bits give
the same; of two baselines each counter keeps the order, and the distance at most. Where changes
only lower a counter, it goes down by their sum as far as zero, in any order of them, and with
neighbours put together to their sum. Bytes that have arrived lower their counter by just as many as
it has. -/
theorem changes_sound :
    (∀ (s : Snapshot) (ds : List Delta), s.Fits → (∀ d ∈ ds, d.Fits) →
      (ds.foldl Snapshot.apply s).Fits ∧ ∀ c : Counter,
        ((ds.map fun d => Int64.ofInt (d.amount c)).foldl shiftWord (.ofNat (s.count c))).toNat =
          (ds.foldl Snapshot.apply s).count c) ∧
    (∀ (s s' : Snapshot) (ds : List Delta) (c : Counter),
      (s.count c ≤ s'.count c →
        (ds.foldl Snapshot.apply s).count c ≤ (ds.foldl Snapshot.apply s').count c) ∧
      (((ds.foldl Snapshot.apply s).count c : Int) - (ds.foldl Snapshot.apply s').count c).natAbs ≤
        ((s.count c : Int) - s'.count c).natAbs) ∧
    (∀ (s : Snapshot) (ds : List Delta) (c : Counter), s.Fits → (∀ d ∈ ds, d.amount c ≤ 0) →
      ((ds.foldl Snapshot.apply s).count c : Int) =
        max 0 (s.count c + (ds.map (·.amount c)).sum) ∧
      (∀ ds', ds.Perm ds' →
        (ds'.foldl Snapshot.apply s).count c = (ds.foldl Snapshot.apply s).count c) ∧
      ∀ groups : List (List Delta), groups.flatten = ds →
        ((groups.map Delta.total).foldl Snapshot.apply s).count c =
          (ds.foldl Snapshot.apply s).count c) ∧
    ∀ (s : Snapshot) (n : Nat), s.Fits → n < Nat.pow 2 63 →
      s.apply (.received n) = ⟨s.bytes - min s.bytes n, s.files⟩ := by
  refine ⟨?_, ?_, ?_, fun s n hs hn => apply_received hs hn⟩
  · intro s ds hs hds
    exact ⟨fits_foldl_apply hs ds, toNat_foldl_shiftWord_amount hs hds⟩
  · intro s s' ds c
    rw [count_foldl_apply, count_foldl_apply]
    exact ⟨fun h => (foldl_shift_between h _).1, natAbs_foldl_shift_sub_le _ _ _⟩
  · intro s ds c hs h
    rw [count_foldl_apply_of_nonpos hs h]
    refine ⟨shift_eq_max (hs.count_le c) (sum_nonpos (List.forall_mem_map.2 h)), ?_, ?_⟩
    · intro ds' hperm
      rw [count_foldl_apply_of_nonpos hs fun d hd => h d (hperm.mem_iff.2 hd),
        (hperm.map _).sum_eq]
    · rintro groups rfl
      rw [count_foldl_apply_of_nonpos hs (amount_total_nonpos h), sum_amount_total]

/-- The counters under the least and the largest amounts, and under downloads of seven bytes of
which five were listed. -/
theorem changes_sound_extremes :
    ([⟨Json.minInt, Json.maxInt⟩, ⟨Json.maxInt, Json.minInt⟩].foldl Snapshot.apply
        ⟨5, maxCount⟩).Fits ∧
      (([Json.minInt, Json.maxInt].map Int64.ofInt).foldl shiftWord (.ofNat 5)).toNat =
        9223372036854775807 ∧
      ([Delta.received 3, .received 4].foldl Snapshot.apply ⟨0, 0⟩).bytes ≤
        ([Delta.received 3, .received 4].foldl Snapshot.apply ⟨5, 0⟩).bytes ∧
      ([Delta.received 3, .completed, .received 4].foldl Snapshot.apply ⟨5, 2⟩).bytes = 0 ∧
      Snapshot.apply ⟨5, 2⟩ (.received 9223372036854775807) = ⟨0, 2⟩ := by
  have hfits : Snapshot.Fits ⟨5, 2⟩ := ⟨by decide, by decide⟩
  have hlow : ∀ d ∈ [Delta.received 3, .completed, .received 4], d.amount .bytes ≤ 0 := by decide
  obtain ⟨hwords, hbetween, hdown, hreceived⟩ := changes_sound
  obtain ⟨hrange, hextreme⟩ := hwords ⟨5, maxCount⟩
    [⟨Json.minInt, Json.maxInt⟩, ⟨Json.maxInt, Json.minInt⟩] ⟨by decide, Nat.le_refl _⟩
    (by simp [Delta.Fits, Json.minInt, Json.maxInt])
  refine ⟨hrange, ?_, ?_, ?_, ?_⟩
  · exact (hextreme .bytes).trans (by decide +kernel)
  · exact (hbetween ⟨0, 0⟩ ⟨5, 0⟩ [.received 3, .received 4] .bytes).1 (Nat.zero_le 5)
  · exact Int.ofNat_inj.1 (hdown ⟨5, 2⟩ _ .bytes hfits hlow).1
  · exact hreceived ⟨5, 2⟩ 9223372036854775807 hfits (by decide)

/-- Amounts of both signs do not commute: what stops at zero on the way is not made up for. -/
example : [Delta.mk (-5) 0, ⟨5, 0⟩].foldl Snapshot.apply .zero = ⟨5, 0⟩ ∧
    [Delta.mk 5 0, ⟨-5, 0⟩].foldl Snapshot.apply .zero = .zero := by
  decide

end FolderCopy.Progress
