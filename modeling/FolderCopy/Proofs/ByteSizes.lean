import Mathlib.Algebra.Order.Field.Basic
import Mathlib.Data.Rat.Cast.Order
import Mathlib.Tactic.FieldSimp
import Mathlib.Tactic.Linarith
import Mathlib.Tactic.NormNum
import Mathlib.Tactic.Ring
import Mathlib.Tactic.SplitIfs
import FolderCopy.ByteSize
import FolderCopy.Proofs.DoublePrecision

/-!
# Sizes as people read them

A size that is shown is read as hundredths of a unit. It is the count itself as long as it is shown
in bytes, and else as near to it as two decimals and double precision allow; a larger count never
looks smaller. Main statement: `sizes_faithful`.
-/

namespace FolderCopy.ByteSize

/-! ## Units -/

/-- Whether a unit is the largest one that a count reaches, or the byte for none. -/
structure Scale.IsLargest (u : Scale) (n : Nat) : Prop where
  reached : u.bytes ≤ n ∨ n = 0 ∧ u = .byte
  largest : ∀ v : Scale, v.bytes ≤ n → v.bytes ≤ u.bytes

/-- A unit has at least one byte. -/
lemma Scale.bytes_pos (u : Scale) : 0 < u.bytes := by
  cases u <;> decide

/-- The unit of a number of bytes is the largest one that it reaches. -/
lemma Scale.isLargest_of (n : Nat) : (Scale.of n).IsLargest n := by
  unfold Scale.of
  constructor
  · split_ifs <;> simp_all [bytes]
    omega
  · intro v hv
    cases v <;> split_ifs <;> simp_all [bytes]

/-- A number of bytes is below the next unit, unless there is none. -/
lemma Scale.lt_of (n : Nat) : Scale.of n = .tera ∨ n < 1024 * (Scale.of n).bytes := by
  unfold Scale.of
  split_ifs <;> simp_all [bytes]

/-- A larger count is shown in the same unit, or in one that holds 1024 of it at least. -/
lemma Scale.of_cases {m n : Nat} (h : m ≤ n) :
    Scale.of m = Scale.of n ∨
      (Scale.of m ≠ .tera ∧ Scale.of n ≠ .byte ∧
        1024 * (Scale.of m).bytes ≤ (Scale.of n).bytes) := by
  unfold Scale.of
  split_ifs <;> simp_all [bytes] <;> omega

/-! ## Hundredths -/

/-- In every unit the hundredths are those of the double-precision number. -/
lemma hundredths_eq (n : Nat) :
    hundredths n = roundHalfEven (100 * nearestDouble n) (Scale.of n).bytes := by
  unfold hundredths
  split
  case h_1 hu =>
    have hn : n < 1024 := by
      rcases Scale.lt_of n with ht | hlt
      · rw [hu] at ht
        cases ht
      · rwa [hu] at hlt
    have hwhole := roundHalfEven_mul Nat.zero_lt_one (100 * n)
    rw [Nat.mul_one] at hwhole
    rw [nearestDouble_of_le (hn.le.trans (by decide)), hu]
    exact hwhole.symm
  case h_2 => rfl

/-- What is shown in a larger unit than the byte is one of that unit at least. -/
lemma le_hundredths {n : Nat} (h : Scale.of n ≠ .byte) : 100 ≤ hundredths n := by
  have hreached : (Scale.of n).bytes ≤ n :=
    (Scale.isLargest_of n).reached.resolve_right fun hz => h hz.2
  have hunit : (Scale.of n).bytes ≤ Nat.pow 2 53 := by
    cases Scale.of n <;> decide
  have hdouble := nearestDouble_mono hreached
  rw [nearestDouble_of_le hunit] at hdouble
  rw [hundredths_eq]
  exact le_roundHalfEven (Scale.bytes_pos _) (Nat.mul_le_mul_left 100 hdouble)

/-- No more than 1024 of a unit are shown, unless it is the largest one. -/
lemma hundredths_le {n : Nat} (h : Scale.of n ≠ .tera) : hundredths n ≤ 100 * 1024 := by
  have hlt := (Scale.lt_of n).resolve_left h
  have hunit : 1024 * (Scale.of n).bytes ≤ Nat.pow 2 53 := by
    cases hu : Scale.of n with
    | tera => exact absurd hu h
    | _ => decide
  rw [hundredths_eq, nearestDouble_of_le (hlt.le.trans hunit)]
  apply roundHalfEven_le (Scale.bytes_pos _)
  rw [Nat.mul_assoc]
  exact Nat.mul_le_mul_left 100 hlt.le

/-- A larger count is shown as no smaller size. -/
lemma hundredths_mul_bytes_mono {m n : Nat} (h : m ≤ n) :
    hundredths m * (Scale.of m).bytes ≤ hundredths n * (Scale.of n).bytes := by
  rcases Scale.of_cases h with heq | ⟨hm, hn, hle⟩
  · rw [heq, hundredths_eq, hundredths_eq, heq]
    exact Nat.mul_le_mul_right _ (roundHalfEven_mono (Scale.bytes_pos _)
      (Nat.mul_le_mul_left 100 (nearestDouble_mono h)))
  · calc hundredths m * (Scale.of m).bytes ≤ 100 * 1024 * (Scale.of m).bytes :=
          Nat.mul_le_mul_right _ (hundredths_le hm)
      _ = 100 * (1024 * (Scale.of m).bytes) := Nat.mul_assoc _ _ _
      _ ≤ 100 * (Scale.of n).bytes := Nat.mul_le_mul_left 100 hle
      _ ≤ hundredths n * (Scale.of n).bytes := Nat.mul_le_mul_right _ (le_hundredths hn)

/-! ## Reading a size -/

/-- A size that is read: a number of hundredths of a unit. -/
structure Reading where
  hundredths : Nat
  scale : Scale
  deriving DecidableEq, Repr

/-- The number that stands before the unit. -/
def Reading.number (r : Reading) : ℚ :=
  r.hundredths / 100

/-- The bytes that a size amounts to. -/
def Reading.size (r : Reading) : ℚ :=
  r.number * r.scale.bytes

/-- The number that digits without leading zeros spell. -/
def numeral? (ds : List Char) : Option Nat :=
  let n := Text.digitsValue ds
  if Nat.toDigits 10 n = ds then some n else none

/-- The hundredths that a number spells: a whole number of bytes, or two decimals of another unit.
-/
def hundredths? (u : Scale) (number : List Char) : Option Nat :=
  match u, number.splitOn '.' with
  | .byte, [whole] => (numeral? whole).map (100 * ·)
  | .byte, _ => none
  | _, [whole, cents] =>
    if cents.length = 2 ∧ cents.all Char.isDigit then
      (numeral? whole).map (100 * · + Text.digitsValue cents)
    else none
  | _, _ => none

/-- The size that a text stands for. -/
def read? (text : String) : Option Reading :=
  match text.toList.splitOn ' ' with
  | [number, symbol] => do
    let u ← [Scale.byte, .kilo, .mega, .giga, .tera].find? (·.symbol.toList == symbol)
    let h ← hundredths? u number
    return ⟨h, u⟩
  | _ => none

/-- The digits of a number are read as this number. -/
lemma numeral?_toDigits (n : Nat) : numeral? (Nat.toDigits 10 n) = some n := by
  have hvalue : Text.digitsValue (Nat.toDigits 10 n) = n := Nat.ofDigitChars_ten_toDigits
  simp [numeral?, hvalue]

/-- Two digits are written for what is below a hundred, and stand for it. -/
lemma twoDigits_spec : ∀ n < 100, (Text.twoDigits n).toList.length = 2 ∧
    (Text.twoDigits n).toList.all Char.isDigit ∧
    Text.digitsValue (Text.twoDigits n).toList = n := by
  decide +kernel

/-- Only digits are among the digits of a number. -/
lemma not_mem_toDigits {c : Char} (hc : ¬ c.isDigit) (k : Nat) : c ∉ Nat.toDigits 10 k :=
  fun hmem => hc (Nat.isDigit_of_mem_toDigits (by decide) (by decide) hmem)

/-- Only digits are among two digits. -/
lemma not_mem_twoDigits {c : Char} (hc : ¬ c.isDigit) {k : Nat} (hk : k < 100) :
    c ∉ (Text.twoDigits k).toList :=
  fun hmem => hc (List.all_eq_true.1 (twoDigits_spec k hk).2.1 c hmem)

/-- The digits of a number are in one piece, as there is no point among them. -/
lemma splitOn_toDigits (k : Nat) : (Nat.toDigits 10 k).splitOn '.' = [Nat.toDigits 10 k] :=
  List.splitOn_eq_singleton (by simpa using not_mem_toDigits (by decide) k)

/-- A whole number of bytes is read as such. -/
lemma hundredths?_whole (k : Nat) : hundredths? .byte (Nat.toDigits 10 k) = some (100 * k) := by
  simp [hundredths?, splitOn_toDigits, numeral?_toDigits]

/-- A number with two decimals is read as whole and hundredths. -/
lemma hundredths?_decimals {u : Scale} (hu : u ≠ .byte) (whole : Nat) {cents : Nat}
    (hc : cents < 100) :
    hundredths? u (Nat.toDigits 10 whole ++ '.' :: (Text.twoDigits cents).toList) =
      some (100 * whole + cents) := by
  obtain ⟨hlength, hall, hvalue⟩ := twoDigits_spec cents hc
  have hcents : (Text.twoDigits cents).toList.splitOn '.' = [(Text.twoDigits cents).toList] :=
    List.splitOn_eq_singleton (by simpa using not_mem_twoDigits (by decide) hc)
  unfold hundredths?
  rw [List.splitOn_append_cons_self, splitOn_toDigits, hcents]
  cases u with
  | byte => exact absurd rfl hu
  | _ => simp [hlength, hall, numeral?_toDigits, hvalue]

/-- A number without blanks is told from the symbol behind it. -/
lemma read?_blank {u : Scale} {text : String} {number : List Char} {h : Nat}
    (ht : text.toList = number ++ ' ' :: u.symbol.toList) (hn : ' ' ∉ number)
    (hh : hundredths? u number = some h) : read? text = some ⟨h, u⟩ := by
  have hsymbol : u.symbol.toList.splitOn ' ' = [u.symbol.toList] := by
    cases u <;> rfl
  have hnumber : number.splitOn ' ' = [number] := List.splitOn_eq_singleton (by simpa using hn)
  rw [read?, ht, List.splitOn_append_cons_self, hsymbol, hnumber]
  cases u <;> simp [Scale.symbol, hh]

/-- The characters of a number are its digits. -/
lemma toList_toString (k : Nat) : (toString k).toList = Nat.toDigits 10 k :=
  Nat.toList_repr

/-- Bytes are shown as a whole number. -/
lemma render_of_byte {n : Nat} (h : Scale.of n = .byte) : render n = toString n ++ " B" := by
  rw [render, h]
  rfl

/-- Bytes are shown as they are. -/
lemma hundredths_of_byte {n : Nat} (h : Scale.of n = .byte) : hundredths n = 100 * n := by
  rw [hundredths, h]

/-- Larger units are shown with two decimals. -/
lemma render_of_ne_byte {n : Nat} (h : Scale.of n ≠ .byte) :
    render n = toString (hundredths n / 100) ++ "." ++ Text.twoDigits (hundredths n % 100) ++ " " ++
      (Scale.of n).symbol := by
  unfold render
  split
  case h_1 hu => exact absurd hu h
  case h_2 => rfl

/-- What is shown for a count is read as its hundredths in its unit. -/
lemma read?_render (n : Nat) : read? (render n) = some ⟨hundredths n, Scale.of n⟩ := by
  by_cases hu : Scale.of n = .byte
  · rw [hu, hundredths_of_byte hu]
    refine read?_blank ?_ (not_mem_toDigits (by decide) n) (hundredths?_whole n)
    rw [render_of_byte hu, String.toList_append, toList_toString]
    rfl
  · have hcents : hundredths n % 100 < 100 := Nat.mod_lt _ (by decide)
    have hread := hundredths?_decimals hu (hundredths n / 100) hcents
    rw [Nat.div_add_mod] at hread
    refine read?_blank ?_ ?_ hread
    · rw [render_of_ne_byte hu, ← toList_toString]
      simp
    · have hblank : ¬ ' '.isDigit := by decide
      simp [not_mem_toDigits hblank, not_mem_twoDigits hblank hcents]

/-! ## The size that is shown -/

/-- Whether a whole number is the one nearest to a rational, a half going to an even one. -/
structure RoundsTo (x : ℚ) (n : Nat) : Prop where
  near : |(n : ℚ) - x| ≤ 1 / 2
  even : |(n : ℚ) - x| = 1 / 2 → n % 2 = 0

/-- Rounding half to even gives a nearest number, and of two nearest ones the even one. -/
lemma roundsTo_roundHalfEven {den : Nat} (hd : 0 < den) (num : Nat) :
    RoundsTo (num / den) (roundHalfEven num den) := by
  obtain ⟨habove, hbelow, heven⟩ := roundHalfEven_spec hd num
  generalize roundHalfEven num den = r at habove hbelow heven
  have hpos : (0 : ℚ) < den := by exact_mod_cast hd
  have hdist : |(r : ℚ) - num / den| = |(r * den - num : ℚ)| / den := by
    have hsub : (r : ℚ) - num / den = (r * den - num) / den := by field_simp
    rw [hsub, abs_div, abs_of_pos hpos]
  have habove' : (2 * (r * den) : ℚ) ≤ 2 * num + den := by exact_mod_cast habove
  have hbelow' : (2 * num : ℚ) ≤ 2 * (r * den) + den := by exact_mod_cast hbelow
  constructor
  · rw [hdist, div_le_iff₀ hpos, abs_le]
    constructor <;> linarith
  · intro hhalf
    rw [hdist, div_eq_iff hpos.ne'] at hhalf
    apply heven
    rcases (abs_eq (by linarith)).1 hhalf with hup | hdown
    · left
      have heq : (2 * (r * den) : ℚ) = 2 * num + den := by linarith
      exact_mod_cast heq
    · right
      have heq : (2 * num : ℚ) = 2 * (r * den) + den := by linarith
      exact_mod_cast heq

/-- The double-precision number is shown in hundredths of the unit, rounded. -/
lemma roundsTo_hundredths (n : Nat) :
    RoundsTo (100 * (nearestDouble n / (Scale.of n).bytes)) (hundredths n) := by
  have hrounds := roundsTo_roundHalfEven (Scale.bytes_pos (Scale.of n)) (100 * nearestDouble n)
  rw [← hundredths_eq, Nat.cast_mul, mul_div_assoc] at hrounds
  exact_mod_cast hrounds

/-- What is shown differs from what is rounded by half a hundredth of the unit at most. -/
lemma RoundsTo.abs_size_sub_le {r : Reading} {d : ℚ}
    (h : RoundsTo (100 * (d / r.scale.bytes)) r.hundredths) :
    |r.size - d| ≤ r.scale.bytes / 200 := by
  have hpos : (0 : ℚ) < r.scale.bytes := by exact_mod_cast Scale.bytes_pos r.scale
  have hsize : r.size - d =
      (r.hundredths - 100 * (d / r.scale.bytes)) * (r.scale.bytes / 100) := by
    rw [Reading.size, Reading.number]
    field_simp
  calc |r.size - d| = |r.hundredths - 100 * (d / r.scale.bytes)| * (r.scale.bytes / 100) := by
        rw [hsize, abs_mul, abs_of_pos (div_pos hpos (by norm_num))]
    _ ≤ 1 / 2 * (r.scale.bytes / 100) :=
        mul_le_mul_of_nonneg_right h.near (div_pos hpos (by norm_num)).le
    _ = r.scale.bytes / 200 := by ring

/-- Double precision changes nothing up to 53 bits, and 1024 bytes at most up to 64. -/
lemma abs_nearestDouble_sub_le {n : Nat} (h : n ≤ maxCount) :
    |(nearestDouble n : ℚ) - n| ≤ if n ≤ Nat.pow 2 53 then 0 else 1024 := by
  split
  case isTrue hn =>
    rw [nearestDouble_of_le hn, sub_self, abs_zero]
  case isFalse =>
    obtain ⟨habove, hbelow⟩ := nearestDouble_error n
    have hstep : doubleStep n ≤ 2048 := doubleStep_le (Nat.lt_succ_of_le h)
    have habove' : (nearestDouble n : ℚ) ≤ n + 1024 := by
      exact_mod_cast (by omega : nearestDouble n ≤ n + 1024)
    have hbelow' : (n : ℚ) ≤ nearestDouble n + 1024 := by
      exact_mod_cast (by omega : n ≤ nearestDouble n + 1024)
    rw [abs_le]
    constructor <;> linarith

/-- What is shown differs from the count by half a hundredth of the unit at most, and by what double
precision takes or adds. -/
lemma abs_size_sub_le {n : Nat} (h : n ≤ maxCount) :
    |(Reading.mk (hundredths n) (Scale.of n)).size - n| ≤
      ((Scale.of n).bytes / 200 + if n ≤ Nat.pow 2 53 then 0 else 1024 : ℚ) :=
  (abs_sub_le _ (nearestDouble n : ℚ) _).trans
    (add_le_add (roundsTo_hundredths n).abs_size_sub_le (abs_nearestDouble_sub_le h))

/-- Bytes are shown without error. -/
lemma size_of_byte {n : Nat} (h : Scale.of n = .byte) :
    (Reading.mk (hundredths n) (Scale.of n)).size = n := by
  rw [Reading.size, Reading.number, hundredths_of_byte h, h]
  simp [Scale.bytes]

/-- A size in a larger unit than the byte is shown with a number of one at least, and of 1024 at
most if there is a larger unit still. -/
lemma number_bounds {n : Nat} (h : Scale.of n ≠ .byte) :
    1 ≤ (Reading.mk (hundredths n) (Scale.of n)).number ∧
      (Scale.of n ≠ .tera → (Reading.mk (hundredths n) (Scale.of n)).number ≤ 1024) := by
  constructor
  · have hle : (100 : ℚ) ≤ hundredths n := by exact_mod_cast le_hundredths h
    rw [Reading.number, le_div_iff₀ (by norm_num)]
    linarith
  · intro ht
    have hle : (hundredths n : ℚ) ≤ 100 * 1024 := by exact_mod_cast hundredths_le ht
    rw [Reading.number, div_le_iff₀ (by norm_num)]
    linarith

/-- What is shown does not get smaller where the number of bytes does not. -/
lemma size_mono {m n : Nat} (h : m ≤ n) :
    (Reading.mk (hundredths m) (Scale.of m)).size ≤
      (Reading.mk (hundredths n) (Scale.of n)).size := by
  have hle : (hundredths m * (Scale.of m).bytes : ℚ) ≤ hundredths n * (Scale.of n).bytes := by
    exact_mod_cast hundredths_mul_bytes_mono h
  simp only [Reading.size, Reading.number]
  linarith

/-- What is shown for a count is read as a size in the largest unit that the count reaches: the
count itself if that is the byte, and else two decimals, which are the nearest double-precision
number in this unit, rounded. So the size is as near to the count as this allows, the number stays
below the next unit, and a larger count is never shown as a smaller size. -/
theorem sizes_faithful :
    (∀ b ≤ maxCount, ∃ r, read? (render b) = some r ∧ r.scale.IsLargest b ∧
      (r.scale = .byte → render b = toString b ++ " B" ∧ r.size = b) ∧
      (r.scale ≠ .byte →
        |r.size - b| ≤ (r.scale.bytes / 200 + if b ≤ Nat.pow 2 53 then 0 else 1024 : ℚ) ∧
        1 ≤ r.number ∧ (r.scale ≠ .tera → r.number ≤ 1024) ∧
        ∃ d, IsNearestDouble b d ∧ RoundsTo (100 * (d / r.scale.bytes)) r.hundredths)) ∧
    ∀ b b', b ≤ b' → ∃ r r', read? (render b) = some r ∧ read? (render b') = some r' ∧
      r.size ≤ r'.size := by
  constructor
  · intro b hb
    refine ⟨_, read?_render b, Scale.isLargest_of b, ?_, ?_⟩
    · intro hu
      refine ⟨render_of_byte hu, ?_⟩
      exact size_of_byte hu
    · intro hu
      obtain ⟨hlow, hhigh⟩ := number_bounds hu
      exact ⟨abs_size_sub_le hb, hlow, hhigh, nearestDouble b, isNearestDouble b,
        roundsTo_hundredths b⟩
  · intro b b' h
    exact ⟨_, _, read?_render b, read?_render b', size_mono h⟩

/-- The largest count is rounded up to the next power of two; one byte below a megabyte is shown as
1024 kilobytes, which is not more than the megabyte. -/
theorem sizes_faithful_next_unit :
    render maxCount = "16777216.00 TB" ∧ render 1048575 = "1024.00 KB" ∧
      render 1048576 = "1.00 MB" ∧
      (∃ r, read? (render maxCount) = some r ∧ r.scale = .tera ∧
        |r.size - maxCount| ≤ (r.scale.bytes / 200 + 1024 : ℚ)) ∧
      ∃ r r', read? (render 1048575) = some r ∧ read? (render 1048576) = some r' ∧
        r.size ≤ r'.size := by
  refine ⟨by decide +kernel, by decide +kernel, by decide +kernel, ?_,
    sizes_faithful.2 1048575 1048576 (by decide)⟩
  obtain ⟨r, hr, -, -, h⟩ := sizes_faithful.1 maxCount (Nat.le_refl _)
  have hread : read? (render maxCount) = some ⟨1677721600, .tera⟩ := by decide +kernel
  obtain rfl := Option.some.inj (hr.symm.trans hread)
  exact ⟨_, hread, rfl, (h (by decide)).1⟩

end FolderCopy.ByteSize
