import Mathlib.Tactic.Lemma
import FolderCopy.Text.Utf8

/-!
# Reading written text

The scan of bytes reads the bytes of a character as that character, whatever stands around them.
Main statement: the bytes of a text are read as the text that they were written for.
-/

namespace FolderCopy.Text.Utf8

variable {done : List (Option Char)}

/-- A byte below 128 is a whole character. -/
lemma Lead.ofByte_one : ∀ a < 128, Lead.ofByte (UInt8.ofNat a) = .whole (Char.ofNat a) := by
  decide

/-- The first of two bytes leaves one more to come. -/
lemma Lead.ofByte_two : ∀ a < 32, 2 ≤ a →
    Lead.ofByte (UInt8.ofNat (a + 192)) = .begins { more := 1, value := a } := by
  decide

/-- The first of three bytes leaves two more to come, of which the next has its bounds. -/
lemma Lead.ofByte_three : ∀ a < 16,
    Lead.ofByte (UInt8.ofNat (a + 224)) =
      .begins ⟨2, a, if a = 0 then 0xA0 else 0x80, if a = 13 then 0x9F else 0xBF⟩ := by
  decide

/-- The first of four bytes leaves three more to come, of which the next has its bounds. -/
lemma Lead.ofByte_four : ∀ a < 5,
    Lead.ofByte (UInt8.ofNat (a + 240)) =
      .begins ⟨3, a, if a = 0 then 0x90 else 0x80, if a = 4 then 0x8F else 0xBF⟩ := by
  decide

/-- A byte that an unfinished character admits adds six bits to it. -/
lemma Scan.step_owed {o : Owed} {b : Nat} (hb : b < 64) (hlow : o.low.toNat ≤ b + 128)
    (hhigh : b + 128 ≤ o.high.toNat) :
    Scan.step ⟨done, some o⟩ (UInt8.ofNat (b + 128)) = .take done
      (if o.more ≤ 1 then .whole (Char.ofNat (o.value * 64 + b))
        else .begins { more := o.more - 1, value := o.value * 64 + b }) := by
  have hbyte : (UInt8.ofNat (b + 128)).toNat = b + 128 :=
    UInt8.toNat_ofNat_of_lt' (show b + 128 < 256 by omega)
  have hadmits : o.admits (UInt8.ofNat (b + 128)) := by
    simp only [Owed.admits, Bool.and_eq_true, decide_eq_true_eq, UInt8.le_iff_toNat_le, hbyte]
    exact ⟨hlow, hhigh⟩
  have hbits : (b + 128) % 64 = b := by omega
  simp only [Scan.step, hadmits, if_true, Owed.push, hbyte, hbits]

/-- The bytes of a character are read as this character. -/
lemma foldl_utf8EncodeChar (c : Char) :
    (String.utf8EncodeChar c).foldl Scan.step ⟨done, none⟩ = ⟨some c :: done, none⟩ := by
  have hvalid : c.val.toNat < 0xD800 ∨ 0xDFFF < c.val.toNat ∧ c.val.toNat < 0x110000 := c.valid
  have hchar : Char.ofNat c.val.toNat = c := Char.ofNat_toNat c
  simp only [String.utf8EncodeChar]
  generalize c.val.toNat = v at hvalid hchar
  have hstart (b : UInt8) : Scan.step ⟨done, none⟩ b = .take done (.ofByte b) := rfl
  -- A case for each number of bytes; the bits of the bytes make up the value.
  split
  case isTrue h1 =>
    simp only [List.foldl_cons, List.foldl_nil, hstart]
    rw [Lead.ofByte_one v (by omega), hchar]
    rfl
  case isFalse h1 =>
  split
  case isTrue h2 =>
    have hvalue : v / 64 % 32 * 64 + v % 64 = v := by omega
    simp only [List.foldl_cons, List.foldl_nil, hstart]
    rw [Lead.ofByte_two (v / 64 % 32) (by omega) (by omega), Scan.take,
      Scan.step_owed (by omega) (by simp) (by simp; omega)]
    simp [Scan.take, hvalue, hchar]
  case isFalse h2 =>
  split
  case isTrue h3 =>
    have hvalue : (v / 4096 % 16 * 64 + v / 64 % 64) * 64 + v % 64 = v := by omega
    -- There is no shorter way to write the character, and it is no surrogate.
    have hlow : (if v / 4096 % 16 = 0 then 0xA0 else 0x80 : UInt8).toNat ≤ v / 64 % 64 + 128 := by
      split
      case isTrue => show 160 ≤ _; omega
      case isFalse => show 128 ≤ _; omega
    have hhigh : v / 64 % 64 + 128 ≤ (if v / 4096 % 16 = 13 then 0x9F else 0xBF : UInt8).toNat := by
      split
      case isTrue => show _ ≤ 159; omega
      case isFalse => show _ ≤ 191; omega
    simp only [List.foldl_cons, List.foldl_nil, hstart]
    rw [Lead.ofByte_three (v / 4096 % 16) (by omega), Scan.take,
      Scan.step_owed (by omega) hlow hhigh]
    simp only [Nat.reduceLeDiff, if_false, Nat.add_one_sub_one]
    rw [Scan.take, Scan.step_owed (by omega) (by simp) (by simp; omega)]
    simp [Scan.take, hvalue, hchar]
  case isFalse h3 =>
    have hvalue : ((v / 262144 % 8 * 64 + v / 4096 % 64) * 64 + v / 64 % 64) * 64 + v % 64 = v := by
      omega
    -- There is no shorter way to write the character, and it is within the range of characters.
    have hlow : (if v / 262144 % 8 = 0 then 0x90 else 0x80 : UInt8).toNat ≤
        v / 4096 % 64 + 128 := by
      split
      case isTrue => show 144 ≤ _; omega
      case isFalse => show 128 ≤ _; omega
    have hhigh : v / 4096 % 64 + 128 ≤
        (if v / 262144 % 8 = 4 then 0x8F else 0xBF : UInt8).toNat := by
      split
      case isTrue => show _ ≤ 143; omega
      case isFalse => show _ ≤ 191; omega
    simp only [List.foldl_cons, List.foldl_nil, hstart]
    rw [Lead.ofByte_four (v / 262144 % 8) (by omega), Scan.take,
      Scan.step_owed (by omega) hlow hhigh]
    simp only [Nat.reduceLeDiff, if_false, Nat.add_one_sub_one]
    rw [Scan.take, Scan.step_owed (by omega) (by simp) (by simp; omega)]
    simp only [Nat.reduceLeDiff, if_false, Nat.add_one_sub_one]
    rw [Scan.take, Scan.step_owed (by omega) (by simp) (by simp; omega)]
    simp [Scan.take, hvalue, hchar]

/-- The bytes of characters are read as these characters. -/
lemma foldl_encode (cs : List Char) :
    (cs.flatMap String.utf8EncodeChar).foldl Scan.step ⟨done, none⟩ =
      ⟨(cs.map some).reverse ++ done, none⟩ := by
  induction cs generalizing done with
  | nil => rfl
  | cons c cs ih => simp [foldl_utf8EncodeChar, ih]

/-- Written text is read as it is. -/
theorem decode?_encode (s : String) : decode? (encode s) = some s := by
  have hscalars : scalars (encode s) = s.toList.map some := by
    simp [scalars, encode, foldl_encode, Scan.finish]
  simp [decode?, hscalars]

end FolderCopy.Text.Utf8
