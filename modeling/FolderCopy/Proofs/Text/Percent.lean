import FolderCopy.Proofs.Text.Utf8
import FolderCopy.Text.Percent

/-!
# Reading percent encoding

A text in percent encoding holds unreserved characters and `%` only. Main statement: reading gives
the text back, so no two texts have the same encoding.
-/

namespace FolderCopy.Text.Percent

/-- Whether a character may stand in percent encoding. -/
def IsSafe (c : Char) : Prop :=
  c.isAlphanum ∨ c ∈ ['-', '_', '.', '~', '%']

/-- A hexadecimal digit has the value that it was written for. -/
lemma digit?_digit : ∀ n < 16, digit? (digit n) = some n := by
  decide

/-- Hexadecimal digits are safe. -/
lemma isSafe_digit : ∀ n < 16, IsSafe (digit n) := by
  unfold IsSafe
  decide

/-- A byte that stands for itself is an ASCII character. -/
lemma ofNat_of_isUnreserved {b : UInt8} (h : isUnreserved b) :
    IsSafe (Char.ofNat b.toNat) ∧ Char.ofNat b.toNat ≠ '%' ∧
      String.utf8EncodeChar (Char.ofNat b.toNat) = [b] := by
  have hall : ∀ n < 256, isUnreserved (UInt8.ofNat n) →
      ((Char.ofNat n).isAlphanum ∨ Char.ofNat n ∈ ['-', '_', '.', '~', '%']) ∧
        Char.ofNat n ≠ '%' ∧ String.utf8EncodeChar (Char.ofNat n) = [UInt8.ofNat n] := by
    decide +kernel
  have hb := hall b.toNat b.toNat_lt
  rw [UInt8.ofNat_toNat] at hb
  exact hb h

/-- A character that is no percent sign stands for its bytes. -/
lemma bytes?_cons {c : Char} (hc : c ≠ '%') (rest : List Char) :
    bytes? (c :: rest) = (bytes? rest).map (String.utf8EncodeChar c ++ ·) := by
  rw [bytes?]
  · simp only [hc, if_false, Option.bind_eq_bind]
    cases bytes? rest <;> rfl
  · rintro h l rest' rfl
    exact absurd rfl hc

/-- An encoded byte stands for the byte. -/
lemma bytes?_encodeByte (b : UInt8) (rest : List Char) :
    bytes? (encodeByte b ++ rest) = (bytes? rest).map (b :: ·) := by
  unfold encodeByte
  split
  case isTrue hb =>
    obtain ⟨-, hne, hbytes⟩ := ofNat_of_isUnreserved hb
    rw [List.singleton_append, bytes?_cons hne, hbytes]
    rfl
  case isFalse =>
    have hlt := b.toNat_lt
    have hbyte : UInt8.ofNat (16 * (b.toNat / 16) + b.toNat % 16) = b := by
      rw [Nat.div_add_mod, UInt8.ofNat_toNat]
    simp only [List.cons_append, List.nil_append, bytes?]
    rw [digit?_digit _ (by omega), digit?_digit _ (by omega)]
    simp only [Option.bind_eq_bind, Option.bind_some, hbyte]
    cases bytes? rest <;> rfl

/-- Encoded bytes stand for the bytes. -/
lemma bytes?_flatMap (bs : Bytes) : bytes? (bs.flatMap encodeByte) = some bs := by
  induction bs with
  | nil => rfl
  | cons b bs ih => rw [List.flatMap_cons, bytes?_encodeByte, ih, Option.map_some]

/-- Text in percent encoding is read as it was before. -/
theorem decode?_encode (s : String) : decode? (encode s) = some s := by
  rw [decode?, encode, String.toList_ofList, bytes?_flatMap, Option.bind_some, Utf8.decode?_encode]

/-- Encoded texts hold safe characters only. -/
lemma isSafe_of_mem_encode {s : String} {c : Char} (h : c ∈ (encode s).toList) : IsSafe c := by
  rw [encode, String.toList_ofList, List.mem_flatMap] at h
  obtain ⟨b, -, hc⟩ := h
  unfold encodeByte at hc
  split at hc
  case isTrue hb =>
    rw [List.mem_singleton.1 hc]
    exact (ofNat_of_isUnreserved hb).1
  case isFalse =>
    have hlt := b.toNat_lt
    rcases List.mem_cons.1 hc with rfl | hc
    · exact .inr (by simp)
    · rcases List.mem_cons.1 hc with rfl | hc
      · exact isSafe_digit _ (by omega)
      · rw [List.mem_singleton.1 hc]
        exact isSafe_digit _ (by omega)

end FolderCopy.Text.Percent
