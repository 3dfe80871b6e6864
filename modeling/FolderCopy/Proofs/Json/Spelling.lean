import FolderCopy.Json.Reading
import FolderCopy.Proofs.Json.Writing
import FolderCopy.Proofs.Text.Utf8

/-!
# The ways of spelling a text

A character of a text stands for itself, by its bytes, or is escaped by its code; one beyond the
first plane is escaped by the codes of two surrogates. Main statement: every spelling of a text is
read as this text.
-/

namespace FolderCopy.Json

/-- The ways of spelling characters in pieces. -/
inductive Spells : List Piece → List Char → Prop where
  | nil : Spells [] []
  | itself (c : Char) {ps cs} (h : Spells ps cs) :
    Spells ((String.utf8EncodeChar c).map .byte ++ ps) (c :: cs)
  | code (c : Char) {ps cs} (hc : c.toNat < 0x10000) (h : Spells ps cs) :
    Spells (.code c.toNat :: ps) (c :: cs)
  | surrogates (c : Char) {ps cs} (hc : 0x10000 ≤ c.toNat) (h : Spells ps cs) :
    Spells (.code (0xD800 + (c.toNat - 0x10000) / 0x400) ::
      .code (0xDC00 + (c.toNat - 0x10000) % 0x400) :: ps) (c :: cs)

section Reading

/-- Bytes that stand for themselves are taken as they are. -/
lemma pieceBytes_bytes (bs done : Bytes) (ps : List Piece) :
    pieceBytes done (bs.map .byte ++ ps) = pieceBytes (bs.reverse ++ done) ps := by
  induction bs generalizing done with
  | nil => rfl
  | cons b bs ih => simp [pieceBytes, ih]

/-- The code of a character is no surrogate. -/
lemma not_isSurrogate (c : Char) :
    isHighSurrogate c.toNat = false ∧ isLowSurrogate c.toNat = false := by
  have hvalid : c.toNat < 0xD800 ∨ 0xDFFF < c.toNat ∧ c.toNat < 0x110000 := c.valid
  simp only [isHighSurrogate, isLowSurrogate, Bool.and_eq_false_iff, decide_eq_false_iff_not]
  omega

/-- The code of a character stands for its bytes. -/
lemma pieceBytes_code (c : Char) (done : Bytes) (ps : List Piece) :
    pieceBytes done (.code c.toNat :: ps) =
      pieceBytes ((String.utf8EncodeChar c).reverse ++ done) ps := by
  obtain ⟨hhigh, hlow⟩ := not_isSurrogate c
  cases ps with
  | nil => simp [pieceBytes, hhigh, hlow]
  | cons p ps => cases p <;> simp [pieceBytes, hhigh, hlow]

/-- A pair of surrogate codes stands for the bytes of its character. -/
lemma pieceBytes_surrogates {c : Char} (hc : 0x10000 ≤ c.toNat) (done : Bytes)
    (ps : List Piece) :
    pieceBytes done (.code (0xD800 + (c.toNat - 0x10000) / 0x400) ::
      .code (0xDC00 + (c.toNat - 0x10000) % 0x400) :: ps) =
      pieceBytes ((String.utf8EncodeChar c).reverse ++ done) ps := by
  have hvalid : c.toNat < 0xD800 ∨ 0xDFFF < c.toNat ∧ c.toNat < 0x110000 := c.valid
  have hchar : Char.ofNat c.toNat = c := Char.ofNat_toNat c
  generalize c.toNat = v at hc hvalid hchar
  have hhigh : isHighSurrogate (0xD800 + (v - 0x10000) / 0x400) := by
    simp only [isHighSurrogate, Bool.and_eq_true, decide_eq_true_eq]
    omega
  have hlow : isLowSurrogate (0xDC00 + (v - 0x10000) % 0x400) := by
    simp only [isLowSurrogate, Bool.and_eq_true, decide_eq_true_eq]
    omega
  have hvalue : 0x10000 + (0xD800 + (v - 0x10000) / 0x400 - 0xD800) * 0x400 +
      (0xDC00 + (v - 0x10000) % 0x400 - 0xDC00) = v := by
    omega
  simp only [pieceBytes, hhigh, hlow, if_true, hvalue, hchar]

/-- A spelled text comes to its bytes. -/
lemma Spells.pieceBytes_eq {ps : List Piece} {cs : List Char} (h : Spells ps cs) (done : Bytes) :
    pieceBytes done ps = some (done.reverse ++ bytesOf cs) := by
  induction h generalizing done with
  | nil => simp [pieceBytes, bytesOf]
  | itself c h ih => simp [pieceBytes_bytes, ih, bytesOf_cons]
  | code c hc h ih => simp [pieceBytes_code, ih, bytesOf_cons]
  | surrogates c hc h ih => simp [pieceBytes_surrogates hc, ih, bytesOf_cons]

/-- Every spelling of a text is read as this text. -/
theorem Spells.pieceText?_eq {ps : List Piece} {s : String} (h : Spells ps s.toList) :
    pieceText? ps = some s := by
  rw [pieceText?, h.pieceBytes_eq]
  exact Text.Utf8.decode?_encode s

end Reading

section Escaping

/-- Whether a character must be escaped. -/
def IsEscaped (c : Char) : Prop :=
  c = '"' ∨ c = '\\' ∨ c.toNat < 0x20

instance (c : Char) : Decidable (IsEscaped c) :=
  inferInstanceAs (Decidable (_ ∨ _))

/-- The pieces that a character is written in. -/
def escapePieces (c : Char) : List Piece :=
  if IsEscaped c then [.code c.toNat] else (String.utf8EncodeChar c).map .byte

/-- The pieces of escaped characters spell these characters. -/
lemma spells_escapePieces (cs : List Char) : Spells (cs.flatMap escapePieces) cs := by
  induction cs with
  | nil => exact .nil
  | cons c cs ih =>
    rw [List.flatMap_cons]
    unfold escapePieces
    split
    case isTrue hc =>
      refine .code c ?_ ih
      rcases hc with rfl | rfl | hc
      · decide
      · decide
      · omega
    case isFalse => exact .itself c ih

/-- The bytes of a character are above ASCII, or the one byte is its code. -/
lemma byte_of_mem_utf8EncodeChar {c : Char} {b : UInt8} (hb : b ∈ String.utf8EncodeChar c) :
    0x80 ≤ b.toNat ∨ b.toNat = c.toNat := by
  have hlead (n : Nat) (m : Nat) (hm : 0x80 ≤ m ∧ m + n < 0x100) :
      0x80 ≤ (UInt8.ofNat (n + m)).toNat := by
    rw [UInt8.toNat_ofNat_of_lt' (show n + m < 256 by omega)]
    omega
  simp only [String.utf8EncodeChar] at hb
  split at hb
  case isTrue h =>
    rw [List.mem_singleton.1 hb]
    exact .inr (UInt8.toNat_ofNat_of_lt' (show c.val.toNat < 256 by omega))
  case isFalse =>
    left
    split at hb <;> try split at hb
    all_goals
      simp only [List.mem_cons, List.not_mem_nil, or_false] at hb
      rcases hb with rfl | rfl | rfl | rfl <;> exact hlead _ _ (by omega)

/-- Bytes that may stand for themselves are written as they are. -/
lemma piecesWritten_bytes {bs : Bytes} (h : ∀ b ∈ bs, (Piece.byte b).Written [b]) :
    PiecesWritten (bs.map .byte) bs := by
  induction bs with
  | nil => exact .nil
  | cons b bs ih =>
    exact .cons (h b (by simp)) (ih fun b' hb' => h b' (by simp [hb']))

/-- Pieces in two parts are written one part after the other. -/
lemma PiecesWritten.append {ps qs : List Piece} {bs cs : Bytes} (hp : PiecesWritten ps bs)
    (hq : PiecesWritten qs cs) : PiecesWritten (ps ++ qs) (bs ++ cs) := by
  induction hp with
  | nil => exact hq
  | cons hp hps ih =>
    rw [List.cons_append, List.append_assoc]
    exact .cons hp ih

/-- The escape of a control character is written with four hexadecimal digits. -/
lemma bytesOf_controlEscape : ∀ n < 0x20,
    bytesOf ['\\', 'u', '0', '0', Nat.digitChar (n / 16), Nat.digitChar (n % 16)] =
      bytesOf ['\\', 'u'] ++ [hexDigit false (n / 0x1000), hexDigit false (n / 0x100 % 16),
        hexDigit false (n / 0x10 % 16), hexDigit false (n % 16)] := by
  decide

/-- A character that is escaped is written as its code. -/
lemma written_escape {c : Char} (hc : IsEscaped c) :
    (Piece.code c.toNat).Written (bytesOf (escape c)) := by
  have hshort {e d : Char} (h : c = d) (hmem : (e, d) ∈ shortEscapes) :
      (Piece.code c.toNat).Written (bytesOf ['\\', e]) := by
    subst h
    exact .short hmem
  unfold escape
  split
  · next h => exact hshort h (by decide)
  split
  · next h => exact hshort h (by decide)
  split
  · next h => exact hshort h (by decide)
  split
  · next h => exact hshort h (by decide)
  split
  · next h => exact hshort h (by decide)
  split
  · next h => exact hshort h (by decide)
  split
  · next h => exact hshort h (by decide)
  split
  · next h =>
    rw [bytesOf_controlEscape _ h]
    exact .code (by omega) false false false false
  · next hquote hbackslash _ _ _ _ _ h =>
    rcases hc with hc | hc | hc
    · exact absurd hc hquote
    · exact absurd hc hbackslash
    · exact absurd hc h

/-- All other characters stand for themselves. -/
lemma escape_of_not_isEscaped {c : Char} (hc : ¬ IsEscaped c) : escape c = [c] := by
  obtain ⟨hquote, hbackslash, hcontrol⟩ : c ≠ '"' ∧ c ≠ '\\' ∧ ¬ c.toNat < 0x20 := by
    simpa [IsEscaped] using hc
  have hne {d : Char} (hd : d.toNat < 0x20) : c ≠ d := fun h => hcontrol (h ▸ hd)
  unfold escape
  rw [if_neg hquote, if_neg hbackslash, if_neg (hne (by decide)), if_neg (hne (by decide)),
    if_neg (hne (by decide)), if_neg (hne (by decide)), if_neg (hne (by decide)), if_neg hcontrol]

/-- A character, escaped or not, is written as its pieces. -/
lemma piecesWritten_escapePieces (c : Char) :
    PiecesWritten (escapePieces c) (bytesOf (escape c)) := by
  unfold escapePieces
  split
  case isTrue hc =>
    rw [← List.append_nil (bytesOf _)]
    exact .cons (written_escape hc) .nil
  case isFalse hc =>
    rw [escape_of_not_isEscaped hc, bytesOf_cons, bytesOf_nil, List.append_nil]
    apply piecesWritten_bytes
    intro b hb
    obtain ⟨hquote, hbackslash, hcontrol⟩ : c ≠ '"' ∧ c ≠ '\\' ∧ ¬ c.toNat < 0x20 := by
      simpa [IsEscaped] using hc
    have hne {n : Nat} (hn : n < 0x80) (hc : c ≠ Char.ofNat n) : b ≠ UInt8.ofNat n := by
      rintro rfl
      have hbyte : (UInt8.ofNat n).toNat = n := UInt8.toNat_ofNat_of_lt' (show n < 256 by omega)
      rcases byte_of_mem_utf8EncodeChar hb with h | h
      · omega
      · rw [← hbyte, h, Char.ofNat_toNat] at hc
        exact hc rfl
    refine .byte ?_ (hne (by decide) hquote) (hne (by decide) hbackslash)
    rw [UInt8.le_iff_toNat_le]
    rcases byte_of_mem_utf8EncodeChar hb with h | h
    · exact Nat.le_trans (by decide) h
    · rw [h]
      exact Nat.not_lt.1 hcontrol

/-- Text between quotes is written in its pieces. -/
lemma written_textChars (s : String) :
    (Token.text (s.toList.flatMap escapePieces)).Written (bytesOf (textChars s)) := by
  have hpieces (cs : List Char) :
      PiecesWritten (cs.flatMap escapePieces) (bytesOf (cs.flatMap escape)) := by
    induction cs with
    | nil => exact .nil
    | cons c cs ih =>
      rw [List.flatMap_cons, List.flatMap_cons, bytesOf_append]
      exact (piecesWritten_escapePieces c).append ih
  have hbytes : bytesOf (textChars s) =
      bytesOf ['"'] ++ (bytesOf (s.toList.flatMap escape) ++ bytesOf ['"']) := by
    rw [← bytesOf_append, ← bytesOf_append]
    rfl
  rw [hbytes]
  exact .text (hpieces s.toList)

end Escaping

end FolderCopy.Json
