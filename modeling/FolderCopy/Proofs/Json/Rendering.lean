import FolderCopy.Json.Value
import FolderCopy.Proofs.Json.Document
import FolderCopy.Proofs.Json.Spelling

/-!
# Reading what was rendered

Every value has a tree, in which the escapes that are not needed are left out. Main statement: the
compact text of a value is one way of writing its tree.
-/

namespace FolderCopy.Json

section Numbers

/-- The whole number with these digits and this sign. -/
def Numeral.ofInt (n : Int) : Numeral where
  negative := n < 0
  whole := Nat.toDigits 10 n.natAbs
  fraction := none
  exponent := none

/-- Only zero has a leading zero. -/
lemma eq_zero_of_head?_toDigits {n : Nat} (h : (Nat.toDigits 10 n).head? = some '0') : n = 0 := by
  induction n using Nat.strongRecOn with
  | ind n ih =>
    by_cases hn : n < 10
    · rw [Nat.toDigits_of_lt_base hn] at h
      exact Nat.digitChar_eq_zero.1 (Option.some.inj h)
    · rw [Nat.toDigits_of_base_le (by decide) (by omega), List.head?_append,
        List.head?_eq_some_head Nat.toDigits_ne_nil, Option.some_or,
        ← List.head?_eq_some_head Nat.toDigits_ne_nil] at h
      have hdiv := ih (n / 10) (by omega) h
      omega

/-- The digits of a number are digits, and there is one at least. -/
lemma isDigits_toDigits (n : Nat) : IsDigits (Nat.toDigits 10 n) :=
  ⟨Nat.toDigits_ne_nil, List.all_eq_true.2 fun _ hc =>
    Nat.isDigit_of_mem_toDigits (by decide) (by decide) hc⟩

/-- An integer is well formed as a numeral. -/
lemma wellFormed_ofInt (n : Int) : (Numeral.ofInt n).WellFormed where
  whole := isDigits_toDigits n.natAbs
  leading h := by
    rw [Numeral.ofInt] at h ⊢
    rw [eq_zero_of_head?_toDigits h, Nat.toDigits_zero]
  fraction := nofun
  exponent := nofun
  sign := nofun

/-- An integer as a numeral is written as its text. -/
lemma writing_ofInt (n : Int) (mark : Char) :
    (Numeral.ofInt n).writing mark = (toString n).toList := by
  cases n with
  | ofNat m => simp [Numeral.writing, Numeral.unsigned, Numeral.ofInt, Int.repr]
  | negSucc m => simp [Numeral.writing, Numeral.unsigned, Numeral.ofInt, Int.repr]

/-- A numeral is written with a small letter before its exponent. -/
lemma writing_chars (n : Numeral) : n.writing 'e' = n.chars := by
  obtain ⟨negative, whole, fraction, exponent⟩ := n
  cases fraction <;> cases exponent <;>
    simp [Numeral.writing, Numeral.unsigned, Numeral.chars]

end Numbers

section Values

mutual

/-- The tree of a value. -/
def tree : Json → Tree
  | .null => .null
  | .bool b => .bool b
  | .int n => .number (Numeral.ofInt n)
  | .decimal n => .number n
  | .text s => .text (s.toList.flatMap escapePieces)
  | .array items => .array (itemTrees items)
  | .object members => .object (memberTrees members)

def itemTrees : List Json → List Tree
  | [] => []
  | v :: vs => v.tree :: itemTrees vs

def memberTrees : List (String × Json) → List (List Piece × Tree)
  | [] => []
  | (k, v) :: ms => (k.toList.flatMap escapePieces, v.tree) :: memberTrees ms

end

mutual

/-- Whether the numbers in a value that are kept as written can be written. -/
def IsWritable : Json → Prop
  | .decimal n => n.WellFormed
  | .array items => ItemsWritable items
  | .object members => MembersWritable members
  | .null | .bool _ | .int _ | .text _ => True

def ItemsWritable : List Json → Prop
  | [] => True
  | v :: vs => v.IsWritable ∧ ItemsWritable vs

def MembersWritable : List (String × Json) → Prop
  | [] => True
  | (_, v) :: ms => v.IsWritable ∧ MembersWritable ms

end

/-- A token that is written right before others is written with no space between. -/
lemma TokensWritten.next {t : Token} {ts : List Token} {bs rest : Bytes} (ht : t.Written bs)
    (hts : TokensWritten ts rest) : TokensWritten (t :: ts) (bs ++ rest) :=
  .cons (List.all_nil : [].all isSpace) ht hts

mutual

/-- The characters of a value are the written tokens of its tree. -/
lemma written_chars {ts : List Token} {rest : Bytes} (hts : TokensWritten ts rest) :
    ∀ v : Json, v.IsWritable → TokensWritten (v.tree.tokens ++ ts) (bytesOf v.chars ++ rest)
  | .null, _ => .next .null hts
  | .bool true, _ => .next .true hts
  | .bool false, _ => .next .false hts
  | .int n, _ => by
    have h := Token.Written.number (wellFormed_ofInt n) (.inl rfl : 'e' = 'e' ∨ _)
    rw [writing_ofInt] at h
    exact .next h hts
  | .decimal n, hn => by
    have h := Token.Written.number hn (.inl rfl : 'e' = 'e' ∨ _)
    rw [writing_chars] at h
    exact .next h hts
  | .text s, _ => .next (written_textChars s) hts
  | .array [], _ => by
    have h := TokensWritten.next .openArray (.next .closeArray hts)
    exact h
  | .array (v :: vs), hv => by
    have hvs := written_itemChars hts vs hv.2
    have h := TokensWritten.next .openArray (written_chars hvs v hv.1)
    simpa [tree, itemTrees, Tree.tokens, chars, bytesOf_nil, bytesOf_cons, bytesOf_append] using h
  | .object [], _ => by
    have h := TokensWritten.next .openObject (.next .closeObject hts)
    exact h
  | .object ((k, v) :: ms), hv => by
    have hms := written_memberChars hts ms hv.2
    have h := TokensWritten.next .openObject
      (.next (written_textChars k) (.next .colon (written_chars hms v hv.1)))
    simpa [tree, memberTrees, Tree.tokens, chars, bytesOf_nil, bytesOf_cons, bytesOf_append] using h

/-- The characters of items are their written tokens. -/
lemma written_itemChars {ts : List Token} {rest : Bytes} (hts : TokensWritten ts rest) :
    ∀ vs : List Json, ItemsWritable vs →
      TokensWritten (itemTokens (itemTrees vs) ++ ts) (bytesOf (itemChars vs) ++ rest)
  | [], _ => .next .closeArray hts
  | v :: vs, hv => by
    have hvs := written_itemChars hts vs hv.2
    have h := TokensWritten.next .comma (written_chars hvs v hv.1)
    simpa [itemTrees, itemTokens, itemChars, bytesOf_nil, bytesOf_cons, bytesOf_append] using h

/-- The characters of members are their written tokens. -/
lemma written_memberChars {ts : List Token} {rest : Bytes} (hts : TokensWritten ts rest) :
    ∀ ms : List (String × Json), MembersWritable ms →
      TokensWritten (memberTokens (memberTrees ms) ++ ts) (bytesOf (memberChars ms) ++ rest)
  | [], _ => .next .closeObject hts
  | (k, v) :: ms, hv => by
    have hms := written_memberChars hts ms hv.2
    have h := TokensWritten.next .comma
      (.next (written_textChars k) (.next .colon (written_chars hms v hv.1)))
    simpa [memberTrees, memberTokens, memberChars, bytesOf_nil, bytesOf_cons,
      bytesOf_append] using h

end

/-- The compact text of a value is one way of writing the tree of the value. -/
theorem written_render {v : Json} (hv : v.IsWritable) :
    v.tree.Written (Text.Utf8.encode v.render) := by
  have h := written_chars (.nil (List.all_nil : [].all isSpace)) v hv
  rw [List.append_nil, List.append_nil] at h
  rw [render, Text.Utf8.encode, String.toList_ofList]
  exact h

/-- A text is written in pieces that are read as this text. -/
lemma pieceText?_escapePieces (s : String) : pieceText? (s.toList.flatMap escapePieces) = some s :=
  (spells_escapePieces s.toList).pieceText?_eq

end Values

end FolderCopy.Json
