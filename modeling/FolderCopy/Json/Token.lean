import FolderCopy.Json.Numeral
import FolderCopy.Text.Utf8

/-!
# JSON tokens

Bytes cut into the tokens of JSON. A text token keeps its bytes and its escapes apart and is not yet
read as characters: a text that nobody asks for may hold ill-formed bytes and lone surrogates.
-/

namespace FolderCopy.Json

/-- A piece of a text between quotes: a byte that stands for itself, or an escape, by the 16-bit
code that it names. -/
inductive Piece where
  | byte (b : UInt8)
  | code (n : Nat)
  deriving DecidableEq, Repr

/-- A token of JSON. -/
inductive Token where
  | openArray
  | closeArray
  | openObject
  | closeObject
  | comma
  | colon
  | null
  | bool (b : Bool)
  | number (n : Numeral)
  | text (ps : List Piece)
  deriving DecidableEq, Repr

/-- The four characters that may stand between tokens. -/
def isSpace (b : UInt8) : Bool :=
  b == 0x20 || b == 0x0A || b == 0x0D || b == 0x09

/-- An ASCII digit. -/
def isDigit (b : UInt8) : Bool :=
  0x30 ≤ b && b ≤ 0x39

/-- The value of a hexadecimal digit of either case. -/
def hexValue? (b : UInt8) : Option Nat :=
  let n := b.toNat
  if 0x30 ≤ n ∧ n ≤ 0x39 then some (n - 0x30)
  else if 0x41 ≤ n ∧ n ≤ 0x46 then some (n - 0x37)
  else if 0x61 ≤ n ∧ n ≤ 0x66 then some (n - 0x57)
  else none

/-- The code that four hexadecimal digits name. -/
def hexCode? (a b c d : UInt8) : Option Nat := do
  let a ← hexValue? a
  let b ← hexValue? b
  let c ← hexValue? c
  let d ← hexValue? d
  return ((a * 16 + b) * 16 + c) * 16 + d

/-- The code that a one-letter escape names. -/
def shortEscape? (b : UInt8) : Option Nat :=
  match b with
  | 0x22 => some 0x22
  | 0x5C => some 0x5C
  | 0x2F => some 0x2F
  | 0x62 => some 0x08
  | 0x66 => some 0x0C
  | 0x6E => some 0x0A
  | 0x72 => some 0x0D
  | 0x74 => some 0x09
  | _ => none

/-- The pieces of a text up to its closing quote, and what follows the quote. Controls must be
escaped. `done` holds the pieces read so far, the last one first. -/
def pieces (done : List Piece) : Bytes → Option (List Piece × Bytes)
  | [] => none
  | 0x22 :: rest => some (done.reverse, rest)
  | 0x5C :: 0x75 :: a :: b :: c :: d :: rest =>
    match hexCode? a b c d with
    | some n => pieces (.code n :: done) rest
    | none => none
  | 0x5C :: e :: rest =>
    match shortEscape? e with
    | some n => pieces (.code n :: done) rest
    | none => none
  | b :: rest => if b < 0x20 || b == 0x5C then none else pieces (.byte b :: done) rest

/-- The characters of the digits that the bytes start with, and what follows them. -/
def digits (bs : Bytes) : List Char × Bytes :=
  ((bs.takeWhile isDigit).map fun b => Char.ofNat b.toNat, bs.dropWhile isDigit)

/-- One or more digits. -/
def digits? (bs : Bytes) : Option (List Char × Bytes) :=
  if (digits bs).1.isEmpty then none else some (digits bs)

/-- The digits before the point: `0`, or digits that do not start with `0`. -/
def whole? : Bytes → Option (List Char × Bytes)
  | 0x30 :: rest => some (['0'], rest)
  | bs => digits? bs

/-- The digits after a point, where there is one. -/
def fraction? : Bytes → Option (Option (List Char) × Bytes)
  | 0x2E :: rest => (digits? rest).map fun r => (some r.1, r.2)
  | bs => some (none, bs)

/-- The sign of an exponent, where there is one. -/
def sign : Bytes → Option Char × Bytes
  | 0x2B :: rest => (some '+', rest)
  | 0x2D :: rest => (some '-', rest)
  | bs => (none, bs)

/-- The sign and digits after an exponent mark, where there is one. -/
def exponent? : Bytes → Option (Option (Option Char × List Char) × Bytes)
  | [] => some (none, [])
  | b :: rest =>
    if b == 0x65 || b == 0x45 then
      (digits? (sign rest).2).map fun r => (some ((sign rest).1, r.1), r.2)
    else some (none, b :: rest)

/-- A number without its sign. -/
def magnitude? (negative : Bool) (bs : Bytes) : Option (Token × Bytes) := do
  let (whole, bs) ← whole? bs
  let (fraction, bs) ← fraction? bs
  let (exponent, bs) ← exponent? bs
  return (.number { negative, whole, fraction, exponent }, bs)

/-- The token that starts with the byte `b`, and what follows it. -/
def Token.startingWith? (b : UInt8) (rest : Bytes) : Option (Token × Bytes) :=
  match b with
  | 0x5B => some (.openArray, rest)
  | 0x5D => some (.closeArray, rest)
  | 0x7B => some (.openObject, rest)
  | 0x7D => some (.closeObject, rest)
  | 0x2C => some (.comma, rest)
  | 0x3A => some (.colon, rest)
  | 0x22 => (pieces [] rest).map fun r => (.text r.1, r.2)
  | 0x6E => match rest with
    | 0x75 :: 0x6C :: 0x6C :: rest => some (.null, rest)
    | _ => none
  | 0x74 => match rest with
    | 0x72 :: 0x75 :: 0x65 :: rest => some (.bool true, rest)
    | _ => none
  | 0x66 => match rest with
    | 0x61 :: 0x6C :: 0x73 :: 0x65 :: rest => some (.bool false, rest)
    | _ => none
  | 0x2D => magnitude? true rest
  | b => magnitude? false (b :: rest)

/-- Reading the pieces of a text uses up its closing quote at least. -/
theorem pieces_length {done ps : List Piece} {bs rest : Bytes}
    (h : pieces done bs = some (ps, rest)) : rest.length < bs.length := by
  fun_induction pieces done bs <;> simp_all <;> grind

/-- Reading digits leaves no more than there was. -/
theorem digits_length (bs : Bytes) : (digits bs).2.length ≤ bs.length :=
  (List.dropWhile_sublist _).length_le

/-- Reading digits that must be there leaves no more than there was. -/
theorem digits?_length {bs rest : Bytes} {ds : List Char} (h : digits? bs = some (ds, rest)) :
    rest.length ≤ bs.length := by
  unfold digits? at h
  split at h
  · simp at h
  · simp only [Option.some.injEq] at h
    rw [← show (digits bs).2 = rest by rw [h]]
    exact digits_length bs

/-- Reading digits that must be there takes the first byte at least. -/
theorem digits?_length_lt {b : UInt8} {bs rest : Bytes} {ds : List Char}
    (h : digits? (b :: bs) = some (ds, rest)) : rest.length ≤ bs.length := by
  unfold digits? digits at h
  by_cases hb : isDigit b
  · simp only [List.takeWhile_cons, hb, List.dropWhile_cons] at h
    simp only [ite_true, List.map_cons, List.isEmpty_cons, Bool.false_eq_true, ite_false,
      Option.some.injEq, Prod.mk.injEq] at h
    rw [← h.2]
    exact (List.dropWhile_sublist _).length_le
  · simp [hb] at h

/-- The whole part of a number takes the first byte at least. -/
theorem whole?_length {b : UInt8} {bs rest : Bytes} {ds : List Char}
    (h : whole? (b :: bs) = some (ds, rest)) : rest.length ≤ bs.length := by
  unfold whole? at h
  split at h
  · next heq => simp_all
  · exact digits?_length_lt h

/-- Reading a fraction leaves no more than there was. -/
theorem fraction?_length {bs rest : Bytes} {ds : Option (List Char)}
    (h : fraction? bs = some (ds, rest)) : rest.length ≤ bs.length := by
  unfold fraction? at h
  split at h
  · obtain ⟨r, hr, he⟩ := Option.map_eq_some_iff.1 h
    have := digits?_length hr
    simp only [Prod.mk.injEq] at he
    simp only [List.length_cons, ← he.2]
    omega
  · simp_all

/-- Reading a sign leaves no more than there was. -/
theorem sign_length (bs : Bytes) : (sign bs).2.length ≤ bs.length := by
  unfold sign
  split <;> simp

/-- Reading an exponent leaves no more than there was. -/
theorem exponent?_length {bs rest : Bytes} {e : Option (Option Char × List Char)}
    (h : exponent? bs = some (e, rest)) : rest.length ≤ bs.length := by
  unfold exponent? at h
  split at h
  · simp_all
  · next b bs =>
    split at h
    · obtain ⟨r, hr, he⟩ := Option.map_eq_some_iff.1 h
      have h1 := digits?_length hr
      have h2 := sign_length bs
      simp only [Prod.mk.injEq] at he
      simp only [List.length_cons, ← he.2]
      omega
    · simp only [Option.some.injEq, Prod.mk.injEq] at h
      simp [← h.2]

/-- Reading a number takes its first byte at least. -/
theorem magnitude?_length {negative : Bool} {b : UInt8} {bs rest : Bytes} {t : Token}
    (h : magnitude? negative (b :: bs) = some (t, rest)) : rest.length ≤ bs.length := by
  simp only [magnitude?, Option.bind_eq_bind, Option.bind_eq_some_iff, Prod.exists] at h
  obtain ⟨w, r1, h1, f, r2, h2, e, r3, h3, h4⟩ := h
  have := whole?_length h1
  have := fraction?_length h2
  have := exponent?_length h3
  simp only [pure, Option.some.injEq, Prod.mk.injEq] at h4
  rw [← h4.2]
  omega

/-- A token takes the byte that it starts with. -/
theorem Token.startingWith?_length {b : UInt8} {bs rest : Bytes} {t : Token}
    (h : startingWith? b bs = some (t, rest)) : rest.length ≤ bs.length := by
  unfold startingWith? at h
  split at h
  case h_7 =>
    obtain ⟨r, hr, he⟩ := Option.map_eq_some_iff.1 h
    have := pieces_length hr
    simp only [Prod.mk.injEq] at he
    rw [← he.2]
    omega
  case h_8 | h_9 | h_10 =>
    split at h
    · simp only [Option.some.injEq, Prod.mk.injEq] at h
      simp only [List.length_cons, ← h.2]
      omega
    · simp at h
  case h_11 =>
    cases bs with
    | nil => simp [magnitude?, whole?, digits?, digits] at h
    | cons b bs => exact Nat.le_succ_of_le (magnitude?_length h)
  case h_12 => exact magnitude?_length h
  all_goals
    simp only [Option.some.injEq, Prod.mk.injEq] at h
    exact h.2 ▸ Nat.le_refl _

/-- The tokens of a byte sequence, after those already read (the last one first). -/
def scan (done : List Token) : Bytes → Option (List Token)
  | [] => some done.reverse
  | b :: rest =>
    if isSpace b then scan done rest
    else
      match h : Token.startingWith? b rest with
      | none => none
      | some (t, rest') =>
        have := Token.startingWith?_length h
        scan (t :: done) rest'
termination_by bs => bs.length
decreasing_by all_goals simp only [List.length_cons]; omega

/-- The tokens of a byte sequence. -/
def tokens? (bs : Bytes) : Option (List Token) :=
  scan [] bs

end FolderCopy.Json
