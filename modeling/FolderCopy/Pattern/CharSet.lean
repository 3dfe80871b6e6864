/-!
# Sets of characters

Sets of characters as ranges of code points. Main statements: a character is in a union, an
intersection or a complement of sets exactly when these words say so.
-/

namespace FolderCopy.Pattern

/-- A range of code points, ends included. -/
structure CodeRange where
  first : Nat
  last : Nat
  deriving DecidableEq, Repr

/-- The last code point. -/
def lastCode : Nat :=
  0x10FFFF

namespace CodeRange

/-- Whether a code point is in a range. -/
def holds (r : CodeRange) (n : Nat) : Bool :=
  r.first ≤ n && n ≤ r.last

/-- What two ranges share. -/
def meet? (r s : CodeRange) : Option CodeRange :=
  let shared : CodeRange := ⟨max r.first s.first, min r.last s.last⟩
  if shared.first ≤ shared.last then some shared else none

/-- The code points outside a range. -/
def outside (r : CodeRange) : List CodeRange :=
  (if 0 < r.first then [⟨0, r.first - 1⟩] else []) ++
    if r.last < lastCode then [⟨r.last + 1, lastCode⟩] else []

/-- A code is in the common part of two ranges exactly if it is in both. -/
theorem holds_meet? (r s : CodeRange) (n : Nat) :
    ((r.meet? s).any fun t => t.holds n) = (r.holds n && s.holds n) := by
  rw [Bool.eq_iff_iff]
  simp only [meet?]
  by_cases h : max r.first s.first ≤ min r.last s.last <;>
    simp only [h, if_true, if_false, Option.any_some, Option.any_none, holds, Bool.and_eq_true,
      decide_eq_true_eq, Bool.false_eq_true, false_iff] <;> omega

/-- A code is outside of a range exactly if it is not in it. -/
theorem any_outside (r : CodeRange) {n : Nat} (h : n ≤ lastCode) :
    (r.outside.any fun t => t.holds n) = !r.holds n := by
  unfold outside
  rw [Bool.eq_iff_iff]
  by_cases h₁ : 0 < r.first <;> by_cases h₂ : r.last < lastCode <;>
    simp only [h₁, h₂, if_true, if_false, List.any_append, List.any_cons, List.any_nil, holds,
      Bool.or_eq_true, Bool.and_eq_true, Bool.not_eq_true', Bool.and_eq_false_iff,
      decide_eq_true_eq, decide_eq_false_iff_not, Bool.false_eq_true, or_false, false_or,
      false_iff] <;>
    simp only [lastCode] at h h₂ ⊢ <;> omega

end CodeRange

/-- A set of characters: those with a code point in one of some ranges, none of which is empty. -/
structure CharSet where
  ranges : List CodeRange
  deriving DecidableEq, Repr

namespace CharSet

/-- Whether a character is in a set. -/
def contains (s : CharSet) (c : Char) : Bool :=
  s.ranges.any fun r => r.holds c.toNat

/-- The set without characters. -/
def empty : CharSet :=
  ⟨[]⟩

/-- The set of all characters. -/
def all : CharSet :=
  ⟨[⟨0, lastCode⟩]⟩

/-- The set of the characters from one code point to another. -/
def between (first last : Nat) : CharSet :=
  ⟨[⟨first, last⟩]⟩

/-- The set of one character. -/
def single (c : Char) : CharSet :=
  between c.toNat c.toNat

/-- The characters in either of two sets. -/
def union (s t : CharSet) : CharSet :=
  ⟨s.ranges ++ t.ranges⟩

/-- The characters in both of two sets. -/
def inter (s t : CharSet) : CharSet :=
  ⟨s.ranges.flatMap fun r => t.ranges.filterMap fun u => r.meet? u⟩

/-- The characters outside a set. -/
def complement (s : CharSet) : CharSet :=
  s.ranges.foldr (fun r t => inter ⟨r.outside⟩ t) all

/-- The characters in the first of two sets only. -/
def diff (s t : CharSet) : CharSet :=
  s.inter t.complement

/-- The characters in exactly one of two sets. -/
def symmDiff (s t : CharSet) : CharSet :=
  (s.diff t).union (t.diff s)

/-- A character is in a union exactly if it is in one of the two sets. -/
theorem contains_union (s t : CharSet) (c : Char) :
    (s.union t).contains c = (s.contains c || t.contains c) := by
  simp [contains, union]

/-- A code is in the parts that a range has in common with others exactly if it is in it and in one
of them. -/
theorem any_filterMap_meet? (r : CodeRange) (us : List CodeRange) (n : Nat) :
    ((us.filterMap fun u => r.meet? u).any fun v => v.holds n) =
      (r.holds n && us.any fun u => u.holds n) := by
  induction us with
  | nil => simp
  | cons u us ih =>
    have h := r.holds_meet? u n
    cases hm : r.meet? u with
    | none =>
      rw [hm, Option.any_none] at h
      rw [List.filterMap_cons_none hm, ih, List.any_cons, Bool.and_or_distrib_left, ← h,
        Bool.false_or]
    | some v =>
      rw [hm, Option.any_some] at h
      rw [List.filterMap_cons_some hm, List.any_cons, ih, List.any_cons,
        Bool.and_or_distrib_left, h]

/-- A character is in an intersection exactly if it is in both sets. -/
theorem contains_inter (s t : CharSet) (c : Char) :
    (s.inter t).contains c = (s.contains c && t.contains c) := by
  obtain ⟨rs⟩ := s
  simp only [contains, inter]
  induction rs with
  | nil => simp
  | cons r rs ih =>
    rw [List.flatMap_cons, List.any_append, any_filterMap_meet?, ih, List.any_cons,
      Bool.and_or_distrib_right]

/-- Every character is in the set of all. -/
theorem contains_all (c : Char) : all.contains c = true := by
  have h : c.toNat < 0x110000 := by
    have := c.valid
    simp only [UInt32.isValidChar, Nat.isValidChar] at this
    unfold Char.toNat
    omega
  simp only [contains, all, List.any_cons, List.any_nil, Bool.or_false, CodeRange.holds, lastCode,
    Bool.and_eq_true, decide_eq_true_eq]
  omega

/-- A character is in a complement exactly if it is not in the set. -/
theorem contains_complement (s : CharSet) (c : Char) :
    s.complement.contains c = !s.contains c := by
  have hc : c.toNat ≤ lastCode := by
    have h := contains_all c
    simp only [contains, all, List.any_cons, List.any_nil, Bool.or_false, CodeRange.holds,
      Bool.and_eq_true, decide_eq_true_eq] at h
    exact h.2
  obtain ⟨rs⟩ := s
  simp only [complement]
  induction rs with
  | nil => exact contains_all c
  | cons r rs ih =>
    rw [List.foldr_cons, contains_inter, ih]
    simp only [contains, List.any_cons, Bool.not_or, r.any_outside hc]

/-- The digits. -/
def digits : CharSet :=
  between 0x30 0x39

/-- The capital letters of ASCII. -/
def capitals : CharSet :=
  between 0x41 0x5A

/-- The small letters of ASCII. -/
def smalls : CharSet :=
  between 0x61 0x7A

/-- The letters of ASCII. -/
def letters : CharSet :=
  capitals.union smalls

/-- The white space of ASCII. -/
def spaces : CharSet :=
  (between 0x09 0x0D).union (between 0x20 0x20)

/-- The letters and digits of ASCII, and the underscore. -/
def wordChars : CharSet :=
  (letters.union digits).union (between 0x5F 0x5F)

/-- The set that a name in a bracketed class stands for. -/
def named? : String → Option CharSet
  | "alnum" => some (letters.union digits)
  | "alpha" => some letters
  | "ascii" => some (between 0 0x7F)
  | "blank" => some ((between 0x09 0x09).union (between 0x20 0x20))
  | "cntrl" => some ((between 0 0x1F).union (between 0x7F 0x7F))
  | "digit" => some digits
  | "graph" => some (between 0x21 0x7E)
  | "lower" => some smalls
  | "print" => some (between 0x20 0x7E)
  | "punct" => some ((((between 0x21 0x2F).union (between 0x3A 0x40)).union
      (between 0x5B 0x60)).union (between 0x7B 0x7E))
  | "space" => some spaces
  | "upper" => some capitals
  | "word" => some wordChars
  | "xdigit" => some ((digits.union (between 0x41 0x46)).union (between 0x61 0x66))
  | _ => none

/-- A set of ASCII characters with every letter in both cases. -/
def foldCase (s : CharSet) : CharSet :=
  let lowered : CharSet :=
    ⟨(s.inter capitals).ranges.map fun r => ⟨r.first + 32, r.last + 32⟩⟩
  let raised : CharSet :=
    ⟨(s.inter smalls).ranges.map fun r => ⟨r.first - 32, r.last - 32⟩⟩
  (s.union lowered).union raised

end CharSet

end FolderCopy.Pattern
