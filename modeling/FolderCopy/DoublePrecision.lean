/-!
# Double precision

Counts rounded to the double-precision numbers: 53 significant bits, a half going to the even
neighbour. Main statement: a count of 53 bits is kept as it is.
-/

namespace FolderCopy

/-- The quotient of two counts rounded to the nearest whole number, a half to the even one. -/
def roundHalfEven (num den : Nat) : Nat :=
  let q := num / den
  let twice := 2 * (num % den)
  if twice < den then q else if den < twice then q + 1 else q + q % 2

/-- The double-precision number nearest to a count: 53 significant bits, a half to the even one. -/
def nearestDouble (n : Nat) : Nat :=
  if n < Nat.pow 2 53 then n
  else
    let step := Nat.pow 2 (n.log2 - 52)
    roundHalfEven n step * step

/-- The least magnitude that rounds to no double-precision number: half a step beyond the largest
one. -/
def doubleBound : Nat :=
  Nat.pow 2 1024 - Nat.pow 2 970

/-- A count of 53 bits is a double-precision number. -/
theorem nearestDouble_of_lt {n : Nat} (h : n < Nat.pow 2 53) : nearestDouble n = n := by
  simp [nearestDouble, h]

end FolderCopy
