import FolderCopy.DoublePrecision
import FolderCopy.Text.Numeral

/-!
# JSON numbers

A number as it is written, and the integer that it denotes. A number with a fraction or an exponent
is no integer here, whatever its value, and neither is `-0`.
-/

namespace FolderCopy.Json

/-- A JSON number as written: sign, digits before the point, digits after it, and the text after
the exponent mark (sign and digits). -/
structure Numeral where
  negative : Bool
  whole : List Char
  fraction : Option (List Char)
  exponent : Option (Option Char × List Char)
  deriving DecidableEq, Repr

/-- The largest integer of 64 bits with a sign. -/
def maxInt : Int := 9223372036854775807

/-- The smallest integer of 64 bits with a sign. -/
def minInt : Int := -9223372036854775808

namespace Numeral

/-- The integer that a number without fraction and exponent denotes; `-0` is none. -/
def int? (n : Numeral) : Option Int :=
  if n.fraction.isSome || n.exponent.isSome then none
  else
    let m := Text.digitsValue n.whole
    if n.negative then if m = 0 then none else some (-(m : Int))
    else some m

/-- The count of 64 bits that a number denotes. -/
def count? (n : Numeral) : Option Nat :=
  match n.int? with
  | some (.ofNat m) => if m ≤ maxCount then some m else none
  | _ => none

/-- The integer of 64 bits with a sign that a number denotes. -/
def signed? (n : Numeral) : Option Int :=
  match n.int? with
  | some i => if minInt ≤ i ∧ i ≤ maxInt then some i else none
  | none => none

/-- The power of ten that the exponent names. -/
def scale (n : Numeral) : Int :=
  match n.exponent with
  | none => 0
  | some (sign, ds) =>
    let m : Int := Text.digitsValue ds
    if sign = some '-' then -m else m

/-- The leading digits of a number as a count of 64 bits, with the power of ten that it is short of
the number. -/
structure Lead where
  count : Nat := 0
  power : Int := 0
  deriving DecidableEq, Repr

/-- Takes digits before the point. The first one that the count has no room for is passed over with
all digits after it, and each of those counts as a power of ten. -/
def Lead.takeWhole (l : Lead) : List Char → Lead
  | [] => l
  | d :: ds =>
    let n := 10 * l.count + (d.toNat - 48)
    if n ≤ maxCount then Lead.takeWhole { l with count := n } ds
    else { l with power := l.power + (ds.length + 1) }

/-- Takes digits after the point, up to the first one that the count has no room for. -/
def Lead.takeFraction (l : Lead) : List Char → Lead
  | [] => l
  | d :: ds =>
    let n := 10 * l.count + (d.toNat - 48)
    if n ≤ maxCount then Lead.takeFraction { count := n, power := l.power - 1 } ds
    else l

/-- The leading digits of a number. -/
def lead (n : Numeral) : Lead :=
  (Lead.takeWhole {} n.whole).takeFraction (n.fraction.getD [])

/-- Whether a number can be held with double precision. The leading digits and the power of ten are
rounded apart and then multiplied. -/
def isFinite (n : Numeral) : Bool :=
  let power := n.lead.power + n.scale
  if n.lead.count = 0 || power < 0 then true
  else if 308 < power then false
  else nearestDouble n.lead.count * nearestDouble (Nat.pow 10 power.toNat) < doubleBound

/-- The number as written. -/
def chars (n : Numeral) : List Char :=
  (if n.negative then ['-'] else []) ++ n.whole ++
    (match n.fraction with
      | none => []
      | some ds => '.' :: ds) ++
    (match n.exponent with
      | none => []
      | some (sign, ds) => 'e' :: sign.toList ++ ds)

end Numeral

end FolderCopy.Json
