/-!
# Numerals

Decimal digits, and the unsigned numbers of 64 bits that a text can spell.
-/

namespace FolderCopy

/-- The largest count of 64 bits. -/
def maxCount : Nat := 18446744073709551615

namespace Text

/-- The number that decimal digits spell, most significant first; a character that is no digit
counts by its distance from `0`. -/
def digitsValue (ds : List Char) : Nat :=
  ds.foldl (fun n d => 10 * n + (d.toNat - 48)) 0

/-- The count that a text spells: an optional `+`, then one or more ASCII digits, leading zeros
allowed, of at most 64 bits. -/
def count? (s : String) : Option Nat :=
  let digits := match s.toList with
    | '+' :: rest => rest
    | cs => cs
  if digits.isEmpty || !digits.all Char.isDigit then none
  else
    let n := digitsValue digits
    if n ≤ maxCount then some n else none

/-- A number with a leading zero where it has one digit only. -/
def twoDigits (n : Nat) : String :=
  if n < 10 then s!"0{n}" else toString n

end Text

end FolderCopy
