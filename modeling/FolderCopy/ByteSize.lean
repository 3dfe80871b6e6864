import FolderCopy.DoublePrecision
import FolderCopy.Text.Numeral

/-!
# Sizes for people

A byte count in the largest unit that it reaches, with two decimals. The count is first rounded to
double precision; the decimals are those of that exact value, a half going to the even neighbour.
-/

namespace FolderCopy

namespace ByteSize

/-- A unit of size. -/
inductive Scale where
  | byte
  | kilo
  | mega
  | giga
  | tera
  deriving DecidableEq, Repr

/-- The number of bytes in a unit. -/
def Scale.bytes : Scale → Nat
  | .byte => 1
  | .kilo => 1024
  | .mega => 1024 * 1024
  | .giga => 1024 * 1024 * 1024
  | .tera => 1024 * 1024 * 1024 * 1024

/-- The symbol of a unit. -/
def Scale.symbol : Scale → String
  | .byte => "B"
  | .kilo => "KB"
  | .mega => "MB"
  | .giga => "GB"
  | .tera => "TB"

/-- The largest unit that a count reaches; the byte for none. -/
def Scale.of (n : Nat) : Scale :=
  if Scale.bytes .tera ≤ n then .tera
  else if Scale.bytes .giga ≤ n then .giga
  else if Scale.bytes .mega ≤ n then .mega
  else if Scale.bytes .kilo ≤ n then .kilo
  else .byte

/-- The hundredths of its unit that are shown for a count. -/
def hundredths (n : Nat) : Nat :=
  match Scale.of n with
  | .byte => 100 * n
  | u => roundHalfEven (100 * nearestDouble n) u.bytes

/-- The text for a count: whole bytes, or two decimals of a larger unit. -/
def render (n : Nat) : String :=
  match Scale.of n with
  | .byte => s!"{n} B"
  | u =>
    let h := hundredths n
    toString (h / 100) ++ "." ++ Text.twoDigits (h % 100) ++ " " ++ u.symbol

end ByteSize

end FolderCopy
