/-!
# Durations

The text of a length of time given in nanoseconds: a number of the largest unit that it reaches, of
seconds, milliseconds, microseconds and nanoseconds, without trailing zeros in the fraction.
-/

namespace FolderCopy.Text

/-- The digits of a number with leading zeros, as many as `width` in all. -/
def paddedDigits (width n : Nat) : List Char :=
  let ds := Nat.toDigits 10 n
  List.replicate (width - ds.length) '0' ++ ds

/-- Digits after a point, without the zeros at their end; nothing where all are zeros. -/
def fraction (ds : List Char) : String :=
  match (ds.reverse.dropWhile (· == '0')).reverse with
  | [] => ""
  | ds => "." ++ String.ofList ds

/-- A length of time in a unit of `10 ^ places` nanoseconds. -/
def durationIn (places : Nat) (symbol : String) (time : Nat) : String :=
  let unit := Nat.pow 10 places
  toString (time / unit) ++ fraction (paddedDigits places (time % unit)) ++ symbol

/-- The text of a length of time. -/
def duration (time : Nat) : String :=
  if 1000000000 ≤ time then durationIn 9 "s" time
  else if 1000000 ≤ time then durationIn 6 "ms" time
  else if 1000 ≤ time then durationIn 3 "µs" time
  else toString time ++ "ns"

end FolderCopy.Text
