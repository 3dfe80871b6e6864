import FolderCopy.Text.Utf8

/-!
# Percent encoding

A text inside a web address: unreserved characters stand for themselves and every other byte of the
text's UTF-8 form is written as `%` and two upper-case hexadecimal digits. Reading undoes it.
-/

namespace FolderCopy.Text.Percent

/-- The bytes that stand for themselves: ASCII letters, digits, `-`, `_`, `.` and `~`. -/
def isUnreserved (b : UInt8) : Bool :=
  let c := Char.ofNat b.toNat
  b.toNat < 128 && (c.isAlphanum || c == '-' || c == '_' || c == '.' || c == '~')

/-- The upper-case hexadecimal digit of a number below sixteen. -/
def digit (n : Nat) : Char :=
  if n < 10 then Char.ofNat (48 + n) else Char.ofNat (55 + n)

/-- The value of a hexadecimal digit of either case. -/
def digit? (c : Char) : Option Nat :=
  let n := c.toNat
  if 48 ≤ n ∧ n ≤ 57 then some (n - 48)
  else if 65 ≤ n ∧ n ≤ 70 then some (n - 55)
  else if 97 ≤ n ∧ n ≤ 102 then some (n - 87)
  else none

/-- One byte in percent encoding. -/
def encodeByte (b : UInt8) : List Char :=
  if isUnreserved b then [Char.ofNat b.toNat]
  else ['%', digit (b.toNat / 16), digit (b.toNat % 16)]

/-- A text in percent encoding. -/
def encode (s : String) : String :=
  String.ofList ((Utf8.encode s).flatMap encodeByte)

/-- The bytes that a percent-encoded character list denotes; none if a `%` lacks its two digits. -/
def bytes? : List Char → Option Bytes
  | [] => some []
  | '%' :: h :: l :: rest => do
    let high ← digit? h
    let low ← digit? l
    let tail ← bytes? rest
    return UInt8.ofNat (16 * high + low) :: tail
  | c :: rest => do
    if c = '%' then none
    let tail ← bytes? rest
    return String.utf8EncodeChar c ++ tail

/-- The text that a percent-encoded text denotes. -/
def decode? (s : String) : Option String :=
  (bytes? s.toList).bind Utf8.decode?

end FolderCopy.Text.Percent
