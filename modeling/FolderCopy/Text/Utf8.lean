/-!
# UTF-8

Bytes, and the reading of bytes as text. A scan turns bytes into characters one byte at a time and
marks every maximal ill-formed run; strict reading refuses a marked run and lenient reading shows
it as the replacement character.
-/

namespace FolderCopy

/-- A sequence of bytes. -/
abbrev Bytes := List UInt8

namespace Text.Utf8

/-- An unfinished character: how many bytes it still owes, the value so far, and the range that the
next byte must lie in. -/
structure Owed where
  more : Nat
  value : Nat
  low : UInt8 := 0x80
  high : UInt8 := 0xBF
  deriving DecidableEq, Repr

/-- What the first byte of a character says. -/
inductive Lead where
  | whole (c : Char)
  | begins (o : Owed)
  | broken
  deriving DecidableEq, Repr

/-- The first byte of a character. Overlong forms, surrogates and values past the last scalar are
excluded by the range of the second byte. -/
def Lead.ofByte (b : UInt8) : Lead :=
  let n := b.toNat
  if n ≤ 0x7F then .whole (Char.ofNat n)
  else if 0xC2 ≤ n ∧ n ≤ 0xDF then .begins { more := 1, value := n - 0xC0 }
  else if n = 0xE0 then .begins { more := 2, value := 0, low := 0xA0 }
  else if n = 0xED then .begins { more := 2, value := 0xD, high := 0x9F }
  else if 0xE1 ≤ n ∧ n ≤ 0xEF then .begins { more := 2, value := n - 0xE0 }
  else if n = 0xF0 then .begins { more := 3, value := 0, low := 0x90 }
  else if 0xF1 ≤ n ∧ n ≤ 0xF3 then .begins { more := 3, value := n - 0xF0 }
  else if n = 0xF4 then .begins { more := 3, value := 4, high := 0x8F }
  else .broken

/-- Whether a byte continues the unfinished character. -/
def Owed.admits (o : Owed) (b : UInt8) : Bool :=
  o.low ≤ b && b ≤ o.high

/-- The unfinished character after one more byte that it admits. -/
def Owed.push (o : Owed) (b : UInt8) : Lead :=
  let value := o.value * 64 + b.toNat % 64
  if o.more ≤ 1 then .whole (Char.ofNat value) else .begins { more := o.more - 1, value }

/-- Where a scan stands: the characters read so far, the last one first (`none` for an ill-formed
run), and the character it is in the middle of. -/
structure Scan where
  done : List (Option Char) := []
  owed : Option Owed := none

/-- Takes what a byte said. -/
def Scan.take (done : List (Option Char)) : Lead → Scan
  | .whole c => { done := some c :: done }
  | .begins o => { done, owed := some o }
  | .broken => { done := none :: done }

/-- One byte. A byte that does not continue the unfinished character ends an ill-formed run and is
read as a first byte. -/
def Scan.step (s : Scan) (b : UInt8) : Scan :=
  match s.owed with
  | none => .take s.done (.ofByte b)
  | some o => if o.admits b then .take s.done (o.push b) else .take (none :: s.done) (.ofByte b)

/-- The characters of a finished scan; an unfinished character is an ill-formed run. -/
def Scan.finish (s : Scan) : List (Option Char) :=
  match s.owed with
  | none => s.done.reverse
  | some _ => (none :: s.done).reverse

/-- The characters of a byte sequence, `none` for each maximal ill-formed run. -/
def scalars (bs : Bytes) : List (Option Char) :=
  (bs.foldl Scan.step {}).finish

/-- The text of well-formed bytes. -/
def decode? (bs : Bytes) : Option String :=
  let cs := scalars bs
  if cs.all Option.isSome then some (String.ofList (cs.filterMap id)) else none

/-- The text of any bytes, with one replacement character for each maximal ill-formed run. -/
def decodeLossy (bs : Bytes) : String :=
  String.ofList ((scalars bs).map fun c => c.getD '\uFFFD')

/-- The bytes of a text. -/
def encode (s : String) : Bytes :=
  s.toList.flatMap String.utf8EncodeChar

end Text.Utf8

end FolderCopy
