import FolderCopy.Json.Tree
import FolderCopy.Json.Value

/-!
# Reading JSON trees

What the records of the library are read from: texts, counts, integers, lists, any values, and the
fields of a record. A record is written as an object (unknown keys are passed over and a known key
may stand once only) or as an array of its fields in order.
-/

namespace FolderCopy.Json

/-- A code that begins a pair of surrogates. -/
def isHighSurrogate (n : Nat) : Bool :=
  0xD800 ≤ n && n ≤ 0xDBFF

/-- A code that ends a pair of surrogates. -/
def isLowSurrogate (n : Nat) : Bool :=
  0xDC00 ≤ n && n ≤ 0xDFFF

/-- The bytes of pieces, after those already taken (the last one first); none if a surrogate stands
alone. -/
def pieceBytes (done : Bytes) : List Piece → Option Bytes
  | [] => some done.reverse
  | .byte b :: rest => pieceBytes (b :: done) rest
  | .code n :: .code m :: rest =>
    if isHighSurrogate n then
      if isLowSurrogate m then
        let c := Char.ofNat (0x10000 + (n - 0xD800) * 0x400 + (m - 0xDC00))
        pieceBytes ((String.utf8EncodeChar c).reverse ++ done) rest
      else none
    else if isLowSurrogate n then none
    else pieceBytes ((String.utf8EncodeChar (Char.ofNat n)).reverse ++ done) (.code m :: rest)
  | .code n :: rest =>
    if isHighSurrogate n || isLowSurrogate n then none
    else pieceBytes ((String.utf8EncodeChar (Char.ofNat n)).reverse ++ done) rest

/-- The text of pieces; none for ill-formed bytes and lone surrogates. -/
def pieceText? (ps : List Piece) : Option String :=
  (pieceBytes [] ps).bind Text.Utf8.decode?

/-- The number of containers that may be open at a time where any value is accepted. -/
def maxNesting : Nat := 127

namespace Tree

/-- A text. -/
def text? : Tree → Option String
  | .text ps => pieceText? ps
  | _ => none

/-- A count of 64 bits. -/
def count? : Tree → Option Nat
  | .number n => n.count?
  | _ => none

/-- An integer of 64 bits with a sign. -/
def signed? : Tree → Option Int
  | .number n => n.signed?
  | _ => none

/-- A list. -/
def list? {α : Type} (item : Tree → Option α) : Tree → Option (List α)
  | .array items => items.mapM item
  | _ => none

/-- A value that may be null. -/
def nullable? {α : Type} (value : Tree → Option α) : Tree → Option (Option α)
  | .null => some none
  | t => (value t).map some

/-- One name out of a fixed set, written as a text or as an object with that one key and the value
null. -/
def name? : Tree → Option String
  | .text ps => pieceText? ps
  | .object [(key, .null)] => pieceText? key
  | _ => none

/-- A number as a value: an integer where it is one of 64 bits, else as written. -/
def numberValue? (n : Numeral) : Option Json :=
  match n.int? with
  | some i => if minInt ≤ i ∧ i ≤ maxCount then some (.int i) else
      if n.isFinite then some (.decimal n) else none
  | none => if n.isFinite then some (.decimal n) else none

mutual

/-- Any value in which at most `depth` containers are nested. Texts must be readable; in an object
the last value of a key wins. -/
def value? (depth : Nat) : Tree → Option Json
  | .null => some .null
  | .bool b => some (.bool b)
  | .number n => numberValue? n
  | .text ps => (pieceText? ps).map .text
  | .array items =>
    match depth with
    | 0 => none
    | d + 1 => (itemValues? d items).map .array
  | .object members =>
    match depth with
    | 0 => none
    | d + 1 => (memberValues? d members).map fun ms => .object (ofPairs ms)

/-- The values of the items of an array. -/
def itemValues? (depth : Nat) : List Tree → Option (List Json)
  | [] => some []
  | t :: ts => do
    let v ← value? depth t
    let vs ← itemValues? depth ts
    return v :: vs

/-- The keys and values of the members of an object. -/
def memberValues? (depth : Nat) : List (List Piece × Tree) → Option (List (String × Json))
  | [] => some []
  | (k, t) :: ms => do
    let key ← pieceText? k
    let v ← value? depth t
    let vs ← memberValues? depth ms
    return (key, v) :: vs

end

/-- The members of an object whose keys are readable. -/
def members? : Tree → Option (List (String × Tree))
  | .object ms => ms.mapM fun (k, t) => (pieceText? k).map fun key => (key, t)
  | _ => none

end Tree

/-- What a record says of one of its fields. -/
inductive Slot where
  | given (t : Tree)
  /-- The record is an object without the field's key. -/
  | noKey
  /-- The record is an array that ends before the field. -/
  | noItem

namespace Slot

/-- A field that must be there. -/
def required {α : Type} (value : Tree → Option α) : Slot → Option α
  | .given t => value t
  | _ => none

/-- A field with a value of its own for the case that it is missing. -/
def withDefault {α : Type} (value : Tree → Option α) (missing : α) : Slot → Option α
  | .given t => value t
  | _ => some missing

/-- A field whose key may be missing, but not its place in an array. -/
def optionalKey {α : Type} (value : Tree → Option α) : Slot → Option (Option α)
  | .given t => t.nullable? value
  | .noKey => some none
  | .noItem => none

end Slot

/-- What the members of an object say of a field; none if its key stands more than once. -/
def slot? (members : List (String × Tree)) (field : String) : Option Slot :=
  match members.filter (·.1 == field) with
  | [] => some .noKey
  | [m] => some (.given m.2)
  | _ => none

/-- What a tree says of the fields of a record, in their order. -/
def Tree.slots? (fields : List String) : Tree → Option (List Slot)
  | .array items =>
    if items.length ≤ fields.length then
      some (items.map .given ++ List.replicate (fields.length - items.length) .noItem)
    else none
  | t => do
    let members ← t.members?
    fields.mapM (slot? members)

end FolderCopy.Json
