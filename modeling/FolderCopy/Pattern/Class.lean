import FolderCopy.Pattern.Expression
import FolderCopy.Text.Blank
import FolderCopy.Text.Percent

/-!
# Written characters and classes

How a pattern writes one character, a condition, or a set of characters: escapes, and classes in
brackets with ranges, names, classes inside classes, and the operations on them. What characters
mean depends on switches that a pattern can set.

Sets that need the tables of a character standard (its digits, letters and cases) are not
available: they can be written for ASCII only, with the switch `u` off.
-/

namespace FolderCopy.Pattern

/-- The switches of a pattern. -/
structure Switches where
  /-- `i`: letters stand for both cases. -/
  anyCase : Bool := false
  /-- `m`: lines inside the text have starts and ends. -/
  manyLines : Bool := false
  /-- `s`: a dot stands for line feeds too. -/
  dotTakesAll : Bool := false
  /-- `U`: repetitions are reluctant unless marked. -/
  reluctant : Bool := false
  /-- `u`: characters are not limited to ASCII. -/
  wide : Bool := true
  /-- `R`: a carriage return can end a line. -/
  returns : Bool := false
  /-- `x`: blanks and comments are passed over. -/
  spaced : Bool := false
  deriving DecidableEq, Repr

namespace Switches

/-- Sets the switch of a letter. -/
def set? (s : Switches) (on : Bool) : Char → Option Switches
  | 'i' => some { s with anyCase := on }
  | 'm' => some { s with manyLines := on }
  | 's' => some { s with dotTakesAll := on }
  | 'U' => some { s with reluctant := on }
  | 'u' => some { s with wide := on }
  | 'R' => some { s with returns := on }
  | 'x' => some { s with spaced := on }
  | _ => none

/-- Passes over blanks and comments. -/
def skipBlanks : (inComment : Bool) → List Char → List Char
  | _, [] => []
  | true, c :: cs => skipBlanks (c != '\n') cs
  | false, c :: cs =>
    if Text.isBlank c then skipBlanks false cs
    else if c = '#' then skipBlanks true cs
    else c :: cs

/-- Passes over what the switches say is passed over. -/
def skip (s : Switches) (cs : List Char) : List Char :=
  if s.spaced then skipBlanks false cs else cs

/-- The next character that counts; of a comment only its mark is passed over here. -/
def peek? (s : Switches) (cs : List Char) : Option Char :=
  if !s.spaced then cs.head?
  else
    match cs.dropWhile Text.isBlank with
    | '#' :: rest => (rest.dropWhile Text.isBlank).head?
    | rest => rest.head?

/-- The set that a written set stands for where letters may stand for both cases. -/
def folded? (s : Switches) (set : CharSet) : Option CharSet :=
  if !s.anyCase || set = .empty then some set
  else if s.wide then none
  else some set.foldCase

/-- The set that a written set, negated or not, stands for. -/
def meant? (s : Switches) (negated : Bool) (set : CharSet) : Option CharSet :=
  (s.folded? set).bind fun set =>
    if !negated then some set else if s.wide then some set.complement else none

end Switches

/-- Something that is written with a few characters. -/
inductive Atom where
  | char (c : Char)
  | check (c : Check)
  | set (s : CharSet)
  deriving DecidableEq, Repr

/-- Reads hexadecimal digits, blanks between them passed over where the switches say so. -/
def readHex (s : Switches) : (digits value : Nat) → List Char → Option (Nat × List Char)
  | 0, value, cs => some (value, cs)
  | n + 1, value, cs =>
    match s.skip cs with
    | [] => none
    | c :: cs => (Text.Percent.digit? c).bind fun d => readHex s n (16 * value + d) cs

/-- The character of a code point. -/
def charOf? (n : Nat) : Option Char :=
  if n < 0xD800 ∨ 0xDFFF < n ∧ n ≤ lastCode then some (Char.ofNat n) else none

/-- Reads a character that is written by its code point. Without the switch `u` two digits write a
byte, and a byte beyond ASCII is no text. -/
def readCode (s : Switches) (digits : Nat) (cs : List Char) : Option (Atom × List Char) :=
  (readHex s digits 0 cs).bind fun (n, rest) =>
    if digits = 2 ∧ s.wide = false ∧ 0x7F < n then none
    else (charOf? n).map fun c => (.char c, rest)

/-- Whether a character may be written with a backslash before it to stand for itself. -/
def escapes (c : Char) : Bool :=
  c.toNat < 0x80 && !c.isAlphanum && c != '<' && c != '>'

/-- Reads what stands after a backslash. Conditions on words, and sets, are known for ASCII only. -/
def readEscape (s : Switches) : List Char → Option (Atom × List Char)
  | [] => none
  | 'x' :: cs => readCode s 2 cs
  | 'u' :: cs => readCode s 4 cs
  | 'U' :: cs => readCode s 8 cs
  | c :: cs =>
    let narrow (a : Atom) := if s.wide then none else some (a, cs)
    if escapes c then some (.char c, cs)
    else
      match c with
      | 'd' => narrow (.set .digits)
      | 's' => narrow (.set .spaces)
      | 'w' => narrow (.set .wordChars)
      | 'a' => some (.char '\x07', cs)
      | 'f' => some (.char '\x0c', cs)
      | 't' => some (.char '\t', cs)
      | 'n' => some (.char '\n', cs)
      | 'r' => some (.char '\r', cs)
      | 'v' => some (.char '\x0b', cs)
      | 'A' => some (.check .textStart, cs)
      | 'z' => some (.check .textEnd, cs)
      | 'b' => narrow (.check .wordBoundary)
      | 'B' => narrow (.check .noWordBoundary)
      | '<' => narrow (.check .wordStart)
      | '>' => narrow (.check .wordEnd)
      | _ => none

/-- An operation between sets in a class. -/
inductive SetOp where
  | inter
  | diff
  | symmDiff
  deriving DecidableEq, Repr

/-- Carries out an operation. -/
def SetOp.apply : SetOp → CharSet → CharSet → CharSet
  | .inter => CharSet.inter
  | .diff => CharSet.diff
  | .symmDiff => CharSet.symmDiff

/-- Something written, with how deep the things in it are nested. -/
structure Nested (α : Type) where
  value : α
  depth : Nat := 0
  deriving Repr

/-- A class that is being read: what it holds since the last operation, and that operation with the
set before it. -/
structure ClassDraft where
  negated : Bool
  held : CharSet := .empty
  /-- The number of parts held. -/
  count : Nat := 0
  depth : Nat := 0
  before : Option (SetOp × Nested CharSet) := none
  deriving Repr

namespace ClassDraft

/-- Adds a part. -/
def add (d : ClassDraft) (part : Nested CharSet) : ClassDraft :=
  { d with held := d.held.union part.value, count := d.count + 1, depth := max d.depth part.depth }

/-- The set of what has been read. -/
def total? (s : Switches) (d : ClassDraft) : Option (Nested CharSet) :=
  let right : Nested CharSet := ⟨d.held, if d.count ≤ 1 then d.depth else d.depth + 1⟩
  match d.before with
  | none => some right
  | some (op, left) => do
    let l ← s.folded? left.value
    let r ← s.folded? right.value
    pure ⟨op.apply l r, max left.depth right.depth + 1⟩

/-- Begins the right side of an operation. -/
def operate? (s : Switches) (op : SetOp) (d : ClassDraft) : Option ClassDraft :=
  (d.total? s).map fun left => { negated := d.negated, before := some (op, left) }

/-- The class at its end. -/
def close? (s : Switches) (d : ClassDraft) : Option (Nested CharSet) :=
  (d.total? s).bind fun t => (s.meant? d.negated t.value).map fun set => ⟨set, t.depth + 1⟩

/-- Reads `n` hyphens at most, at the start of a class. They stand for themselves. -/
def takeHyphens (s : Switches) : (n : Nat) → ClassDraft → List Char → ClassDraft × List Char
  | 0, d, cs => (d, cs)
  | n + 1, d, cs =>
    match s.skip cs with
    | '-' :: rest => takeHyphens s n (d.add ⟨.single '-', 0⟩) rest
    | rest => (d, rest)

/-- Begins a class after its opening bracket: a negation, hyphens, and a closing bracket that comes
first and stands for itself. -/
def start (s : Switches) (cs : List Char) : ClassDraft × List Char :=
  let (negated, cs) := match s.skip cs with
    | '^' :: rest => (true, rest)
    | cs => (false, cs)
  let (d, cs) := takeHyphens s cs.length { negated } cs
  match d.count, s.skip cs with
  | 0, ']' :: rest => (d.add ⟨.single ']', 0⟩, rest)
  | _, cs => (d, cs)

end ClassDraft

/-- Reads a name for a set after its opening bracket, such as `:alpha:]`, and whether it is negated.
What only begins like a name is none. -/
def readName? : List Char → Option ((Bool × CharSet) × List Char)
  | ':' :: cs =>
    let (negated, cs) := match cs with
      | '^' :: rest => (true, rest)
      | cs => (false, cs)
    match cs.dropWhile (· != ':') with
    | ':' :: ']' :: rest =>
      (CharSet.named? (String.ofList (cs.takeWhile (· != ':')))).map fun set =>
        ((negated, set), rest)
    | _ => none
  | _ => none

/-- Reads one character of a class, or what a backslash makes of it. -/
def readAtom (s : Switches) : List Char → Option (Atom × List Char)
  | [] => none
  | '\\' :: cs => readEscape s cs
  | c :: cs => some (.char c, cs)

/-- A character that a class may hold. -/
def Switches.member? (s : Switches) (c : Char) : Option Nat :=
  if s.wide || c.toNat < 0x80 then some c.toNat else none

/-- Reads a member of a class: a character, a set, or a range. A hyphen that another one or the end
of the class follows makes no range. -/
def readMember (s : Switches) (cs : List Char) : Option (CharSet × List Char) := do
  let (a, cs) ← readAtom s cs
  let alone : Option CharSet := match a with
    | .char c => (s.member? c).map fun n => .between n n
    | .set set => some set
    | .check _ => none
  match s.skip cs with
  | [] => none
  | '-' :: rest =>
    if s.peek? rest = some ']' ∨ s.peek? rest = some '-' then
      alone.map fun set => (set, '-' :: rest)
    else
      match a, ← readAtom s (s.skip rest) with
      | .char c, (.char d, rest) => do
        let first ← s.member? c
        let last ← s.member? d
        if first ≤ last then some (.between first last, rest) else none
      | _, _ => none
  | rest => alone.map fun set => (set, rest)

/-- Reads a class to its end in `n` steps at most. -/
def readClass (s : Switches) : (n : Nat) → ClassDraft → List Char →
    Option (Nested CharSet × List Char)
  | 0, _, _ => none
  | n + 1, d, cs =>
    match s.skip cs with
    | [] => none
    | ']' :: rest => (d.close? s).map fun set => (set, rest)
    | '&' :: '&' :: rest => (d.operate? s .inter).bind fun d => readClass s n d rest
    | '-' :: '-' :: rest => (d.operate? s .diff).bind fun d => readClass s n d rest
    | '~' :: '~' :: rest => (d.operate? s .symmDiff).bind fun d => readClass s n d rest
    | '[' :: rest =>
      match readName? rest with
      | some ((negated, set), rest) =>
        (s.meant? negated set).bind fun set => readClass s n (d.add ⟨set, 0⟩) rest
      | none =>
        let (inner, rest) := ClassDraft.start s rest
        (readClass s n inner rest).bind fun (part, rest) => readClass s n (d.add part) rest
    | cs => (readMember s cs).bind fun (set, rest) => readClass s n (d.add ⟨set, 0⟩) rest

/-- Reads a class after its opening bracket. -/
def readBrackets (s : Switches) (cs : List Char) : Option (Nested CharSet × List Char) :=
  let (d, rest) := ClassDraft.start s cs
  readClass s (cs.length + 1) d rest

end FolderCopy.Pattern
