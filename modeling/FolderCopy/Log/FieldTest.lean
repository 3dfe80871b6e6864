import FolderCopy.Log.Event
import FolderCopy.Pattern.Reading
import FolderCopy.Text.Numeral

/-!
# Tests of fields

What a filter asks of a field of a span: that there is one of a name, or also that its value is a
given truth value, a given count, or a text to whose end a pattern matches.
-/

namespace FolderCopy.Log

/-- A test of a value. -/
inductive ValueTest where
  | truth (b : Bool)
  | count (n : Nat)
  /-- A number that no span carries, such as one below zero or with a fraction. -/
  | otherNumber
  | pattern (text : String) (e : Pattern.Expr)
  deriving DecidableEq, Repr

namespace ValueTest

/-- Whether a value passes a test. -/
def accepts : ValueTest → SpanValue → Bool
  | .truth b, .truth v => b == v
  | .count n, .count v => n == v
  | .pattern _ e, .text v => e.matchesText v
  | _, _ => false

/-- Removes a sign. -/
def dropSign : List Char → List Char
  | '+' :: cs | '-' :: cs => cs
  | cs => cs

/-- Whether a text is the exponent of a number, or no text. -/
def isExponent (cs : List Char) : Bool :=
  match cs with
  | [] => true
  | c :: cs =>
    let ds := dropSign cs
    (c == 'e' || c == 'E') && !ds.isEmpty && ds.all Char.isDigit

/-- Whether a text without sign is a decimal number: digits with a point before, among or after
them, and an exponent. -/
def isDecimal (cs : List Char) : Bool :=
  let whole := cs.takeWhile Char.isDigit
  match cs.dropWhile Char.isDigit with
  | '.' :: rest =>
    !(whole.isEmpty && (rest.takeWhile Char.isDigit).isEmpty) &&
      isExponent (rest.dropWhile Char.isDigit)
  | rest => !whole.isEmpty && isExponent rest

/-- Whether a text is a number, an infinity, or the value that is no number. -/
def isNumber (cs : List Char) : Bool :=
  let unsigned := dropSign cs
  let word := String.ofList (unsigned.map Char.toLower)
  word == "inf" || word == "infinity" || word == "nan" || isDecimal unsigned

/-- The test that a text writes: a truth value, a number, or else a pattern. -/
def ofText? (s : String) : Option ValueTest :=
  if s = "true" then some (.truth true)
  else if s = "false" then some (.truth false)
  else
    match Text.count? s with
    | some n => some (.count n)
    | none =>
      if isNumber s.toList then some .otherNumber
      else (Pattern.ofText? s).map (.pattern s)

end ValueTest

/-- A test of a field. -/
structure FieldTest where
  name : String
  /-- The test of the value; without one any value passes. -/
  value : Option ValueTest := none
  deriving DecidableEq, Repr

namespace FieldTest

/-- Whether a span carries the field. -/
def applies (t : FieldTest) (s : Span) : Bool :=
  (s.value? t.name).isSome

/-- Whether a span passes a test that applies to it. -/
def accepts (t : FieldTest) (s : Span) : Bool :=
  match t.value, s.value? t.name with
  | none, _ => true
  | some test, some v => test.accepts v
  | some _, none => false

/-- The test that a text writes: a name, and after an equals sign a value. A second equals sign and
what follows it mean nothing. -/
def ofText? (s : String) : Option FieldTest :=
  match s.toList.splitOn '=' with
  | [] | [[]] => none
  | [name] => some { name := String.ofList name }
  | name :: value :: _ =>
    (ValueTest.ofText? (String.ofList value)).map fun test =>
      { name := String.ofList name, value := some test }

end FieldTest

end FolderCopy.Log
