import FolderCopy.Log.FieldTest
import FolderCopy.Log.Threshold
import FolderCopy.Text.Alphanumeric
import FolderCopy.Text.Blank

/-!
# Filter directives

A filter for log events is a list of directives with commas between them. A directive is a level, or
a target that may be followed by a span in brackets and by an equals sign and a level:
`core=debug`, `core[transfer]=info`. A span is named, or a field of it in braces, or both:
`[transfer{concurrency=2}]=info`. A directive without level lets everything through.
-/

namespace FolderCopy.Log

/-- A directive. It speaks of the events and spans of a target and, where a span or a field is
named, of what happens inside such spans. -/
structure Directive where
  threshold : Threshold := some .trace
  target : Option String := none
  span : Option String := none
  field : Option FieldTest := none
  deriving DecidableEq, Repr

namespace Directive

/-- Where the reading of a directive stands, with the position at which a part began. -/
inductive Place where
  | start
  | levelOrTarget (from_ : Nat)
  | span (from_ : Nat)
  | field (from_ : Nat)
  | afterField
  | afterSpan
  | level (from_ : Nat)
  deriving DecidableEq, Repr

/-- A directive that is being read: its text, the place, and what has been read. -/
structure Draft where
  text : List Char
  place : Place := .start
  read : Directive := {}

/-- Drops a number of bytes from the start of a text; none if they end inside a character. -/
def dropBytes : Nat → List Char → Option (List Char)
  | 0, cs => some cs
  | _ + 1, [] => none
  | n + 1, c :: cs => if c.utf8Size ≤ n + 1 then dropBytes (n + 1 - c.utf8Size) cs else none

/-- Takes a number of bytes from the start of a text; none if they end inside a character. -/
def takeBytes : Nat → List Char → Option (List Char)
  | 0, _ => some []
  | _ + 1, [] => none
  | n + 1, c :: cs =>
    if c.utf8Size ≤ n + 1 then (takeBytes (n + 1 - c.utf8Size) cs).map (c :: ·) else none

/-- The part of the text from one position to another, counted in bytes. -/
def Draft.cut? (d : Draft) (first last : Nat) : Option String :=
  ((dropBytes first d.text).bind (takeBytes (last - first))).map String.ofList

/-- The part of the text from a position on, counted in bytes. -/
def Draft.rest? (d : Draft) (first : Nat) : Option String :=
  (dropBytes first d.text).map String.ofList

/-- Whether a directive may start with a character. -/
def mayStart (c : Char) : Bool :=
  c == '-' || c == ':' || c == '_' || Text.isAlphanumeric c

/-- Takes the character at a position. -/
def Draft.step (d : Draft) (i : Nat) (c : Char) : Option Draft :=
  match d.place with
  | .start =>
    if c = '[' then some { d with place := .span (i + 1) }
    else if mayStart c then some { d with place := .levelOrTarget i }
    else none
  | .levelOrTarget s =>
    if c = '=' then (d.cut? s i).map fun t =>
      { d with place := .level (i + 1), read := { d.read with target := some t } }
    else if c = '[' then (d.cut? s i).map fun t =>
      { d with place := .span (i + 1), read := { d.read with target := some t } }
    else some d
  | .span s =>
    if c = ']' then (d.cut? s i).map fun name =>
      { d with place := .afterSpan, read := { d.read with span := some name } }
    else if c = '\x7b' then (d.cut? s i).map fun name =>
      { d with
        place := .field (i + 1)
        read := { d.read with span := if name = "" then none else some name } }
    else some d
  | .field s =>
    if c = '\x7d' then ((d.cut? s i).bind FieldTest.ofText?).map fun test =>
      { d with place := .afterField, read := { d.read with field := some test } }
    else some d
  | .afterField => if c = ']' then some { d with place := .afterSpan } else none
  | .afterSpan => if c = '=' then some { d with place := .level (i + 1) } else none
  | .level _ => some d

/-- Takes characters one after the other, from a position on. -/
def Draft.run (d : Draft) (i : Nat) : List Char → Option Draft
  | [] => some d
  | c :: cs => (d.step i c).bind fun d => d.run (i + c.utf8Size) cs

/-- The directive at the end of its text. -/
def Draft.finish (d : Draft) : Option Directive :=
  match d.place with
  | .levelOrTarget s => (d.rest? s).map fun rest =>
    match Threshold.ofText? rest with
    | some t => { threshold := if rest = "" then some .trace else t }
    | none => { target := some rest }
  | .level s => (d.rest? s).bind fun rest =>
    if rest = "" then some d.read
    else (Threshold.ofText? rest).map fun t => { d.read with threshold := t }
  | .afterSpan => some d.read
  | _ => none

/-- Reads a directive. Blanks around it are passed over, but positions count from the first
character that is not blank and parts are cut out of the whole text, so a blank before a directive
shifts its parts. -/
def ofText? (text : List Char) : Option Directive :=
  (Draft.run { text } 0 (Text.trimList text)).bind Draft.finish

/-- Whether a directive speaks of spans. -/
def isOnSpans (d : Directive) : Bool :=
  d.span.isSome || d.field.isSome

/-- Whether a directive speaks of a target as such: it names no span and tests no value. -/
def isOnTargets (d : Directive) : Bool :=
  d.span.isNone && !d.field.any (·.value.isSome)

/-- Whether a target is one that a named target covers: it starts with that one. -/
def coversTarget (named : Option String) (target : String) : Bool :=
  match named with
  | none => true
  | some t => t.toList.isPrefixOf target.toList

/-- Whether a directive speaks of a span. -/
def coversSpan (d : Directive) (s : Span) : Bool :=
  coversTarget d.target s.target && (d.span.isNone || d.span == some s.name) &&
    d.field.all (·.applies s)

/-- Whether a span that a directive speaks of passes its test. -/
def acceptsSpan (d : Directive) (s : Span) : Bool :=
  d.field.all (·.accepts s)

/-- Whether two directives speak of the same spans. -/
def sameSpans (a b : Directive) : Bool :=
  a.target == b.target && a.span == b.span && a.field == b.field

/-- Whether a directive tests the value of a field. -/
def testsValue (d : Directive) : Bool :=
  d.field.any (·.value.isSome)

end Directive

/-- Splits a text at commas; empty parts are dropped. -/
def splitCommas (cs : List Char) : List (List Char) :=
  (cs.splitOn ',').filter (!·.isEmpty)

/-- Reads a list of directives. -/
def directives? (s : String) : Option (List Directive) :=
  (splitCommas s.toList).mapM Directive.ofText?

end FolderCopy.Log
