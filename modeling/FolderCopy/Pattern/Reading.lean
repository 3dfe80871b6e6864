import FolderCopy.Pattern.Class
import FolderCopy.Text.Alphanumeric

/-!
# Reading patterns

The written form of patterns: characters, classes, conditions, groups with bars between their
branches, and repetitions. A group may have a name or set switches, and switches that stand alone
hold to the end of their group.
-/

namespace FolderCopy.Pattern

/-- How deep the parts of a pattern may be nested. -/
def depthLimit : Nat :=
  250

/-- A part of a branch: a pattern, or switches, which cannot be repeated. -/
abbrev Piece := Nested (Option Expr)

/-- The branches of a group that is being read: those before the last bar and the pieces since, each
the last first. -/
structure Branches where
  closed : List (Nested Expr) := []
  pieces : List Piece := []
  deriving Repr

namespace Branches

/-- Adds a pattern to the branch. -/
def add (b : Branches) (e : Expr) (depth : Nat) : Branches :=
  { b with pieces := ⟨some e, depth⟩ :: b.pieces }

/-- Parts as one thing: more than one of them are nested one deeper. -/
def join {α β : Type} (f : List α → β) (parts : List (Nested α)) : Nested β :=
  let depth := (parts.map (·.depth)).foldl max 0
  ⟨f (parts.map (·.value)), if parts.length ≤ 1 then depth else depth + 1⟩

/-- The branch that is being read. -/
def branch (b : Branches) : Nested Expr :=
  join (fun es => .sequence (es.filterMap id)) b.pieces.reverse

/-- Closes the branch at a bar. -/
def bar (b : Branches) : Branches :=
  { closed := b.branch :: b.closed }

/-- The pattern of all branches. -/
def total (b : Branches) : Nested Expr :=
  join .choice (b.branch :: b.closed).reverse

/-- Repeats the last piece. -/
def repeat? (b : Branches) (f : Expr → Expr) : Option Branches :=
  match b.pieces with
  | ⟨some e, depth⟩ :: rest => some { b with pieces := ⟨some (f e), depth + 1⟩ :: rest }
  | _ => none

end Branches

/-- A pattern that is being read: the switches, the branches of the innermost group, and for each
group around it its branches and the switches that were set before it. -/
structure Draft where
  switches : Switches := {}
  branches : Branches := {}
  outer : List (Switches × Branches) := []
  names : List (List Char) := []
  deriving Repr

namespace Draft

/-- Adds a pattern. -/
def add (d : Draft) (e : Expr) (depth : Nat) : Draft :=
  { d with branches := d.branches.add e depth }

/-- Opens a group. -/
def opened (d : Draft) (switches : Switches) : Draft :=
  { d with switches, branches := {}, outer := (d.switches, d.branches) :: d.outer }

/-- Closes the innermost group. -/
def close? (d : Draft) : Option Draft :=
  match d.outer with
  | [] => none
  | (switches, branches) :: outer =>
    let inner := d.branches.total
    some { d with switches, outer, branches := branches.add inner.value (inner.depth + 1) }

/-- The pattern at the end of its text. -/
def finish? (d : Draft) : Option Expr :=
  let whole := d.branches.total
  if d.outer.isEmpty && whole.depth ≤ depthLimit then some whole.value else none

end Draft

/-- The pattern of one character. -/
def charExpr? (s : Switches) (c : Char) : Option Expr :=
  if !s.anyCase then some (.char (.single c))
  else if s.wide then none
  else some (.char (if c.isAlpha then (CharSet.single c).foldCase else .single c))

/-- The pattern of something that is written with a backslash. -/
def Atom.expr? (s : Switches) : Atom → Option Expr
  | .char c => charExpr? s c
  | .check c => some (.check c)
  | .set members => some (.char members)

/-- The pattern of a dot. -/
def dotExpr? (s : Switches) : Option Expr :=
  if !s.wide then none
  else if s.dotTakesAll then some (.char .all)
  else if s.returns then
    some (.char ((CharSet.single '\n').union (.single '\r')).complement)
  else some (.char (CharSet.single '\n').complement)

/-- The pattern of `^`. -/
def caretExpr (s : Switches) : Expr :=
  .check (if !s.manyLines then .textStart else if s.returns then .anyLineStart else .lineStart)

/-- The pattern of `$`. -/
def dollarExpr (s : Switches) : Expr :=
  .check (if !s.manyLines then .textEnd else if s.returns then .anyLineEnd else .lineEnd)

/-- Whether a character may stand in the name of a group. -/
def namesGroup (first : Bool) (c : Char) : Bool :=
  if first then c == '_' || Text.isAlphabetic c
  else c == '_' || c == '.' || c == '[' || c == ']' || Text.isAlphanumeric c

/-- Whether some characters may be the name of a group. -/
def isGroupName : List Char → Bool
  | [] => false
  | c :: cs => namesGroup true c && cs.all (namesGroup false)

/-- Opens a group of a name. No two groups have one name. -/
def openNamed (d : Draft) (cs : List Char) : Option (Draft × List Char) :=
  let name := cs.takeWhile (· != '>')
  match cs.dropWhile (· != '>') with
  | [] => none
  | _ :: rest =>
    if isGroupName name && !d.names.contains name then
      some ({ d.opened d.switches with names := name :: d.names }, rest)
    else none

/-- Reads letters of switches up to a colon or the end of the group; those after a hyphen are turned
off. No letter comes twice, and neither does the hyphen. -/
def readSwitches (s : Switches) (seen : List Char) : List Char →
    Option (Switches × Bool × Bool × List Char)
  | [] => none
  | c :: cs =>
    if c = ':' ∨ c = ')' then
      if seen.head? = some '-' then none else some (s, seen.isEmpty, c = ')', cs)
    else if seen.contains c then none
    else if c = '-' then readSwitches s (c :: seen) cs
    else (s.set? (!seen.contains '-') c).bind fun s => readSwitches s (c :: seen) cs

/-- Reads what stands after an opening parenthesis, and opens the group or sets the switches. -/
def openGroup (d : Draft) (cs : List Char) : Option (Draft × List Char) :=
  match d.switches.skip cs with
  | '?' :: 'P' :: '<' :: rest | '?' :: '<' :: rest => openNamed d rest
  | '?' :: rest =>
    (readSwitches d.switches [] rest).bind fun (s, none_, alone, rest) =>
      if !alone then some (d.opened s, rest)
      else if none_ then none
      else
        some ({ d with switches := s,
                       branches.pieces := ⟨none, 0⟩ :: d.branches.pieces }, rest)
  | rest => some (d.opened d.switches, rest)

/-- Repeats what was read last; a question mark that follows at once changes what is preferred. -/
def repeatLast (d : Draft) (f : Bool → Expr → Expr) (cs : List Char) :
    Option (Draft × List Char) :=
  let (marked, rest) := match cs with
    | '?' :: rest => (true, rest)
    | rest => (false, rest)
  (d.branches.repeat? (f (marked == d.switches.reluctant))).map fun branches =>
    ({ d with branches }, rest)

/-- Reads the next part of a pattern. Repetitions with a count are not available. -/
def readPart (d : Draft) (c : Char) (cs : List Char) : Option (Draft × List Char) :=
  match c with
  | '(' => openGroup d cs
  | ')' => d.close?.map fun d => (d, cs)
  | '|' => some ({ d with branches := d.branches.bar }, cs)
  | '[' => (readBrackets d.switches cs).map fun (set, rest) =>
    (d.add (.char set.value) set.depth, rest)
  | '?' => repeatLast d .opt cs
  | '*' => repeatLast d .star cs
  | '+' => repeatLast d .plus cs
  | '\x7b' => none
  | '\\' => (readEscape d.switches cs).bind fun (a, rest) =>
    (a.expr? d.switches).map fun e => (d.add e 0, rest)
  | '.' => (dotExpr? d.switches).map fun e => (d.add e 0, cs)
  | '^' => some (d.add (caretExpr d.switches) 0, cs)
  | '$' => some (d.add (dollarExpr d.switches) 0, cs)
  | c => (charExpr? d.switches c).map fun e => (d.add e 0, cs)

/-- Reads a pattern to its end in `n` steps at most. -/
def readParts : (n : Nat) → Draft → List Char → Option Expr
  | 0, _, _ => none
  | n + 1, d, cs =>
    match d.switches.skip cs with
    | [] => d.finish?
    | c :: cs => (readPart d c cs).bind fun (d, rest) => readParts n d rest

/-- Reads a pattern. -/
def ofText? (s : String) : Option Expr :=
  readParts (s.toList.length + 1) {} s.toList

end FolderCopy.Pattern
