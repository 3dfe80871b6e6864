import FolderCopy.Pattern.CharSet

/-!
# Patterns

What a pattern of characters is, and which texts it matches. A pattern prefers some ways of matching
to others: the left of two alternatives to the right one, and going on to stopping, or the other way
round for a reluctant repetition. As soon as the most preferred way is done the ways after it are
given up, so `a|ab` matches the text `a` and not the text `ab`. A match may begin anywhere, and the
first place where the pattern matches at all is preferred to those after it, so `b` matches the text
`ab` and not the text `bab`.
-/

namespace FolderCopy.Pattern

/-- A condition on the place between two characters. -/
inductive Check where
  | textStart
  | textEnd
  | lineStart
  | lineEnd
  /-- Lines may also end in a carriage return, or in one and a line feed. -/
  | anyLineStart
  | anyLineEnd
  | wordBoundary
  | noWordBoundary
  | wordStart
  | wordEnd
  deriving DecidableEq, Repr

/-- Whether a character belongs to a word of ASCII. -/
def inWord (c : Option Char) : Bool :=
  c.any CharSet.wordChars.contains

/-- Whether a condition holds at the place between two characters, none standing for an end of the
text. -/
def Check.holds (before after : Option Char) : Check → Bool
  | .textStart => before.isNone
  | .textEnd => after.isNone
  | .lineStart => before.isNone || before == some '\n'
  | .lineEnd => after.isNone || after == some '\n'
  | .anyLineStart =>
    before.isNone || before == some '\n' || (before == some '\r' && after != some '\n')
  | .anyLineEnd =>
    after.isNone || after == some '\r' || (after == some '\n' && before != some '\r')
  | .wordBoundary => inWord before != inWord after
  | .noWordBoundary => inWord before == inWord after
  | .wordStart => !inWord before && inWord after
  | .wordEnd => inWord before && !inWord after

/-- A pattern. -/
inductive Expr where
  | empty
  | char (s : CharSet)
  | check (c : Check)
  | seq (a b : Expr)
  | alt (a b : Expr)
  /-- Any number of times: as often as possible, or as seldom as possible. -/
  | star (greedy : Bool) (e : Expr)
  deriving DecidableEq, Repr

namespace Expr

/-- A pattern or nothing. -/
def opt (greedy : Bool) (e : Expr) : Expr :=
  if greedy then .alt e .empty else .alt .empty e

/-- One or more times. -/
def plus (greedy : Bool) (e : Expr) : Expr :=
  .seq e (.star greedy e)

/-- Patterns one after the other. -/
def sequence : List Expr → Expr
  | [] => .empty
  | [e] => e
  | e :: es => .seq e (sequence es)

/-- One pattern or the next. -/
def choice : List Expr → Expr
  | [] => .empty
  | [e] => e
  | e :: es => .alt e (choice es)

end Expr

/-- What a way of matching does next: it is done, or it takes a character and goes on with some
patterns. -/
inductive Way where
  | done
  | take (s : CharSet) (rest : List Expr)
  deriving DecidableEq, Repr

/-- Puts ways behind others, those that are there already left out. -/
def orElse (ws vs : List Way) : List Way :=
  ws ++ vs.filter fun w => !ws.contains w

/-- The ways of matching a pattern at a place, the preferred ones first, where the ways of matching
what comes after it are known. A repetition goes round again only after it has taken a character.
-/
def ways (before after : Option Char) : (e : Expr) → (onward : List Way) → (rest : List Expr) →
    List Way
  | .empty, onward, _ => onward
  | .char s, _, rest => [.take s rest]
  | .check c, onward, _ => if c.holds before after then onward else []
  | .seq a b, onward, rest => ways before after a (ways before after b onward rest) (b :: rest)
  | .alt a b, onward, rest =>
    orElse (ways before after a onward rest) (ways before after b onward rest)
  | .star greedy e, onward, rest =>
    let again := ways before after e onward (.star greedy e :: rest)
    if greedy then orElse again onward else orElse onward again

/-- The ways of matching patterns one after the other. -/
def waysOfAll (before after : Option Char) : List Expr → List Way
  | [] => [.done]
  | e :: rest => ways before after e (waysOfAll before after rest) rest

/-- The ways of going on where any of some sequences of patterns may go on. -/
def waysOfAny (before after : Option Char) (states : List (List Expr)) : List Way :=
  states.foldl (fun ws es => orElse ws (waysOfAll before after es)) []

/-- Takes a character. A way that is done ends the list, and those after it are given up. -/
def takeChar (c : Char) : List Way → List (List Expr)
  | [] => []
  | .done :: _ => []
  | .take s rest :: ws => if s.contains c then rest :: takeChar c ws else takeChar c ws

/-- A search for the first place of a text where a pattern matches: the sequences of patterns that
have begun to match, those that began first before the others, and whether a place to begin is still
looked for. -/
structure Search where
  pattern : Expr
  begun : List (List Expr)
  looking : Bool
  deriving DecidableEq, Repr

namespace Search

/-- The search at the start of a text. -/
def ofPattern (e : Expr) : Search := ⟨e, [], true⟩

/-- The ways of going on at a place. To begin there is the least preferred. -/
def ways (q : Search) (before after : Option Char) : List Way :=
  let onward := waysOfAny before after q.begun
  if q.looking then orElse onward (waysOfAll before after [q.pattern]) else onward

/-- Whether a pattern matches nothing at the places between the bytes of a character. -/
def foundInside (e : Expr) (c : Char) : Bool :=
  1 < c.utf8Size && (waysOfAll (some c) (some c) [e]).contains .done

/-- Goes on over a character. No place to begin is looked for once a match has been found. -/
def next (q : Search) (before : Option Char) (c : Char) : Search :=
  let onward := q.ways before (some c)
  { q with
    begun := takeChar c onward
    looking := q.looking && !onward.contains .done && !foundInside q.pattern c }

/-- Whether the match that is preferred ends where the text ends, given the character before. -/
def endsWith (q : Search) (before : Option Char) : List Char → Bool
  | [] => (q.ways before none).contains .done
  | c :: cs => (q.next before c).endsWith (some c) cs

/-- A search that has nothing to go on with finds nothing. -/
theorem endsWith_of_lost (e : Expr) (before : Option Char) (cs : List Char) :
    endsWith ⟨e, [], false⟩ before cs = false := by
  induction cs generalizing before with
  | nil => rfl
  | cons c cs ih => exact ih (some c)

end Search

/-- Whether the first match of a pattern in a text, by the way that is preferred, reaches the end of
the text. It may begin anywhere. -/
def Expr.matchesText (e : Expr) (s : String) : Bool :=
  (Search.ofPattern e).endsWith none s.toList

/-- The pattern of nothing matches at the start of a text, so it reaches the end of the empty text
only. -/
theorem matchesText_empty (s : String) : Expr.empty.matchesText s = s.toList.isEmpty := by
  cases h : s.toList with
  | nil => simp only [Expr.matchesText, h]; decide
  | cons c cs =>
    simp only [Expr.matchesText, h, List.isEmpty_cons]
    exact Search.endsWith_of_lost .empty (some c) cs

end FolderCopy.Pattern
