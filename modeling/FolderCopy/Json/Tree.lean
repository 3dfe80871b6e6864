import FolderCopy.Json.Token

/-!
# JSON trees

The tree that a token sequence spells. It keeps what a reader may or may not care about: the order
of members, repeated keys, and texts in pieces. The open containers are held in a list, so a tree
of any depth is read.
-/

namespace FolderCopy.Json

/-- A JSON value as it is written. -/
inductive Tree where
  | null
  | bool (b : Bool)
  | number (n : Numeral)
  | text (ps : List Piece)
  | array (items : List Tree)
  | object (members : List (List Piece × Tree))

/-- A container that is still open, with what it holds so far, the last one first. -/
inductive Frame where
  | array (items : List Tree)
  | object (members : List (List Piece × Tree)) (key : List Piece)

/-- What a reader of tokens waits for, with the open containers, the innermost one first. -/
inductive Waiting where
  /-- A value; directly after an opening bracket also the closing one. -/
  | value (first : Bool) (open_ : List Frame)
  /-- A key; directly after an opening brace also the closing one. -/
  | key (first : Bool) (members : List (List Piece × Tree)) (open_ : List Frame)
  /-- The colon after a key. -/
  | colon (members : List (List Piece × Tree)) (key : List Piece) (open_ : List Frame)
  /-- A comma or the end of an array. -/
  | item (items : List Tree) (open_ : List Frame)
  /-- A comma or the end of an object. -/
  | member (members : List (List Piece × Tree)) (open_ : List Frame)
  /-- Nothing more. -/
  | nothing (t : Tree)

/-- Hands a finished value to the innermost open container. -/
def Waiting.receive (t : Tree) : List Frame → Waiting
  | [] => .nothing t
  | .array items :: open_ => .item (t :: items) open_
  | .object members k :: open_ => .member ((k, t) :: members) open_

/-- Takes a token where a value may start. -/
def Waiting.start (open_ : List Frame) : Token → Option Waiting
  | .null => some (.receive .null open_)
  | .bool b => some (.receive (.bool b) open_)
  | .number n => some (.receive (.number n) open_)
  | .text ps => some (.receive (.text ps) open_)
  | .openArray => some (.value true (.array [] :: open_))
  | .openObject => some (.key true [] open_)
  | _ => none

/-- Takes one token; none if it cannot stand here. -/
def Waiting.step : Waiting → Token → Option Waiting
  | .value true (.array items :: open_), .closeArray =>
    some (.receive (.array items.reverse) open_)
  | .value _ open_, t => Waiting.start open_ t
  | .key true members open_, .closeObject => some (.receive (.object members.reverse) open_)
  | .key _ members open_, .text ps => some (.colon members ps open_)
  | .colon members k open_, .colon => some (.value false (.object members k :: open_))
  | .item items open_, .comma => some (.value false (.array items :: open_))
  | .item items open_, .closeArray => some (.receive (.array items.reverse) open_)
  | .member members open_, .comma => some (.key false members open_)
  | .member members open_, .closeObject => some (.receive (.object members.reverse) open_)
  | _, _ => none

/-- Takes tokens one after the other. -/
def Waiting.run (w : Waiting) (ts : List Token) : Option Waiting :=
  ts.foldlM Waiting.step w

/-- The tree that a token sequence spells: one value and nothing else. -/
def Tree.ofTokens? (ts : List Token) : Option Tree :=
  match (Waiting.value false []).run ts with
  | some (.nothing t) => some t
  | _ => none

/-- The tree that bytes spell. -/
def Tree.ofBytes? (bs : Bytes) : Option Tree :=
  (tokens? bs).bind Tree.ofTokens?

end FolderCopy.Json
