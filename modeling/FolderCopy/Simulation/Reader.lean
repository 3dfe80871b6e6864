import FolderCopy.Text.Utf8

/-!
# Scripted content

Content that is handed out in pieces of a limited size, each after a wait, and that may break off.
-/

namespace FolderCopy.Simulation

/-- The bytes `0, 1, …, 250, 0, 1, …` up to a length. -/
def countingBytes (n : Nat) : Bytes :=
  (List.range n).map fun i => UInt8.ofNat (i % 251)

/-- Content that is being read. -/
structure Reader where
  rest : Bytes
  given : Nat := 0
  /-- The largest piece; any size if there is none. -/
  chunk : Option Nat := none
  /-- The wait before each piece, in milliseconds. -/
  delay : Nat := 0
  /-- After how many bytes the content breaks off, and with what message. -/
  breaksOff : Option (Nat × String) := none
  deriving Repr

namespace Reader

/-- The smaller of a size and a limit, where there is one. -/
def atMost (n : Nat) : Option Nat → Nat
  | none => n
  | some m => min n m

/-- Hands out at most `n` bytes. -/
def give (r : Reader) (n : Nat) : Except String Bytes × Reader :=
  let piece := r.rest.take n
  (.ok piece, { r with rest := r.rest.drop n, given := r.given + piece.length })

/-- The next piece, of at most `room` bytes; an empty one is the end. -/
def read (r : Reader) (room : Nat) : Except String Bytes × Reader :=
  match r.breaksOff with
  | some (after, m) =>
    if after ≤ r.given then (.error m, r) else r.give (min (atMost room r.chunk) (after - r.given))
  | none => r.give (atMost room r.chunk)

/-- Reads to the end, at most `n` pieces after those already read (the last one first): the bytes
that came, and the message if the content broke off. -/
def drainAfter (done : List Bytes) (room : Nat) : (n : Nat) → Reader → Bytes × Option String
  | 0, _ => (done.reverse.flatten, none)
  | n + 1, r =>
    match r.read room with
    | (.error m, _) => (done.reverse.flatten, some m)
    | (.ok [], _) => (done.reverse.flatten, none)
    | (.ok piece, r) => drainAfter (piece :: done) room n r

/-- Reads to the end, in pieces of at most `room` bytes. No reading takes more pieces than there are
bytes, and one more that is empty. -/
def drain (r : Reader) (room : Nat) : Bytes × Option String :=
  drainAfter [] room (r.rest.length + 1) r

end Reader

end FolderCopy.Simulation
