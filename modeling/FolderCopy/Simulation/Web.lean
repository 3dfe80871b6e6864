import FolderCopy.Drive.Connector
import FolderCopy.Simulation.Reader

/-!
# A scripted web

Access tokens, responses and streams that are handed out in turn.
-/

namespace FolderCopy.Simulation

/-- The answer to a call for a stream of content, with the wait before it. -/
structure Stream where
  delay : Nat
  content : Except CallError Reader
  deriving Repr

/-- What the web answers with, each list in turn. -/
structure Web where
  /-- Access tokens; the last one stays. -/
  tokens : List (Except CallError String) := [.ok "tok"]
  responses : List (Except CallError Http.Response) := []
  streams : List Stream := []
  /-- The time limit of requests, in milliseconds. -/
  timeout : Nat := 30000
  /-- The stream that answered last. -/
  answered : Option Stream := none

namespace Web

/-- The error where nothing is left to answer with. -/
def silent : CallError :=
  .failed "no response scripted"

/-- Answers a call. -/
def answer : (c : Drive.WebCall) → Web → Except CallError c.Answer × Web
  | .token, w =>
    match w.tokens with
    | [] => (.ok "tok", w)
    | [t] => (t, w)
    | t :: rest => (t, { w with tokens := rest })
  | .send _, w =>
    match w.responses with
    | [] => (.error silent, w)
    | r :: rest => (r, { w with responses := rest })
  | .stream _, w =>
    match w.streams with
    | [] => (.error silent, w)
    | s :: rest => (s.content.map fun _ => (), { w with streams := rest, answered := some s })

end Web

end FolderCopy.Simulation
