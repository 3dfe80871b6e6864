import FolderCopy.Json.Reading
import FolderCopy.Text.Quoted

/-!
# Log events

What the library reports while it works. An event has a level, the part of the library it comes
from, and named values, of which one may be its message; it arises inside spans, the stretches of
work around it.
-/

namespace FolderCopy.Log

/-- How important an event is. -/
inductive Level where
  | trace
  | debug
  | info
  | warn
  | error
  deriving DecidableEq, Repr

namespace Level

/-- The place of a level in the order of importance. -/
def rank : Level → Nat
  | .trace => 0
  | .debug => 1
  | .info => 2
  | .warn => 3
  | .error => 4

/-- The name of a level in lower case. -/
def name : Level → String
  | .trace => "trace"
  | .debug => "debug"
  | .info => "info"
  | .warn => "warn"
  | .error => "error"

/-- The name of a level as a record shows it. -/
def title : Level → String
  | .trace => "Trace"
  | .debug => "Debug"
  | .info => "Info"
  | .warn => "Warn"
  | .error => "Error"

/-- All levels. -/
def all : List Level :=
  [.trace, .debug, .info, .warn, .error]

/-- The level of a title. -/
def ofTitle? (s : String) : Option Level :=
  all.find? (·.title == s)

/-- Reads a level. -/
def ofTree? (t : Json.Tree) : Option Level :=
  t.name?.bind ofTitle?

/-- A level as JSON. -/
def toJson (l : Level) : Json :=
  .text l.title

/-- Every level is found by its title. -/
theorem ofTitle?_title (l : Level) : ofTitle? l.title = some l := by
  cases l <;> decide

end Level

/-- A part of the library that reports events. -/
inductive Component where
  | retry
  | resolver
  | enumerator
  | coordinator
  | service
  | connector
  | limiter
  | fileSystem
  deriving DecidableEq, Repr

/-- The name that events of a part are filtered by. -/
def Component.target : Component → String
  | .retry => "core_sync::retry"
  | .resolver => "core_sync::resolver"
  | .enumerator => "core_sync::enumerator"
  | .coordinator => "core_sync::coordinator"
  | .service => "core_service"
  | .connector => "provider_google_drive::connector"
  | .limiter => "bridge_desktop::limiter"
  | .fileSystem => "bridge_desktop::filesystem"

/-- A value that a span carries. -/
inductive SpanValue where
  | count (n : Nat)
  | truth (b : Bool)
  | text (s : String)
  deriving DecidableEq, Repr

/-- A text that may be missing, as a value. -/
def SpanValue.ofText? (s : Option String) : SpanValue :=
  .text <| match s with
    | some s => "Some(" ++ Text.quoted s ++ ")"
    | none => "None"

/-- A stretch of work that events arise in, with the values it carries by name. -/
structure Span where
  name : String
  level : Level
  target : String
  fields : List (String × SpanValue) := []
  deriving DecidableEq, Repr

/-- The value that a span carries under a name. -/
def Span.value? (s : Span) (name : String) : Option SpanValue :=
  (s.fields.find? (·.1 == name)).map (·.2)

/-- Whether two spans come from one place of the program. -/
def Span.sharesSite (s t : Span) : Bool :=
  s.name == t.name && s.target == t.target

/-- The span of one operation of a part of the library. -/
def Component.span (c : Component) (name : String) (fields : List (String × SpanValue)) : Span :=
  { name, level := .info, target := c.target, fields }

/-- A value as it is recorded with an event. -/
inductive Recorded where
  | text (s : String)
  | number (n : Int)
  | truth (b : Bool)
  /-- An error, by its message. -/
  | error (message : String)
  /-- Any other value, as it is shown to a developer. -/
  | shown (s : String)
  deriving DecidableEq, Repr

/-- The text of a recorded value. -/
def Recorded.toText : Recorded → String
  | .text s | .error s | .shown s => s
  | .number n => toString n
  | .truth b => toString b

/-- An event. One without a message is known by its name. -/
structure Event where
  level : Level
  target : String
  name : String := "event"
  /-- The values by name in the order in which they are recorded, the message being one of them. -/
  records : List (String × Recorded) := []
  deriving DecidableEq, Repr

/-- The names under which an event carries values. -/
def Event.fieldNames (e : Event) : List String :=
  e.records.map (·.1)

/-- An event of a part of the library, with values that are shown as texts. -/
def Component.event (c : Component) (level : Level) (message : String)
    (fields : List (String × String)) : Event :=
  { level, target := c.target,
    records := (("message", message) :: fields).map fun f => (f.1, .shown f.2) }

/-- An event with the spans that it arose in, the outermost one first. -/
structure Report where
  spans : List Span
  event : Event
  deriving DecidableEq, Repr

end FolderCopy.Log
