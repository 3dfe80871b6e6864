import FolderCopy.Json.Value
import FolderCopy.Log.Event
import FolderCopy.Log.Redaction

/-!
# Forwarding of log events

The values of an event that the filter lets through are collected as texts and redacted, and the
application receives them as an entry, unless it wants more important events only. It does not
matter which filter that is: a filter may look at all of an event but its values.
-/

namespace FolderCopy.Log

/-- What has been collected of an event: its message, and all other values as texts, names
ascending. -/
structure Collector where
  message : Option String := none
  values : List (String × String) := []

namespace Collector

/-- Takes a text. The message is kept apart, and of several texts with one name the last one stays.
-/
def push (c : Collector) (name text : String) : Collector :=
  if name = "message" then { c with message := some text }
  else { c with values := Json.put name text c.values }

/-- Takes a recorded value as a text. -/
def record (c : Collector) (r : String × Recorded) : Collector :=
  c.push r.1 r.2.toText

/-- What is collected of values that are recorded in turn. -/
def collect (rs : List (String × Recorded)) : Collector :=
  rs.foldl record {}

end Collector

/-- An entry of the log, as an application receives it. -/
structure Entry where
  level : Level
  target : String
  message : String
  /-- The values by name, names ascending. -/
  fields : List (String × String)
  /-- The innermost span around the event. -/
  span : Option String
  deriving DecidableEq, Repr

namespace Entry

/-- An entry without values. -/
def make (level : Level) (target message : String) : Entry :=
  { level, target, message, fields := [], span := none }

/-- Adds a value; a value of the same name is replaced. -/
def withField (e : Entry) (name value : String) : Entry :=
  { e with fields := Json.put name value e.fields }

/-- The entry for an event. -/
def ofEvent (redacting : Bool) (span : Option String) (e : Event) : Entry :=
  let collected := Collector.collect e.records
  let entry := make e.level e.target (collected.message.getD e.name)
  let add (entry : Entry) (f : String × String) := entry.withField f.1 (told redacting f.1 f.2)
  { collected.values.foldl add entry with span }

end Entry

/-- A filter for events: which of them it lets through, and which span is the innermost one around
an event, of those that it lets through. It may look at the names of the values that an event
carries, but not at the values. -/
structure Filter where
  allows : Report → Bool
  innermost : List Span → Option String
  allows_of_names (r : Report) (records : List (String × Recorded)) :
    records.map Prod.fst = r.event.records.map Prod.fst →
      allows { r with event := { r.event with records } } = allows r

/-- The way of events from the library to the application. -/
structure Forwarding where
  filter : Filter
  redacting : Bool
  /-- The least important level that the application wants; none if it does not take part. -/
  sink : Option Level

namespace Forwarding

/-- The entry that the application receives for an event inside spans. -/
def entry? (f : Forwarding) (r : Report) : Option Entry :=
  match f.sink with
  | none => none
  | some least =>
    if f.filter.allows r && least.rank ≤ r.event.level.rank then
      some (.ofEvent f.redacting (f.filter.innermost r.spans) r.event)
    else none

/-- The entries that the application receives for events in turn. -/
def entries (f : Forwarding) (rs : List Report) : List Entry :=
  rs.filterMap f.entry?

end Forwarding

end FolderCopy.Log
