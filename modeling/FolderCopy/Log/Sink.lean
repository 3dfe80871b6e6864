import FolderCopy.Log.Filter
import FolderCopy.Log.Forwarding
import FolderCopy.Settings

/-!
# The log sink

Logging is set up once, with a filter, with redaction or without, and with the level from which on
the application's sink receives events.
-/

namespace FolderCopy.Log

/-- Rules ask under which names an event carries values, and nothing else asks for its values. -/
theorem Watch.allows_eq_of_names (w : Watch) (r : Report) (records : List (String × Recorded))
    (h : records.map Prod.fst = r.event.records.map Prod.fst) :
    w.allows { r with event := { r.event with records } } = w.allows r := by
  simp only [Watch.allows, EventFilter.allowsEvent, TargetRule.coversEvent, Event.fieldNames, h]

/-- A filter in use, as far as events go. -/
def Watch.toFilter (w : Watch) : Filter where
  allows := w.allows
  innermost spans := (w.scope spans).innermost
  allows_of_names := w.allows_eq_of_names

/-- How logging is set up. -/
structure Setup where
  level : Level := .info
  redacting : Bool := true
  filter : Option String := none
  /-- The least important level that the sink wants; none if there is no sink. -/
  sink : Option Level := none
  deriving Repr

/-- Logging that has been set up. -/
structure Logging where
  watch : Watch
  redacting : Bool
  sink : Option Level
  deriving Repr

namespace Logging

/-- The filter that a setup asks for. -/
def filterOf (s : Setup) : Except SettingsError EventFilter :=
  match s.filter with
  | none => .ok (.standard s.level)
  | some text =>
    match directives? text with
    | some ds => .ok (.ofDirectives ds)
    | none => .error (.badLogFilter "invalid filter directive")

/-- Sets logging up, once only. A later attempt fails, but its filter leaves traces in the one that
is in use. -/
def start (current : Option Logging) (s : Setup) : Except SettingsError Unit × Option Logging :=
  match filterOf s, current with
  | .error e, _ => (.error e, current)
  | .ok f, none =>
    (.ok (), some { watch := .ofFilter f, redacting := s.redacting, sink := s.sink })
  | .ok f, some l => (.error .loggingInUse, some { l with watch := l.watch.compete f })

/-- The way of events to the sink. -/
def forwarding (l : Logging) : Forwarding :=
  { filter := l.watch.toFilter, redacting := l.redacting, sink := l.sink }

/-- The entries that the sink receives for events in turn. -/
def entries (l : Logging) (rs : List Report) : List Entry :=
  l.forwarding.entries rs

/-- Takes note of spans that have been opened, with or without events inside. -/
def see (l : Logging) (spans : List Span) : Logging :=
  { l with watch := spans.foldl Watch.see l.watch }

end Logging

end FolderCopy.Log
