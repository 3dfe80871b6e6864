import FolderCopy.Log.Directive

/-!
# Filters

What a list of directives lets through. Directives on targets are rules for events and spans, of
which the most specific one that applies decides. Directives on spans say what is let through inside
the spans that they speak of, in addition. No level is looked at that no directive speaks of: the
widest threshold of a filter is its ceiling.
-/

namespace FolderCopy.Log

/-- A rule for a target, or for the events of a target that carry a field. -/
structure TargetRule where
  target : Option String
  field : Option String
  threshold : Threshold
  deriving DecidableEq, Repr

namespace TargetRule

/-- The rule of a directive on targets. -/
def ofDirective (d : Directive) : TargetRule :=
  { target := d.target, field := d.field.map (·.name), threshold := d.threshold }

/-- Whether two rules are for the same. -/
def sameMatter (a b : TargetRule) : Bool :=
  a.target == b.target && a.field == b.field

/-- How specific the target of a rule is: its length in bytes, having none being least. -/
def weight (r : TargetRule) : Nat :=
  match r.target with
  | none => 0
  | some t => t.utf8ByteSize + 1

/-- Whether a rule goes before another: by the longer target, then by having a field, then by the
later name of the field. -/
def precedes (a b : TargetRule) : Bool :=
  b.weight < a.weight ||
    (a.weight == b.weight &&
      match b.field, a.field with
      | none, some _ => true
      | some g, some f => g < f
      | _, none => false)

/-- Whether a rule applies to spans of a target; fields are not looked at. -/
def coversSpan (r : TargetRule) (s : Span) : Bool :=
  Directive.coversTarget r.target s.target

/-- Whether a rule applies to an event. -/
def coversEvent (r : TargetRule) (e : Event) : Bool :=
  Directive.coversTarget r.target e.target && r.field.all e.fieldNames.contains

/-- The rule that goes before all others. -/
def foremost? (rs : List TargetRule) : Option TargetRule :=
  rs.foldl (fun best r =>
    match best with
    | none => some r
    | some b => if r.precedes b then some r else some b) none

/-- Whether the rule that goes before all others lets a level through; without a rule nothing is. -/
def letThrough (rs : List TargetRule) (l : Level) : Bool :=
  (foremost? rs).any (·.threshold.allows l)

end TargetRule

/-- A filter for log events. -/
structure EventFilter where
  rules : List TargetRule := []
  spanDirectives : List Directive := []
  /-- The widest threshold that any rule has had, also one that a later rule replaced. -/
  ruleCeiling : Threshold := none
  /-- The widest threshold that any directive on spans has had. -/
  spanCeiling : Threshold := none
  deriving Repr

namespace EventFilter

/-- Adds a rule; one for the same is replaced. -/
def addRule (f : EventFilter) (r : TargetRule) : EventFilter :=
  { f with
    rules := f.rules.filter (!·.sameMatter r) ++ [r]
    ruleCeiling := f.ruleCeiling.widest r.threshold }

/-- Adds a directive on spans; one for the same spans is replaced. -/
def addSpanDirective (f : EventFilter) (d : Directive) : EventFilter :=
  { f with
    spanDirectives := f.spanDirectives.filter (!·.sameSpans d) ++ [d]
    spanCeiling := f.spanCeiling.widest d.threshold }

/-- The filter of some directives. Those that are on spans as well as on targets come last among the
rules. -/
def ofDirectives (ds : List Directive) : EventFilter :=
  let onSpans := ds.filter (·.isOnSpans)
  let onTargets := ds.filter (!·.isOnSpans) ++ onSpans.filter (·.isOnTargets)
  onSpans.foldl addSpanDirective ((onTargets.map .ofDirective).foldl addRule {})

/-- The parts of an application that are filtered by default, each at the configured level. -/
def ownTargets : List String :=
  ["drive_mirror_workspace", "core_runtime", "core_sync", "core_service",
    "provider_google_drive", "bridge_desktop"]

/-- The web libraries, whose warnings and errors are let through by default. -/
def webTargets : List String :=
  ["h2", "hyper", "reqwest"]

/-- The filter used where none is given. -/
def standard (level : Level) : EventFilter :=
  ofDirectives <|
    ownTargets.map (fun t => { threshold := some level, target := some t }) ++
      webTargets.map fun t => { threshold := some .warn, target := some t }

/-- The widest threshold of a filter. One that tests values looks at every level. -/
def ceiling (f : EventFilter) : Threshold :=
  if f.spanDirectives.any (·.testsValue) then some .trace else f.ruleCeiling.widest f.spanCeiling

/-- Whether the rules let an event through. -/
def allowsEvent (f : EventFilter) (e : Event) : Bool :=
  TargetRule.letThrough (f.rules.filter (·.coversEvent e)) e.level

/-- Whether the rules let a span through. -/
def allowsSpan (f : EventFilter) (s : Span) : Bool :=
  TargetRule.letThrough (f.rules.filter (·.coversSpan s)) s.level

/-- Whether any directive speaks of a span. -/
def speaksOf (f : EventFilter) (s : Span) : Bool :=
  f.spanDirectives.any (·.coversSpan s)

/-- The threshold inside a span that directives speak of: the widest one of those whose tests the
span passes. -/
def threshold (f : EventFilter) (s : Span) : Threshold :=
  (f.spanDirectives.filter fun d => d.coversSpan s && d.acceptsSpan s).foldl
    (fun t d => t.widest d.threshold) none

end EventFilter

/-- What is known inside some spans: the thresholds that are set there, and the innermost span that
is let through. -/
structure Scope where
  thresholds : List Threshold := []
  innermost : Option String := none
  deriving Repr

/-- Whether the spans around let a level through. -/
def Scope.allows (sc : Scope) (l : Level) : Bool :=
  sc.thresholds.any (·.allows l)

/-- A filter in use. Filters that are tried later do not take its place, but the ceiling is then the
wider one of the two, and a span that was seen before and that the later filter does not always let
through is looked at more closely from then on. -/
structure Watch where
  filter : EventFilter
  ceiling : Threshold
  /-- The spans that have been seen, one from each place of the program. -/
  seen : List Span := []
  /-- The spans that are looked at more closely. -/
  doubted : List Span := []
  deriving Repr

namespace Watch

/-- A filter that comes into use. -/
def ofFilter (f : EventFilter) : Watch :=
  { filter := f, ceiling := f.ceiling }

/-- Whether a span is looked at more closely. -/
def doubts (w : Watch) (s : Span) : Bool :=
  w.doubted.any (·.sharesSite s)

/-- Another filter is tried. -/
def compete (w : Watch) (f : EventFilter) : Watch :=
  { w with
    ceiling := w.filter.ceiling.widest f.ceiling
    doubted := w.seen.filter fun s => !f.speaksOf s && !f.allowsSpan s }

/-- Takes note of a span that is opened, if its level is looked at. -/
def see (w : Watch) (s : Span) : Watch :=
  if w.ceiling.allows s.level && !w.seen.any (·.sharesSite s) then
    { w with seen := s :: w.seen }
  else w

/-- Whether a span that directives speak of is let through: always, or on a closer look only where
the directives reach its level or the rules allow it. -/
def admits (w : Watch) (s : Span) : Bool :=
  !w.doubts s || w.filter.spanCeiling.allows s.level || w.filter.allowsSpan s

/-- Enters a span. A span that is not let through leaves no trace. -/
def enter (w : Watch) (sc : Scope) (s : Span) : Scope :=
  if !w.ceiling.allows s.level then sc
  else if w.filter.speaksOf s then
    if w.admits s then
      { thresholds := w.filter.threshold s :: sc.thresholds, innermost := some s.name }
    else sc
  else if sc.allows s.level || w.filter.allowsSpan s then { sc with innermost := some s.name }
  else sc

/-- What is known inside spans, the outermost one given first. -/
def scope (w : Watch) (spans : List Span) : Scope :=
  spans.foldl w.enter {}

/-- Whether an event inside spans is let through. -/
def allows (w : Watch) (r : Report) : Bool :=
  w.ceiling.allows r.event.level &&
    ((w.scope r.spans).allows r.event.level || w.filter.allowsEvent r.event)

end Watch

end FolderCopy.Log
