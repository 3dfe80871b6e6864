import FolderCopy.FolderPath
import FolderCopy.Listing
import FolderCopy.Retry

/-!
# Resolving paths

The folder that a path designates is found name by name from the top of the remote store, taking the
first folder of exactly the wanted name on the page that the store answers with. Where asked for,
missing folders are created on the way.
-/

namespace FolderCopy.Resolution

/-- An operation on the remote store. -/
abbrev Operation (α : Type) :=
  Dialogue StoreCall StoreCall.Answer (Except CopyError α)

/-- The id of the first entry of a name. -/
def idOf? (name : String) (entries : List Entry) : Option String :=
  (entries.find? (·.name == name)).map (·.id)

/-- The id of the first folder of a name under a parent. -/
def find (p : Retry.Policy) (name : String) (parent : Option String) :
    Operation (Option String) :=
  (p.run name (.list parent (.folderNamed name) none)).andThen fun (page : Page) =>
    .done (.ok (idOf? name page.entries))

/-- Creates a folder under a parent. -/
def create (p : Retry.Policy) (name : String) (parent : Option String) : Operation String :=
  (p.run name (.create name parent)).andThen fun (id : String) =>
    .note (Log.Component.resolver.event .info "Created remote folder" [("name", name), ("id", id)])
      (.done (.ok id))

/-- The error for a name that has no folder. -/
def missing (path name : String) (parent : Option String) : CopyError :=
  .notFound path <| match parent with
    | some id => s!"Directory \"{name}\" not found in parent {id}"
    | none => s!"Directory \"{name}\" not found"

/-- The folder of one name under a parent, found or made. -/
def enter (p : Retry.Policy) (path : String) (createMissing : Bool) (name : String)
    (parent : Option String) : Operation String :=
  ((find p name parent).mapError (.withPath path)).andThen fun
    | some id => .done (.ok id)
    | none =>
      if createMissing then (create p name parent).mapError (.withPath path)
      else .done (.error (missing path name parent))

/-- Follows names from a parent on; gives the last folder. -/
def descend (p : Retry.Policy) (path : String) (createMissing : Bool) (name : String) :
    (rest : List String) → (parent : Option String) → Operation String
  | [], parent => enter p path createMissing name parent
  | next :: rest, parent =>
    (enter p path createMissing name parent).andThen fun id =>
      descend p path createMissing next rest (some id)

/-- What is reported when a resolution begins. -/
def begins (path : String) (createMissing : Bool) : Log.Event :=
  let what := if createMissing then "or create " else ""
  Log.Component.resolver.event .debug s!"Get {what}folder by path: {path}" []

/-- The span of a resolution. -/
def spanOf (path : String) (createMissing : Bool) : Log.Span :=
  Log.Component.resolver.span "resolve"
    [("create_missing", .truth createMissing), ("path", .text path)]

/-- The id of the folder that a path designates. -/
def resolve (p : Retry.Policy) (path : FolderPath) (createMissing : Bool) : Operation String :=
  .within (spanOf path.display createMissing) <|
    .note (begins path.display createMissing) <|
      match path.segments, path.nonempty with
      | name :: rest, _ => descend p path.display createMissing name rest none

end FolderCopy.Resolution
