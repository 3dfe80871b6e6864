/-!
# Listings

The remote store lists the children of a folder in pages. A page names the token that the next one
is asked for with; a page without such a token is the last.
-/

namespace FolderCopy

/-- What a listing shows. -/
inductive EntryKind where
  | file
  | folder
  deriving DecidableEq, Repr

/-- Which children of a folder are asked for. -/
structure Filter where
  kind : EntryKind
  name : Option String
  deriving DecidableEq, Repr

namespace Filter

/-- All files. -/
def files : Filter :=
  ⟨.file, none⟩

/-- The folders of a name. -/
def folderNamed (name : String) : Filter :=
  ⟨.folder, some name⟩

end Filter

/-- A child of a folder. -/
structure Entry where
  id : String
  name : String
  size : Option Nat
  deriving DecidableEq, Repr

/-- A page of a listing, with the token of the next page. -/
structure Page where
  entries : List Entry
  next : Option String
  deriving DecidableEq, Repr

/-- Where the reading of a listing stands. -/
inductive Cursor where
  | start
  | page (token : String)
  | finished
  deriving DecidableEq, Repr

namespace Cursor

/-- The place after a page. -/
def after (p : Page) : Cursor :=
  match p.next with
  | some token => .page token
  | none => .finished

/-- The token that the next page is asked for with; none for the first page and after the last. -/
def token : Cursor → Option String
  | .page t => some t
  | .start | .finished => none

/-- Whether the last page has been read. -/
def isFinished : Cursor → Bool
  | .finished => true
  | .start | .page _ => false

end Cursor

/-- A call to the remote store. -/
inductive StoreCall where
  | list (parent : Option String) (filter : Filter) (token : Option String)
  | create (name : String) (parent : Option String)
  | delete (id : String)
  | download (id : String)
  deriving DecidableEq, Repr

/-- What a successful call to the remote store gives: a page, the id of a new folder, or nothing
that can be looked at. -/
abbrev StoreCall.Answer : StoreCall → Type
  | .list .. => Page
  | .create .. => String
  | .delete _ | .download _ => Unit

end FolderCopy
