import FolderCopy.Listing
import FolderCopy.Progress
import FolderCopy.Retry

/-!
# Enumerating folders

The listing of a folder is read page by page from the first page on. A listing may go on for ever,
so every reading is given a number of pages after which it stops.
-/

namespace FolderCopy.Enumeration

/-- A dialogue with the remote store. -/
abbrev StoreDialogue :=
  Dialogue StoreCall StoreCall.Answer

/-- What is reported about a page. -/
def fetched (folder : String) (page : Page) : Log.Event :=
  Log.Component.enumerator.event .debug "Fetched listing page"
    [("folder_id", folder), ("entries", toString page.entries.length),
      ("more", toString page.next.isSome)]

/-- The page of a listing that a token names. -/
def fetch (p : Retry.Policy) (folder : String) (filter : Filter) (token : Option String) :
    StoreDialogue (Except CopyError Page) :=
  (p.run folder (.list (some folder) filter token)).andThen fun (page : Page) =>
    .note (fetched folder page) (.done (.ok page))

/-- How a reading of pages ended. -/
inductive Ending where
  | finished
  | failed (e : CopyError)
  /-- The allowed number of pages was read and the listing goes on. -/
  | stopped (next : Cursor)
  deriving DecidableEq, Repr

/-- At most `limit` pages of a listing from a place on, and how the reading ended. -/
def pages (p : Retry.Policy) (folder : String) (filter : Filter) :
    (limit : Nat) → Cursor → StoreDialogue (List Page × Ending)
  | _, .finished => .done ([], .finished)
  | 0, c => .done ([], .stopped c)
  | limit + 1, c =>
    (fetch p folder filter c.token).bind fun
      | .error e => .done ([], .failed e)
      | .ok page =>
        (pages p folder filter limit (.after page)).bind fun r => .done (page :: r.1, r.2)

/-- The entries of pages, in order. -/
def entriesOf (ps : List Page) : List Entry :=
  ps.flatMap (·.entries)

/-- The totals of entries. -/
def totalsOf (es : List Entry) : Totals :=
  es.foldl (fun t e => t.record e.size) .zero

/-- What a finished reading gives; none for one that was stopped. -/
def Ending.result? {α : Type} (a : α) : Ending → Option (Except CopyError α)
  | .finished => some (.ok a)
  | .failed e => some (.error e)
  | .stopped _ => none

/-- All entries of a folder that pass a filter; none if the listing has more than `limit` pages. -/
def listAll (p : Retry.Policy) (folder : String) (filter : Filter) (limit : Nat) :
    StoreDialogue (Option (Except CopyError (List Entry))) :=
  (pages p folder filter limit .start).bind fun r => .done (r.2.result? (entriesOf r.1))

/-- The totals of the files of a folder; none if the listing has more than `limit` pages. -/
def totals (p : Retry.Policy) (folder : String) (limit : Nat) :
    StoreDialogue (Option (Except CopyError Totals)) :=
  (pages p folder .files limit .start).bind fun r =>
    .done (r.2.result? (totalsOf (entriesOf r.1)))

/-- The first `want` entries of the files of a folder (all of them where no number is given), and
the error that ended the reading early. No page is read beyond those that hold the wanted entries.
-/
def entries (p : Retry.Policy) (folder : String) :
    (limit : Nat) → (want : Option Nat) → Cursor → StoreDialogue (List Entry × Option CopyError)
  | _, some 0, _ => .done ([], none)
  | _, _, .finished => .done ([], none)
  | 0, _, _ => .done ([], none)
  | limit + 1, want, c =>
    (fetch p folder .files c.token).bind fun
      | .error e => .done ([], some e)
      | .ok page =>
        let taken := match want with
          | some n => page.entries.take n
          | none => page.entries
        (entries p folder limit (want.map (· - taken.length)) (.after page)).bind fun r =>
          .done (taken ++ r.1, r.2)

end FolderCopy.Enumeration
