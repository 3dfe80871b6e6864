import FolderCopy.Json.Reading
import FolderCopy.Listing
import FolderCopy.Text.Numeral

/-!
# Records of the drive

The answers of the drive's service as records, read from JSON, and the pages and entries that they
stand for.
-/

namespace FolderCopy.Drive

/-- A file as the drive describes it; sizes come as text. -/
structure FileRecord where
  id : String
  name : String
  size : Option String
  deriving DecidableEq, Repr

namespace FileRecord

/-- Reads a file. Its id must be there; a missing name is empty. -/
def ofTree? (t : Json.Tree) : Option FileRecord := do
  match ← t.slots? ["id", "name", "size"] with
  | [id, name, size] =>
    let id ← id.required Json.Tree.text?
    let name ← name.withDefault Json.Tree.text? ""
    let size ← size.optionalKey Json.Tree.text?
    return { id, name, size }
  | _ => none

/-- The record as JSON, without the size where there is none. -/
def toJson (f : FileRecord) : Json :=
  .object ([("id", .text f.id), ("name", .text f.name)] ++
    (f.size.map fun s => ("size", Json.text s)).toList)

/-- The entry that a file stands for. A size that is not a count is no size. -/
def toEntry (f : FileRecord) : Entry :=
  { id := f.id, name := f.name, size := f.size.bind Text.count? }

end FileRecord

/-- A page of a listing as the drive describes it. -/
structure FileList where
  files : List FileRecord
  next : Option String
  deriving DecidableEq, Repr

namespace FileList

/-- Reads a page; missing files are none. -/
def ofTree? (t : Json.Tree) : Option FileList := do
  match ← t.slots? ["files", "nextPageToken"] with
  | [files, next] =>
    let files ← files.withDefault (Json.Tree.list? FileRecord.ofTree?) []
    let next ← next.withDefault (Json.Tree.nullable? Json.Tree.text?) none
    return { files, next }
  | _ => none

/-- Reads a page from the body of a response. -/
def ofBytes? (body : Bytes) : Option FileList :=
  (Json.Tree.ofBytes? body).bind ofTree?

/-- The page that a record stands for. -/
def toPage (l : FileList) : Page :=
  { entries := l.files.map (·.toEntry), next := l.next }

end FileList

/-- Reads the id of a new folder. -/
def createdId? (t : Json.Tree) : Option String := do
  match ← t.slots? ["id"] with
  | [id] => id.required Json.Tree.text?
  | _ => none

/-- Reads the id of a new folder from the body of a response. -/
def createdIdOfBytes? (body : Bytes) : Option String :=
  (Json.Tree.ofBytes? body).bind createdId?

end FolderCopy.Drive
