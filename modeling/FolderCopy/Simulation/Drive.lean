import FolderCopy.CallError
import FolderCopy.Listing
import FolderCopy.Simulation.Reader

/-!
# A scripted remote store

A remote store held in memory. It has folders and files, fails where its script says so, and takes
its time.
-/

namespace FolderCopy.Simulation

/-- A folder of the store. -/
structure Folder where
  id : String
  name : String
  parent : Option String
  deriving DecidableEq, Repr

/-- A file of the store, with the script of its downloads. -/
structure File where
  id : String
  name : String
  parent : Option String
  content : Bytes
  /-- The size shown in listings. -/
  size : Option Nat
  /-- The wait before a download begins, in milliseconds. -/
  delay : Nat := 1
  /-- What the next downloads come to; none is a success. -/
  failures : List (Option CallError) := []
  chunk : Option Nat := none
  chunkDelay : Nat := 0
  breaksOff : Option (Nat × String) := none
  deriving Repr

namespace File

/-- The file as an entry of a listing. -/
def toEntry (f : File) : Entry :=
  { id := f.id, name := f.name, size := f.size }

/-- A reader at the start of the content. -/
def reader (f : File) : Reader :=
  { rest := f.content, chunk := f.chunk, delay := f.chunkDelay, breaksOff := f.breaksOff }

end File

/-- A page of a scripted listing, with the token that it is asked for with. -/
structure ListedPage where
  token : Option String
  page : Page
  deriving Repr

/-- The calls of one type that fail: each call takes the first element, none being a success. -/
abbrev Failures := List (Option CallError)

/-- Whether the next call fails, and the failures of the calls after it. -/
def Failures.next (fs : Failures) : Option CallError × Failures :=
  match fs with
  | [] => (none, [])
  | f :: rest => (f, rest)

/-- A remote store held in memory. -/
structure Drive where
  folders : List Folder := []
  files : List File := []
  pageSize : Nat := 100
  /-- Lookups of folders answer with siblings of other names too. -/
  loose : Bool := false
  listFolderFailures : Failures := []
  listFileFailures : Failures := []
  createFailures : Failures := []
  deleteFailures : Failures := []
  /-- Listings of files in place of those of the folders; each reading of a first page moves on to
  the next one, the last one staying. -/
  listings : List (List ListedPage) := []
  /-- How many first pages have been read. -/
  readings : Nat := 0
  /-- The wait before a listing of files is answered, in milliseconds. -/
  listDelay : Nat := 0
  /-- How many folders have been created. -/
  created : Nat := 0

namespace Drive

/-- The folders that a lookup answers with. -/
def lookup (d : Drive) (parent : Option String) (filter : Filter) : Page :=
  let wanted (f : Folder) := f.parent == parent &&
    (d.loose || match filter.name with
      | some name => f.name == name
      | none => true)
  { entries := (d.folders.filter wanted).map fun f => { id := f.id, name := f.name, size := none },
    next := none }

/-- The page of the files of a folder that starts at an offset. -/
def filesFrom (d : Drive) (parent : Option String) (offset : Nat) : Page :=
  let all := d.files.filter (·.parent == parent)
  let stop := offset + d.pageSize
  { entries := ((all.drop offset).take d.pageSize).map (·.toEntry),
    next := if stop < all.length then some (toString stop) else none }

/-- The page of the scripted listings that a token asks for. -/
def scriptedPage (d : Drive) (token : Option String) : Except CallError Page :=
  let listing := (d.listings[min d.readings d.listings.length - 1]?).getD []
  match listing.find? (·.token == token) with
  | some p => .ok p.page
  | none => .error (.invalidResponse "bad token")

/-- Answers a listing of files. -/
def listFiles (d : Drive) (parent token : Option String) : Except CallError Page × Drive :=
  match d.listings with
  | [] => (.ok (d.filesFrom parent ((token.bind String.toNat?).getD 0)), d)
  | _ :: _ =>
    let d := if token.isNone then { d with readings := d.readings + 1 } else d
    (d.scriptedPage token, d)

/-- Adds a folder. -/
def addFolder (d : Drive) (name : String) (parent : Option String) : String × Drive :=
  let id := s!"new-{d.created + 1}"
  (id, { d with folders := d.folders ++ [⟨id, name, parent⟩], created := d.created + 1 })

/-- Removes a folder. -/
def removeFolder (d : Drive) (id : String) : Drive :=
  { d with folders := d.folders.filter (·.id != id) }

/-- The file of an id. -/
def file? (d : Drive) (id : String) : Option File :=
  d.files.find? (·.id == id)

/-- Puts a file in the place of the first one of its id. -/
def putFile (f : File) : List File → List File
  | [] => []
  | g :: rest => if g.id = f.id then f :: rest else g :: putFile f rest

/-- The wait before a call is answered. -/
def wait (d : Drive) : StoreCall → Nat
  | .list _ ⟨.file, _⟩ _ => d.listDelay
  | .download id => ((d.file? id).map (·.delay)).getD 0
  | _ => 0

/-- Asks for the content of a file. -/
def openFile (d : Drive) (id : String) : Except CallError Reader × Drive :=
  match d.file? id with
  | none => (.error (.notFound id), d)
  | some f =>
    let (failure, rest) := Failures.next f.failures
    let d := { d with files := putFile { f with failures := rest } d.files }
    match failure with
    | some e => (.error e, d)
    | none => (.ok f.reader, d)

/-- Answers a call, content of files apart. -/
def answer : (c : StoreCall) → Drive → Except CallError c.Answer × Drive
  | .list parent ⟨.folder, name⟩ _, d =>
    let (failure, rest) := Failures.next d.listFolderFailures
    let d := { d with listFolderFailures := rest }
    match failure with
    | some e => (.error e, d)
    | none => (.ok (d.lookup parent ⟨.folder, name⟩), d)
  | .list parent ⟨.file, _⟩ token, d =>
    let (failure, rest) := Failures.next d.listFileFailures
    let d := { d with listFileFailures := rest }
    match failure with
    | some e => (.error e, d)
    | none => d.listFiles parent token
  | .create name parent, d =>
    let (failure, rest) := Failures.next d.createFailures
    let d := { d with createFailures := rest }
    match failure with
    | some e => (.error e, d)
    | none => let (id, d) := d.addFolder name parent; (.ok id, d)
  | .delete id, d =>
    let (failure, rest) := Failures.next d.deleteFailures
    let d := { d with deleteFailures := rest }
    match failure with
    | some e => (.error e, d)
    | none => (.ok (), d.removeFolder id)
  | .download id, d => let (r, d) := d.openFile id; (r.map fun _ => (), d)

end Drive

end FolderCopy.Simulation
