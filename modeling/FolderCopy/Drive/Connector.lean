import FolderCopy.Dialogue
import FolderCopy.Drive.Address
import FolderCopy.Drive.Fault
import FolderCopy.Drive.Record
import FolderCopy.Http.Message

/-!
# The drive as a remote store

Each call to the remote store is carried out by asking for an access token, sending one request, and
reading the response.
-/

namespace FolderCopy.Drive

/-- What a call to the drive asks of its surroundings. -/
inductive WebCall where
  /-- An access token. -/
  | token
  /-- The response to a request. -/
  | send (r : Http.Request)
  /-- A stream of the content that a request asks for. -/
  | stream (r : Http.Request)
  deriving DecidableEq, Repr

/-- What a web call is answered by. -/
abbrev WebCall.Answer : WebCall → Type
  | .token => String
  | .send _ => Http.Response
  | .stream _ => Unit

/-- A dialogue with the web. -/
abbrev WebDialogue :=
  Dialogue WebCall WebCall.Answer

/-- The folder that a missing parent stands for is the topmost one. -/
def parentId (parent : Option String) : String :=
  parent.getD rootId

/-- What a call is about, as reported when it is rejected. -/
def resource : StoreCall → String
  | .list parent _ _ => parentId parent
  | .create _ parent => parentId parent
  | .delete id | .download id => id

/-- The description of a new folder. -/
def folderBody (name parent : String) : Json :=
  .object [("name", .text name), ("mimeType", .text folderType),
    ("parents", .array [.text parent])]

/-- The request of a call, before it is authorised. -/
def bareRequest : StoreCall → Http.Request
  | .list parent filter token => { method := .get, url := listUrl (parentId parent) filter token }
  | .create .. => { method := .post, url := createUrl }
  | .delete id => { method := .delete, url := fileUrl id }
  | .download id => { method := .get, url := contentUrl id }

/-- The request of a call, made with an access token. Only the content of a file has no time limit.
-/
def request (timeout : Nat) (token : String) (c : StoreCall) : Http.Request :=
  let r := ((bareRequest c).withToken token).withHeader "Accept" "application/json"
  match c with
  | .download _ => r
  | .create name parent => (r.withJson (folderBody name (parentId parent))).withTimeout timeout
  | .list .. | .delete _ => r.withTimeout timeout

/-- Reads what a kind of record is read from the body of a successful response. -/
def readBody {α : Type} (what : String) (read? : Bytes → Option α) (r : Http.Response) :
    Except CallError α :=
  match read? r.body with
  | some a => .ok a
  | none => .error (Fault.toCallError (.unreadable s!"Failed to parse {what}: malformed body"))

/-- What a successful response to a call means. -/
def answer : (c : StoreCall) → Http.Response → Except CallError c.Answer
  | .list .., r => (readBody "files list response" FileList.ofBytes? r).map FileList.toPage
  | .create .., r => readBody "created folder" createdIdOfBytes? r
  | .delete _, _ => .ok ()
  | .download _, _ => .ok ()

/-- What a response to a call means. -/
def outcome (c : StoreCall) (r : Http.Response) : Except CallError c.Answer :=
  if r.isSuccess then answer c r
  else .error (Fault.ofStatus r.status (resource c) r.text).toCallError

/-- A status in place of a stream is a fault of the service. -/
def streamError (id : String) : CallError → CallError
  | .httpStatus status m => (Fault.ofStatus status id m).toCallError
  | e => e

/-- What is reported when a call begins. -/
def begins (c : StoreCall) : Log.Event :=
  let text := match c with
    | .list parent filter _ =>
      match filter.name with
      | some name => "Get folder by name: " ++ name
      | none => "Get files for id: " ++ parentId parent
    | .create name _ => s!"Create dir \"{name}\""
    | .delete id => "Remove id: " ++ id
    | .download id => "Download file by id: " ++ id
  Log.Component.connector.event .debug text []

/-- What is reported about a response to a call. -/
def reports (c : StoreCall) (r : Http.Response) : List Log.Event :=
  if !r.isSuccess then
    [Log.Component.connector.event .debug "Drive API call rejected"
      [("status", toString r.status), ("resource", resource c)]]
  else
    match c with
    | .list .. =>
      match FileList.ofBytes? r.body with
      | some l => [Log.Component.connector.event .debug "Listed Drive page"
          [("count", toString l.files.length), ("has_more", toString l.next.isSome)]]
      | none => []
    | _ => []

/-- The name of what a listing shows. -/
def kindName : EntryKind → String
  | .file => "File"
  | .folder => "Folder"

/-- The span of a call. -/
def spanOf : StoreCall → Log.Span
  | .list parent filter token => Log.Component.connector.span "list_children"
    [("parent_id", .ofText? parent), ("page_token", .ofText? token),
      ("kind", .text (kindName filter.kind))]
  | .create name parent => Log.Component.connector.span "create_folder"
    [("name", .text name), ("parent_id", .ofText? parent)]
  | .delete id => Log.Component.connector.span "delete_by_id" [("id", .text id)]
  | .download id => Log.Component.connector.span "download_by_id" [("id", .text id)]

/-- Sends the request of a call. -/
def exchange (timeout : Nat) (token : String) :
    (c : StoreCall) → WebDialogue (Except CallError c.Answer)
  | .download id => .call (.stream (request timeout token (.download id))) fun r =>
    .done (r.mapError (streamError id))
  | .list parent filter next => plain (.list parent filter next)
  | .create name parent => plain (.create name parent)
  | .delete id => plain (.delete id)
where
  /-- A call whose whole response is read. -/
  plain (c : StoreCall) : WebDialogue (Except CallError c.Answer) :=
    .call (.send (request timeout token c)) fun
      | .error e => .done (.error e)
      | .ok r => .notes (reports c r) (.done (outcome c r))

/-- Carries out a call to the remote store. -/
def perform (timeout : Nat) (c : StoreCall) : WebDialogue (Except CallError c.Answer) :=
  .within (spanOf c) <| .note (begins c) <|
    .call .token fun
      | .error e => .done (.error e)
      | .ok token => exchange timeout token c

/-- The drive as the host of dialogues with the remote store, over a host of dialogues with the web.
-/
def host {σ : Type} (timeout : Nat) (h : Host WebCall WebCall.Answer σ) :
    Host StoreCall StoreCall.Answer σ where
  acquire := h.acquire
  release := h.release
  call c s := (perform timeout c).run h s
  note := h.note
  enter := h.enter
  leave := h.leave

end FolderCopy.Drive
