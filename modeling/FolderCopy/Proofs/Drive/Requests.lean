import Mathlib.Data.List.TakeWhile
import FolderCopy.Drive.Connector
import FolderCopy.Proofs.Drive.Query
import FolderCopy.Proofs.Json.Fields
import FolderCopy.Proofs.Text.Percent

/-!
# Reading requests

The drive takes a request apart: its address at the question mark and at the slashes, ampersands and
equals signs, each part percent-decoded, and its body as a JSON object. Main statement: what is read
from the request of a call is what the call was given, whatever characters its texts hold, so that
no text can add a part or change another one.
-/

namespace FolderCopy.Drive

open Text

section Addresses

/-- What stands before the first occurrence of a character, and what stands after it where there is
one. -/
def cut (c : Char) (cs : List Char) : List Char × Option (List Char) :=
  (cs.takeWhile (· != c), (cs.dropWhile (· != c)).tail?)

def part? (cs : List Char) : Option String :=
  Percent.decode? (String.ofList cs)

/-- A parameter: its name and its value. -/
def parameter? (cs : List Char) : Option (String × String) := do
  let name ← part? (cut '=' cs).1
  let value ← part? ((cut '=' cs).2.getD [])
  return (name, value)

/-- The parameters of an address. -/
def parameters? (url : String) : Option (List (String × String)) :=
  match (cut '?' url.toList).2 with
  | some cs => (cs.splitOn '&').mapM parameter?
  | none => some []

/-- The parts of an address between slashes, up to its parameters. -/
def path? (url : String) : Option (List String) :=
  ((cut '?' url.toList).1.splitOn '/').mapM part?

/-- The parts of the address that all others start with. -/
def basePath : List String :=
  ["https:", "", "www.googleapis.com", "drive", "v3"]

/-- What is not in a list differs from all that is. -/
lemma bne_of_not_mem {c : Char} {cs : List Char} (h : c ∉ cs) : ∀ x ∈ cs, x != c := by
  intro x hx
  exact bne_iff_ne.2 fun he => h (he ▸ hx)

/-- Where a character is missing, nothing is cut. -/
lemma cut_eq {c : Char} {cs : List Char} (h : c ∉ cs) : cut c cs = (cs, none) := by
  rw [cut, List.takeWhile_eq_self_iff.2 (bne_of_not_mem h),
    List.dropWhile_eq_nil_iff.2 (bne_of_not_mem h)]
  rfl

/-- A text is cut at the first place of a character. -/
lemma cut_append {c : Char} {cs : List Char} (h : c ∉ cs) (rest : List Char) :
    cut c (cs ++ c :: rest) = (cs, some rest) := by
  rw [cut, List.takeWhile_append_of_pos (bne_of_not_mem h),
    List.dropWhile_append_of_pos (bne_of_not_mem h)]
  simp

/-- The characters that divide an address stand in no encoded text. -/
lemma not_mem_encode (s : String) :
    ∀ c ∈ ['/', '?', '#', '&', '='], c ∉ (Percent.encode s).toList := by
  intro c hc hmem
  have hsafe : ∀ c ∈ ['/', '?', '#', '&', '='], ¬ Percent.IsSafe c := by
    simp [Percent.IsSafe]
  exact hsafe c hc (Percent.isSafe_of_mem_encode hmem)

/-- An encoded text is read as it was. -/
lemma part?_encode (s : String) : part? (Percent.encode s).toList = some s := by
  rw [part?, String.ofList_toList, Percent.decode?_encode]

/-- Whether percent encoding leaves a text as it is. -/
def IsPlain (s : String) : Prop :=
  Percent.encode s = s

/-- A written parameter is read as it was. -/
lemma parameter?_written {name : String} (hname : IsPlain name) (value : String) :
    parameter? (name ++ "=" ++ Percent.encode value).toList = some (name, value) := by
  have hchars : (name ++ "=" ++ Percent.encode value).toList =
      (Percent.encode name).toList ++ '=' :: (Percent.encode value).toList := by
    rw [hname]
    simp
  rw [hchars, parameter?, cut_append (not_mem_encode name '=' (by simp)), Option.getD_some,
    part?_encode, part?_encode]
  rfl

/-- Written parameters are read as they were. -/
lemma mapM_parameter? {ps : List (String × String)} (hps : ∀ p ∈ ps, IsPlain p.1) :
    ((ps.map fun p => p.1 ++ "=" ++ Percent.encode p.2).map String.toList).mapM parameter? =
      some ps := by
  induction ps with
  | nil => rfl
  | cons p ps ih =>
    simp only [List.map_cons, List.mapM_cons]
    rw [parameter?_written (hps p (by simp)), ih fun p' hp' => hps p' (by simp [hp'])]
    rfl

/-- Parameters are read back one by one. -/
lemma parameters?_written {front : String} (hfront : '?' ∉ front.toList)
    {ps : List (String × String)} (hne : ps ≠ []) (hps : ∀ p ∈ ps, IsPlain p.1) :
    parameters? (front ++ "?" ++ writeParameters ps) = some ps := by
  have hurl : (front ++ "?" ++ writeParameters ps).toList =
      front.toList ++ '?' :: (writeParameters ps).toList := by
    simp
  have hmem : ∀ cs ∈ (ps.map fun p => p.1 ++ "=" ++ Percent.encode p.2).map String.toList,
      '&' ∉ cs := by
    simp only [List.map_map, List.mem_map, Function.comp_apply, forall_exists_index, and_imp]
    rintro _ p hp rfl
    rw [← hps p hp]
    simp [not_mem_encode _ '&' (by simp)]
  rw [parameters?, hurl, cut_append hfront]
  simp only [writeParameters, String.toList_intercalate]
  rw [show "&".toList = ['&'] from rfl, List.splitOn_intercalate '&' hmem (by simpa using hne),
    mapM_parameter? hps]

/-- The path of an address ends where its parameters begin. -/
lemma path?_front {front : String} (hfront : '?' ∉ front.toList) (rest : String) :
    path? (front ++ "?" ++ rest) = path? front := by
  have hurl : (front ++ "?" ++ rest).toList = front.toList ++ '?' :: rest.toList := by
    simp
  rw [path?, path?, hurl, cut_append hfront, cut_eq hfront]

/-- The address of a file is the address of files, a slash and the encoded id. -/
lemma toList_fileUrl (id : String) :
    (fileUrl id).toList = (baseUrl ++ "/files").toList ++ '/' :: (Percent.encode id).toList := by
  simp [fileUrl]

/-- The first part of every address holds no character that divides addresses but slashes. -/
lemma not_mem_filesUrl : ∀ c ∈ ['?', '#', '&', '='], c ∉ (baseUrl ++ "/files").toList := by
  simp [baseUrl]

/-- The address of a file has no parameters, whatever its id is. -/
lemma not_mem_fileUrl (id : String) : ∀ c ∈ ['?', '#', '&', '='], c ∉ (fileUrl id).toList := by
  intro c hc hmem
  rw [toList_fileUrl, List.mem_append, List.mem_cons] at hmem
  rcases hmem with h | rfl | h
  · exact not_mem_filesUrl c hc h
  · exact absurd hc (by decide)
  · exact not_mem_encode id c (List.mem_cons_of_mem _ hc) h

/-- The address of files has the path that it should. -/
lemma path?_filesUrl : path? (baseUrl ++ "/files") = some (basePath ++ ["files"]) := by
  decide +kernel

/-- An id is one part of the address of its file. -/
lemma path?_fileUrl (id : String) : path? (fileUrl id) = some (basePath ++ ["files", id]) := by
  have hsegments : (baseUrl ++ "/files").toList.splitOn '/' =
      (basePath ++ ["files"]).map String.toList := by
    decide +kernel
  have hread : ((basePath ++ ["files"]).map String.toList).mapM part? =
      some (basePath ++ ["files"]) := by
    decide +kernel
  rw [path?, cut_eq (not_mem_fileUrl id '?' (by simp)), toList_fileUrl,
    List.splitOn_append_cons_self, hsegments,
    List.splitOn_eq_singleton (not_mem_encode id '/' (by simp)), List.mapM_append, hread]
  simp [part?_encode]

end Addresses

section Bodies

/-- The members of the object that a body is, in their order. -/
def fields? (body : String) : Option (List (String × Json)) := do
  let t ← Json.Tree.ofBytes? (Utf8.encode body)
  let members ← t.members?
  members.mapM fun (key, t) => (t.value? Json.maxNesting).map fun v => (key, v)

/-- The description of a new folder is read back member by member. -/
lemma fields?_folderBody (name parent : String) :
    fields? (folderBody name parent).render =
      some [("name", .text name), ("mimeType", .text folderType),
        ("parents", .array [.text parent])] := by
  have hwritable : (folderBody name parent).IsWritable :=
    ⟨trivial, trivial, ⟨trivial, trivial⟩, trivial⟩
  have hmembers := (Json.spellsMembers_memberTrees [("name", .text name),
    ("mimeType", .text folderType), ("parents", .array [.text parent])]).members?_eq
  rw [fields?, (Json.written_render hwritable).ofBytes?_eq, Option.bind_eq_bind, Option.bind_some,
    folderBody, Json.tree, hmembers]
  simp [Json.tree, Json.itemTrees, Json.pieceText?_escapePieces, Json.Tree.value?,
    Json.Tree.itemValues?, Json.maxNesting]

end Bodies

section Requests

/-- What is read from a request. -/
structure Received where
  method : Http.Method
  path : List String
  parameters : List (String × String)
  fields : Option (List (String × Json))

def receive? (r : Http.Request) : Option Received := do
  let path ← path? r.url
  let parameters ← parameters? r.url
  let fields ← r.body.mapM fields?
  return { method := r.method, path, parameters, fields }

/-- What a call says to the drive. -/
def said : StoreCall → Received
  | .list parent filter next =>
    { method := .get
      path := basePath ++ ["files"]
      parameters := listParameters (parentId parent) filter next
      fields := none }
  | .create name parent =>
    { method := .post
      path := basePath ++ ["files"]
      parameters := [("fields", "id")]
      fields := some [("name", .text name), ("mimeType", .text folderType),
        ("parents", .array [.text (parentId parent)])] }
  | .delete id =>
    { method := .delete, path := basePath ++ ["files", id], parameters := [], fields := none }
  | .download id =>
    { method := .get, path := basePath ++ ["files", id], parameters := [("alt", "media")],
      fields := none }

/-- A call with the folder that its missing parent stands for. -/
def rooted : StoreCall → StoreCall
  | .list parent filter next => .list (some (parentId parent)) filter next
  | .create name parent => .create name (some (parentId parent))
  | c => c

/-- The names of parameters are plain. -/
lemma isPlain_names : ∀ name ∈ ["q", "fields", "spaces", "pageSize", "pageToken", "alt"],
    IsPlain name := by
  unfold IsPlain
  decide +kernel

/-- All parameters of a listing have plain names. -/
lemma isPlain_listParameters (parent : String) (filter : Filter) (next : Option String) :
    ∀ p ∈ listParameters parent filter next, IsPlain p.1 := by
  intro p hp
  apply isPlain_names
  cases next with
  | none =>
    simp only [listParameters, Option.map_none, Option.toList_none, List.append_nil, List.mem_cons,
      List.not_mem_nil, or_false] at hp
    rcases hp with rfl | rfl | rfl | rfl <;> simp
  | some t =>
    simp only [listParameters, Option.map_some, Option.toList_some, List.cons_append,
      List.nil_append, List.mem_cons, List.not_mem_nil, or_false] at hp
    rcases hp with rfl | rfl | rfl | rfl | rfl <;> simp

/-- An address with parameters is an address, a question mark and the parameters. -/
lemma filesUrl_append (s : String) :
    baseUrl ++ "/files?" ++ s = baseUrl ++ "/files" ++ "?" ++ s := by
  rw [show "/files?" = "/files" ++ "?" from rfl, ← String.append_assoc]

/-- What is read from the request of a call is what the call says. -/
lemma receive?_request (timeout : Nat) (token : String) (c : StoreCall) :
    receive? (request timeout token c) = some (said c) := by
  have hfiles := not_mem_filesUrl '?' (by simp)
  cases c with
  | list parent filter next =>
    have hurl : (request timeout token (.list parent filter next)).url = _ :=
      filesUrl_append (writeParameters (listParameters (parentId parent) filter next))
    have hne : listParameters (parentId parent) filter next ≠ [] := List.cons_ne_nil _ _
    rw [receive?, hurl, path?_front hfiles, path?_filesUrl,
      parameters?_written hfiles hne (isPlain_listParameters _ _ _)]
    rfl
  | create name parent =>
    have hurl : (request timeout token (.create name parent)).url = _ :=
      filesUrl_append (writeParameters [("fields", "id")])
    have hbody : (request timeout token (.create name parent)).body =
        some (folderBody name (parentId parent)).render := rfl
    rw [receive?, hurl, path?_front hfiles, path?_filesUrl,
      parameters?_written hfiles (List.cons_ne_nil _ _) (by simp [isPlain_names]), hbody]
    simp only [Option.mapM_some, fields?_folderBody]
    rfl
  | delete id =>
    have hurl : (request timeout token (.delete id)).url = fileUrl id := rfl
    have hfile := not_mem_fileUrl id '?' (by simp)
    rw [receive?, hurl, path?_fileUrl, parameters?, cut_eq hfile]
    rfl
  | download id =>
    have hurl : (request timeout token (.download id)).url =
        fileUrl id ++ "?" ++ writeParameters [("alt", "media")] := rfl
    have hfile := not_mem_fileUrl id '?' (by simp)
    rw [receive?, hurl, path?_front hfile, path?_fileUrl,
      parameters?_written hfile (List.cons_ne_nil _ _) (by simp [isPlain_names])]
    rfl

/-- Different listings have different parameters. -/
lemma listParameters_inj {parent parent' : String} {filter filter' : Filter}
    {next next' : Option String}
    (h : listParameters parent' filter' next' = listParameters parent filter next) :
    parent' = parent ∧ filter' = filter ∧ next' = next := by
  have hnext : next' = next := by
    cases next <;> cases next' <;> simp_all [listParameters]
  have hquery : query parent' filter' = query parent filter := by
    simp_all [listParameters]
  obtain ⟨hparent, hkind, hname⟩ := query_inj hquery
  refine ⟨hparent, ?_, hnext⟩
  cases filter
  cases filter'
  simp_all

/-- Calls that say the same are the same but for a missing parent. -/
lemma said_inj {c c' : StoreCall} (h : said c' = said c) : rooted c' = rooted c := by
  cases c <;> cases c' <;> simp only [said, Received.mk.injEq] at h
  case list.list =>
    obtain ⟨hparent, rfl, rfl⟩ := listParameters_inj h.2.2.1
    simp [rooted, hparent]
  all_goals simp_all [rooted]

/-- To leave the parent out is to name the root folder. -/
lemma request_rooted (timeout : Nat) (token : String) (c : StoreCall) :
    request timeout token (rooted c) = request timeout token c := by
  cases c <;> rfl

/-- Calls with the same request are the same but for a missing parent. -/
lemma request_inj {timeout timeout' : Nat} {token token' : String} {c c' : StoreCall}
    (h : request timeout' token' c' = request timeout token c) : rooted c' = rooted c := by
  apply said_inj
  apply Option.some.inj
  rw [← receive?_request timeout' token' c', h, receive?_request]

/-- What is in none of some texts is not between them either, unless it is what separates them. -/
lemma not_mem_intercalate {c d : Char} (hne : c ≠ d) {ls : List (List Char)}
    (h : ∀ l ∈ ls, c ∉ l) : c ∉ [d].intercalate ls := by
  induction ls with
  | nil => exact List.not_mem_nil
  | cons l ls ih =>
    obtain ⟨hl, hls⟩ := List.forall_mem_cons.1 h
    cases ls with
    | nil => rwa [List.intercalate_singleton]
    | cons l' ls =>
      rw [List.intercalate_cons_cons, List.append_assoc, List.mem_append, List.mem_append,
        List.mem_singleton]
      rintro (hmem | rfl | hmem)
      · exact hl hmem
      · exact hne rfl
      · exact ih hls hmem

/-- Written parameters hold no hash. -/
lemma not_mem_writeParameters {ps : List (String × String)} (hps : ∀ p ∈ ps, IsPlain p.1) :
    '#' ∉ (writeParameters ps).toList := by
  rw [writeParameters, String.toList_intercalate]
  apply not_mem_intercalate (by decide : '#' ≠ '&')
  simp only [List.map_map, List.mem_map, Function.comp_apply, forall_exists_index, and_imp]
  rintro _ p hp rfl
  rw [← hps p hp]
  simp [not_mem_encode _ '#' (by simp)]

/-- No request has a part that is not sent to the drive. -/
lemma not_mem_request (timeout : Nat) (token : String) (c : StoreCall) :
    '#' ∉ (request timeout token c).url.toList := by
  have hfiles := not_mem_filesUrl '#' (by simp)
  have happend {front : String} (hfront : '#' ∉ front.toList) {ps : List (String × String)}
      (hps : ∀ p ∈ ps, IsPlain p.1) : '#' ∉ (front ++ "?" ++ writeParameters ps).toList := by
    simp only [String.toList_append, List.mem_append, not_or]
    exact ⟨⟨hfront, by decide⟩, not_mem_writeParameters hps⟩
  cases c with
  | list parent filter next =>
    have hurl : (request timeout token (.list parent filter next)).url = _ :=
      filesUrl_append (writeParameters (listParameters (parentId parent) filter next))
    rw [hurl]
    exact happend hfiles (isPlain_listParameters _ _ _)
  | create name parent =>
    have hurl : (request timeout token (.create name parent)).url = _ :=
      filesUrl_append (writeParameters [("fields", "id")])
    rw [hurl]
    exact happend hfiles (by simp [isPlain_names])
  | delete id => exact not_mem_fileUrl id '#' (by simp)
  | download id => exact happend (not_mem_fileUrl id '#' (by simp)) (by simp [isPlain_names])

end Requests

/-- What is read from a request is exactly what its call was given: for a listing the query, the
fields, the space, the size of a page and, where there is one, the token; for a new folder its name,
its type and its one parent; for a deletion or a download the id, as one part of the address that
holds no character which divides addresses. Calls have the same request only if they differ in
nothing but a missing parent in place of the topmost folder. -/
theorem requests_carry_arguments (timeout : Nat) (token : String) :
    (∀ (parent : Option String) (filter : Filter) (next : Option String),
      receive? (request timeout token (.list parent filter next)) = some {
        method := .get
        path := ["https:", "", "www.googleapis.com", "drive", "v3", "files"]
        parameters := [("q", query (parent.getD "root") filter),
          ("fields", "files(id,name,size),nextPageToken"), ("spaces", "drive"),
          ("pageSize", "1000")] ++ (next.map fun t => ("pageToken", t)).toList
        fields := none }) ∧
    (∀ (name : String) (parent : Option String),
      receive? (request timeout token (.create name parent)) = some {
        method := .post
        path := ["https:", "", "www.googleapis.com", "drive", "v3", "files"]
        parameters := [("fields", "id")]
        fields := some [("name", .text name),
          ("mimeType", .text "application/vnd.google-apps.folder"),
          ("parents", .array [.text (parent.getD "root")])] }) ∧
    (∀ id : String, ∃ segment : String,
      (request timeout token (.delete id)).url = baseUrl ++ "/files/" ++ segment ∧
      (request timeout token (.download id)).url = baseUrl ++ "/files/" ++ segment ++ "?alt=media" ∧
      (∀ c ∈ ['/', '?', '#', '&'], c ∉ segment.toList) ∧
      Percent.decode? segment = some id ∧
      receive? (request timeout token (.delete id)) = some {
        method := .delete
        path := ["https:", "", "www.googleapis.com", "drive", "v3", "files", id]
        parameters := []
        fields := none } ∧
      receive? (request timeout token (.download id)) = some {
        method := .get
        path := ["https:", "", "www.googleapis.com", "drive", "v3", "files", id]
        parameters := [("alt", "media")]
        fields := none }) ∧
    (∀ c : StoreCall, '#' ∉ (request timeout token c).url.toList) ∧
    ∀ c c' : StoreCall, (∃ timeout' token', request timeout' token' c' = request timeout token c) ↔
      rooted c' = rooted c := by
  refine ⟨?_, ?_, ?_, not_mem_request timeout token, ?_⟩
  · intro parent filter next
    exact receive?_request timeout token (.list parent filter next)
  · intro name parent
    exact receive?_request timeout token (.create name parent)
  · intro id
    refine ⟨Percent.encode id, rfl, ?_, ?_, Percent.decode?_encode id,
      receive?_request timeout token (.delete id), receive?_request timeout token (.download id)⟩
    · have halt : "?" ++ writeParameters [("alt", "media")] = "?alt=media" := by decide +kernel
      rw [← halt, ← String.append_assoc]
      rfl
    · exact fun c hc => not_mem_encode id c (List.mem_append_left ['='] hc)
  · intro c c'
    constructor
    · rintro ⟨timeout', token', h⟩
      exact request_inj h
    · intro h
      exact ⟨timeout, token, by rw [← request_rooted, h, request_rooted]⟩

end FolderCopy.Drive
