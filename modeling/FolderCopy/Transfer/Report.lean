import FolderCopy.Transfer.Step

/-!
# What a transfer reports

The log events that go with the events of a transfer. Those of a download arise in a span of its own
inside the span of the transfer.
-/

namespace FolderCopy.Transfer

open FolderCopy.Log

/-- The span of a transfer. -/
def span (j : Job) : Span :=
  Component.coordinator.span "transfer"
    [("transfer_id", .text j.id), ("folder_id", .text j.folder),
      ("concurrency", .count j.concurrency)]

/-- The span of a download. -/
def downloadSpan (e : Entry) : Span :=
  Component.coordinator.span "run" [("file", .text e.name), ("file_id", .text e.id)]

/-- An event of the main loop. -/
def mainReport (j : Job) (e : Log.Event) : Report :=
  { spans := [span j], event := e }

/-- An event of the download of an entry. -/
def downloadReport (j : Job) (entry : Entry) (e : Log.Event) : Report :=
  { spans := [span j, downloadSpan entry], event := e }

/-- What is reported when a transfer begins. -/
def opening (j : Job) : List Report :=
  [mainReport j <| Component.coordinator.event .debug "Creating destination directory"
    [("destination", j.destination)]]

/-- What is reported about the totals of the folder. -/
def counted (t : Totals) : Log.Event :=
  Component.coordinator.event .info "Folder totals computed"
    [("files", toString t.files), ("bytes", toString t.bytes)]

/-- What is reported at the end of the listing. -/
def exhausted (s : State) : Log.Event :=
  Component.coordinator.event .debug "Listing exhausted"
    [("scheduled", toString (s.downloads.filter (!·.joined)).length)]

/-- What is reported before the counters are brought to zero. -/
def settling : Log.Event :=
  Component.coordinator.event .debug
    "Listed sizes differed from received bytes, settling progress" []

/-- What is reported about the deletion of the remote folder. -/
def cleaned (j : Job) : Except CopyError Unit → Log.Event
  | .ok () => Component.coordinator.event .info "Deleted remote folder" [("folder_id", j.folder)]
  | .error e => Component.coordinator.event .warn "Failed to delete remote folder"
    [("folder_id", j.folder), ("error", e.message)]

/-- What is reported when the transfer has been settled between two states. -/
def conclusion (before after : State) : List Log.Event :=
  if before.stage.isOver then []
  else
    match before.stage, after.stage with
    | _, .sending (.failed e) .stop =>
      [Component.coordinator.event .error "Transfer failed" [("error", e.message)]]
    | _, .sending (.completed c) .stop =>
      [Component.coordinator.event .info "Transfer completed" [("cleanup", c.describe)]]
    | .sending _ .begin_, .ended => if before.listening then [] else [cancelled]
    | _, .ended => [cancelled]
    | _, _ => []
where
  /-- What is reported when nobody listens any more. -/
  cancelled : Log.Event :=
    Component.coordinator.event .debug "Transfer cancelled by consumer" []

/-- What is reported about the answer to a listing call. -/
def listing (j : Job) (before after : State) (r : Except CallError Page) : List Log.Event :=
  let page (n : Nat) := j.policy.reports j.folder n r ++
    match r with
    | .ok p => [Enumeration.fetched j.folder p]
    | .error _ => []
  match before.stage with
  | .counting _ _ (.calling n) => page n ++
    match after.stage with
    | .sending _ .begin_ => [counted ⟨after.progress.files, after.progress.bytes⟩]
    | _ => []
  | .paging (.calling n) =>
    page n ++ if after.exhausted && !before.exhausted then [exhausted before] else []
  | _ => []

/-- What is reported about an event that leads from one state to another. -/
def reports (j : Job) (before after : State) (e : Event) : List Report :=
  let main (es : List Log.Event) := (es ++ conclusion before after).map (mainReport j)
  match e with
  | .page r => main (listing j before after r)
  | .admission .main (.error e) =>
    match before.stage with
    | .cleaning _ => main [cleaned j (.error (Retry.refused e))]
    | _ => main []
  | .removal r =>
    match before.stage with
    | .cleaning (.calling n) =>
      match j.policy.after j.folder n r with
      | .inl x => main (j.policy.reports j.folder n r ++ [cleaned j x])
      | .inr _ => main (j.policy.reports j.folder n r)
    | _ => []
  | .acquire => main (if after.exhausted && !before.exhausted then [exhausted before] else [])
  | .drain => main (if before.progress.isSettled then [] else [settling])
  | .stream i r =>
    match before.downloads[i]? with
    | some d =>
      match d.stage with
      | .fetching (.calling n) =>
        (j.policy.reports d.entry.name n r).map (downloadReport j d.entry)
      | _ => []
    | none => []
  | .closed i (.ok ()) =>
    match before.downloads[i]? with
    | some d => [downloadReport j d.entry <| Component.coordinator.event .debug "File downloaded"
        [("bytes", toString d.served.length)]]
    | none => []
  | _ => main []

end FolderCopy.Transfer
