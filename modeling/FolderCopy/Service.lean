import FolderCopy.Resolution
import FolderCopy.Settings
import FolderCopy.Transfer.State

/-!
# The service

What an application asks for: the folder of a path, the removal of the folder of a path, and a
transfer of the files of the folder of a path.
-/

namespace FolderCopy.Service

open FolderCopy.Resolution

/-- The policy that settings ask for. -/
def policy (s : Settings) : Retry.Policy :=
  .ofNat s.maxAttempts

/-- The folder of a written path. -/
def folder (p : Retry.Policy) (path : String) (createMissing : Bool) : Operation String :=
  .within (Log.Component.service.span "folder_by_path"
      [("path", .text path), ("create", .truth createMissing)]) <|
    match FolderPath.parse path with
    | .error e => .done (.error e)
    | .ok fp => resolve p fp createMissing

/-- Removes the folder of a written path. -/
def remove (p : Retry.Policy) (path : String) : Operation Unit :=
  .within (Log.Component.service.span "remove_folder_by_path" [("path", .text path)]) <|
    (folder p path false).andThen fun id =>
      .note (Log.Component.service.event .debug ("Remove folder by path: " ++ path)
        [("folder_id", id)]) <|
      (p.run id (.delete id)).andThen fun _ =>
        .note (Log.Component.service.event .info "Removed remote folder" [("folder_id", id)])
          (.done (.ok ()))

/-- What is reported when the folder of a download has been found. -/
def downloads (path id destination : String) (o : DownloadOptions) : Log.Event :=
  Log.Component.service.event .info ("Download folder files by path: " ++ path)
    [("folder_id", id), ("destination", destination), ("concurrency", toString o.concurrency),
      ("delete_after", toString o.deleteAfter)]

/-- The transfer that copies the files of the folder of a written path. -/
def download (p : Retry.Policy) (path destination : String) (o : DownloadOptions) :
    Operation Transfer.Job :=
  .within (Log.Component.service.span "download_folder" [("path", .text path)]) <|
    (folder p path false).andThen fun id =>
      .note (downloads path id destination o) <|
      let job : Transfer.Job :=
        { folder := id, destination, concurrency := o.concurrency, deleteAfter := o.deleteAfter,
          policy := p }
      .note (Log.Component.service.event .debug "Transfer started" [("transfer_id", job.id)]) <|
      .done (.ok job)

end FolderCopy.Service
