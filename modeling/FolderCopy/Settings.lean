import FolderCopy.Clock
import FolderCopy.CopyError
import FolderCopy.Text.Duration

/-!
# Settings

What an application sets up before it copies folders: the limits of the operations, and the
capabilities that it hands over. Settings are checked when they are built and again when a service
takes them.
-/

namespace FolderCopy

/-- The limits of operations; the time limit of a request is in milliseconds. -/
structure Settings where
  maxAttempts : Nat := 3
  concurrency : Nat := 4
  timeout : Nat := 30000
  deriving DecidableEq, Repr

/-- Why settings were not accepted. -/
inductive SettingsError where
  | noAttempts
  | noConcurrency
  | noTimeout
  | noTokenProvider
  /-- A filter for log events that cannot be read. -/
  | badLogFilter (why : String)
  /-- Logging has been set up before. -/
  | loggingInUse
  deriving DecidableEq, Repr

namespace SettingsError

/-- Whether a capability is missing, rather than a value wrong. -/
def isCapability : SettingsError → Bool
  | .noTokenProvider => true
  | _ => false

/-- What is said about an error. -/
def message : SettingsError → String
  | .noAttempts => "Configuration error: max_attempts must be at least 1"
  | .noConcurrency => "Configuration error: default_concurrency must be at least 1"
  | .noTimeout => "Configuration error: request_timeout must be greater than zero"
  | .noTokenProvider =>
    "Capability missing: AccessTokenProvider - An AccessTokenProvider is required to " ++
      "authenticate remote calls. Inject the host's OAuth session, or a StaticTokenProvider " ++
      "for scripts."
  | .badLogFilter why => "Configuration error: Invalid log filter: " ++ why
  | .loggingInUse =>
    "Configuration error: Failed to initialize logging: " ++
      "a global default trace dispatcher has already been set"

/-- The message shown for settings that a service did not accept. -/
def statusMessage (e : SettingsError) : StatusMessage :=
  (CopyError.fatal e.message).statusMessage

end SettingsError

/-- How a folder is downloaded. -/
structure DownloadOptions where
  concurrency : Nat := 4
  deleteAfter : Bool := false
  deriving DecidableEq, Repr

namespace Settings

/-- Checks the limits, in this order: attempts, concurrency, time limit. -/
def check (s : Settings) : Except SettingsError Settings :=
  if s.maxAttempts = 0 then .error .noAttempts
  else if s.concurrency = 0 then .error .noConcurrency
  else if s.timeout = 0 then .error .noTimeout
  else .ok s

/-- Settings from limits and the word whether there is a token provider. The other capabilities have
stand-ins. -/
def build (hasTokenProvider : Bool) (s : Settings) : Except SettingsError Settings :=
  if hasTokenProvider then s.check else .error .noTokenProvider

/-- How folders are downloaded unless something else is asked for. -/
def downloadOptions (s : Settings) : DownloadOptions :=
  { concurrency := s.concurrency }

/-- The settings as shown to a developer, capabilities without their details. -/
def describe (s : Settings) : String :=
  let capability (name : String) := "\"" ++ name ++ " \x7b ... \x7d\""
  "MirrorConfig \x7b token_provider: " ++ capability "AccessTokenProvider" ++
    ", http_client: " ++ capability "HttpClient" ++
    ", file_system: " ++ capability "FileSystemAccess" ++
    ", admission_limiter: " ++ capability "AdmissionLimiter" ++
    s!", max_attempts: {s.maxAttempts}, default_concurrency: {s.concurrency}" ++
    ", request_timeout: " ++ Text.duration (s.timeout * Clock.millisecond) ++ " \x7d"

end Settings

/-- Why an operation of the service ended without success. -/
inductive ServiceError where
  | settings (e : SettingsError)
  | copy (e : CopyError)
  deriving DecidableEq, Repr

namespace ServiceError

/-- What is said about an error. -/
def message : ServiceError → String
  | .settings e => "Runtime error: " ++ e.message
  | .copy e => "Sync error: " ++ e.message

/-- The message shown for an error. -/
def statusMessage : ServiceError → StatusMessage
  | .settings e => e.statusMessage
  | .copy e => e.statusMessage

end ServiceError

end FolderCopy
