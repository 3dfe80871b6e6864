import FolderCopy.CallError
import FolderCopy.Text.Blank
import FolderCopy.Text.Quoted

/-!
# Access tokens

Where the token for remote calls comes from: a variable of the environment, or a fixed value.
-/

namespace FolderCopy.AccessToken

/-- The variable that is read unless another one is named. -/
def defaultVariable : String :=
  "DRIVE_ACCESS_TOKEN"

/-- The token in a variable of the environment, blanks at its ends removed; nothing but blanks is no
token. -/
def ofVariable (variable_ : String) (value : Option String) : Except CallError String :=
  let token := Text.trim (value.getD "")
  if token.isEmpty then .error (.unavailable s!"Access token variable {variable_} is not set")
  else .ok token

/-- A provider that reads a variable, as shown to a developer. -/
def describeVariable (variable_ : String) : String :=
  "EnvTokenProvider \x7b variable: " ++ Text.quoted variable_ ++ " \x7d"

/-- What stands in place of a secret. -/
def redacted : String :=
  "[REDACTED]"

/-- A provider of a fixed token, as shown to a developer. -/
def describeFixed : String :=
  "StaticTokenProvider \x7b token: " ++ Text.quoted redacted ++ " \x7d"

end FolderCopy.AccessToken
