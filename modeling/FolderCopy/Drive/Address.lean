import FolderCopy.Drive.Query
import FolderCopy.Text.Percent

/-!
# Addresses of the drive's service

The web addresses of the calls to the drive. Every argument stands percent-encoded inside one
parameter value or one path segment.
-/

namespace FolderCopy.Drive

/-- The address that all others start with. -/
def baseUrl : String :=
  "https://www.googleapis.com/drive/v3"

/-- The fields asked for in a listing. -/
def listFields : String :=
  "files(id,name,size),nextPageToken"

/-- The largest page asked for. -/
def pageSize : Nat :=
  1000

/-- The parameters of a listing, with their values before encoding. -/
def listParameters (parent : String) (filter : Filter) (token : Option String) :
    List (String × String) :=
  [("q", query parent filter), ("fields", listFields), ("spaces", "drive"),
    ("pageSize", toString pageSize)] ++ (token.map fun t => ("pageToken", t)).toList

/-- Parameters as written after the question mark. -/
def writeParameters (ps : List (String × String)) : String :=
  String.intercalate "&" (ps.map fun p => p.1 ++ "=" ++ Text.Percent.encode p.2)

/-- The address of a listing. -/
def listUrl (parent : String) (filter : Filter) (token : Option String) : String :=
  baseUrl ++ "/files?" ++ writeParameters (listParameters parent filter token)

/-- The address that a new folder is sent to. -/
def createUrl : String :=
  baseUrl ++ "/files?" ++ writeParameters [("fields", "id")]

/-- The address of a file or folder. -/
def fileUrl (id : String) : String :=
  baseUrl ++ "/files/" ++ Text.Percent.encode id

/-- The address of the content of a file. -/
def contentUrl (id : String) : String :=
  fileUrl id ++ "?" ++ writeParameters [("alt", "media")]

end FolderCopy.Drive
