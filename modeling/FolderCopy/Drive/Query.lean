import FolderCopy.Listing

/-!
# Search queries of the drive

The conditions of a listing, and the query text that they are written as. A value stands between
single quotes; a backslash or quote inside it is written with a backslash before it.
-/

namespace FolderCopy.Drive

/-- The type that the drive gives its folders. -/
def folderType : String :=
  "application/vnd.google-apps.folder"

/-- The name of the topmost folder. -/
def rootId : String :=
  "root"

/-- A condition of a query. -/
inductive Condition where
  /-- The entry is a child of a folder. -/
  | inParents (parent : String)
  /-- The type of the entry is, or is not, the given one. -/
  | ofType (same : Bool) (type : String)
  /-- The entry has a name. -/
  | named (name : String)
  /-- The entry has not been thrown away. -/
  | notTrashed
  deriving DecidableEq, Repr

/-- How a character of a value is written. -/
def escapeChar (c : Char) : List Char :=
  if c = '\\' ∨ c = '\'' then ['\\', c] else [c]

/-- A value as written between the quotes. -/
def escapeChars (cs : List Char) : List Char :=
  cs.flatMap escapeChar

/-- A value with its quotes. -/
def literal (value : String) : List Char :=
  '\'' :: escapeChars value.toList ++ ['\'']

/-- A condition as written. -/
def Condition.chars : Condition → List Char
  | .inParents parent => literal parent ++ " in parents".toList
  | .ofType same type => (if same then "mimeType = " else "mimeType != ").toList ++ literal type
  | .named name => "name = ".toList ++ literal name
  | .notTrashed => "trashed = false".toList

/-- The conditions that the children of a parent fulfil which pass a filter. -/
def conditions (parent : String) (filter : Filter) : List Condition :=
  [.inParents parent, .ofType (filter.kind == .folder) folderType] ++
    (filter.name.map .named).toList ++ [.notTrashed]

/-- Conditions as written: each after the one before it and the word `and`. -/
def joinConditions : List Condition → List Char
  | [] => []
  | [c] => c.chars
  | c :: cs => c.chars ++ " and ".toList ++ joinConditions cs

/-- The query for the children of a parent that pass a filter. -/
def query (parent : String) (filter : Filter) : String :=
  String.ofList (joinConditions (conditions parent filter))

end FolderCopy.Drive
