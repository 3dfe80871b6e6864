import FolderCopy.Text.Utf8

/-!
# Stored files

What local files hold, by path. Opening a file for writing empties it and writing adds at its end.
-/

namespace FolderCopy

/-- The content of each local file, in the order in which the files were first opened. -/
structure Disk where
  files : List (String × Bytes) := []
  deriving DecidableEq, Repr

namespace Disk

/-- Sets the content of a path. -/
def put (path : String) (content : Bytes) : List (String × Bytes) → List (String × Bytes)
  | [] => [(path, content)]
  | (p, c) :: rest => if p = path then (p, content) :: rest else (p, c) :: put path content rest

/-- The content of a file. -/
def read? (d : Disk) (path : String) : Option Bytes :=
  (d.files.find? (·.1 == path)).map (·.2)

/-- Opens a file for writing. -/
def truncate (d : Disk) (path : String) : Disk :=
  ⟨put path [] d.files⟩

/-- Adds bytes at the end of a file. -/
def append (d : Disk) (path : String) (bytes : Bytes) : Disk :=
  ⟨put path ((d.read? path).getD [] ++ bytes) d.files⟩

/-- A file that is put is found under its path, and what is found under other paths stays. -/
theorem find?_put (path q : String) (content : Bytes) (fs : List (String × Bytes)) :
    ((put path content fs).find? (·.1 == q)).map (·.2) =
      if q = path then some content else (fs.find? (·.1 == q)).map (·.2) := by
  induction fs with
  | nil =>
    by_cases h : q = path
    · simp [put, h]
    · have : ¬ path = q := fun he => h he.symm
      simp [put, h, this]
  | cons f fs ih =>
    obtain ⟨p, c⟩ := f
    by_cases hp : p = path
    · by_cases hq : q = path
      · simp [put, hp, hq]
      · have : ¬ path = q := fun he => hq he.symm
        simp [put, hp, hq, this]
    · by_cases hq : p = q
      · have : ¬ q = path := fun he => hp (hq.trans he)
        simp [put, hq, this]
      · simp [put, hp, hq, ih]

/-- Opening empties the file and leaves every other one alone. -/
theorem read?_truncate (d : Disk) (path q : String) :
    (d.truncate path).read? q = if q = path then some [] else d.read? q :=
  find?_put path q [] d.files

/-- Writing adds to the file and leaves every other one alone. -/
theorem read?_append (d : Disk) (path q : String) (bytes : Bytes) :
    (d.append path bytes).read? q =
      if q = path then some ((d.read? path).getD [] ++ bytes) else d.read? q :=
  find?_put path q _ d.files

end Disk

end FolderCopy
