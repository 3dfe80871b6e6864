import FolderCopy.CallError
import FolderCopy.Text.Utf8

/-!
# A scripted file system

How the creation of directories and the writing of local files come out.
-/

namespace FolderCopy.Simulation

/-- The script of one local file. -/
structure FileScript where
  openError : Option CallError := none
  /-- The most bytes that are taken at a time. -/
  takes : Option Nat := none
  /-- The number of bytes in the file from which on a write fails, and the message. -/
  full : Option (Nat × String) := none
  closeError : Option String := none
  deriving Repr

/-- Writes all of some bytes to a file that holds `held` bytes already; on an error says how many
were stored before it. -/
def FileScript.write (f : FileScript) (held : Nat) (bytes : Bytes) :
    Except (Nat × String) Unit :=
  if bytes.isEmpty then .ok ()
  else
    match f.full with
    | some (limit, m) =>
      if limit ≤ held then .error (0, m)
      else if f.takes = some 0 then .error (0, stuck)
      else if bytes.length ≤ limit - held then .ok ()
      else .error (limit - held, m)
    | none => if f.takes = some 0 then .error (0, stuck) else .ok ()
where
  /-- What is said when a write takes nothing. -/
  stuck : String := "write zero"

/-- The scripts of local files, by path. -/
structure Files where
  directoryError : Option CallError := none
  scripts : List (String × FileScript) := []
  deriving Repr

/-- The script of a path. -/
def Files.script (fs : Files) (path : String) : FileScript :=
  ((fs.scripts.find? (·.1 == path)).map (·.2)).getD {}

end FolderCopy.Simulation
