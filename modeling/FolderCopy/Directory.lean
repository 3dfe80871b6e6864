import FolderCopy.CallError
import FolderCopy.Log.Event
import FolderCopy.Text.Quoted
import FolderCopy.Text.Utf8

/-!
# Local directories

A directory tree under one base directory, with the two things that a transfer does to it: creating
a directory with all directories above it, and writing a file. A path is a list of names with
slashes; `.` stays and `..` goes up, not beyond the base.
-/

namespace FolderCopy

namespace Directory

/-- What a name in a directory tree stands for. -/
inductive Node where
  | file (content : Bytes)
  | folder (children : List (String × Node))
  deriving Repr

namespace Node

/-- A folder with nothing in it. -/
def bare : Node :=
  .folder []

/-- Whether a node is a folder. -/
def isFolder : Node → Bool
  | .file _ => false
  | .folder _ => true

/-- The names and nodes in a folder; a file has none. -/
def children : Node → List (String × Node)
  | .file _ => []
  | .folder cs => cs

/-- The node of a name in a folder. -/
def child? (n : Node) (name : String) : Option Node :=
  (n.children.find? (·.1 == name)).map (·.2)

/-- The folder with a node under a name, in place of the one that was there. -/
def setChild (n : Node) (name : String) (child : Node) : Node :=
  .folder ((name, child) :: n.children.filter (·.1 != name))

/-- A node that was set is found under its name, and all other names are left alone. -/
theorem child?_setChild (n : Node) (name other : String) (child : Node) :
    (n.setChild name child).child? other = if other = name then some child else n.child? other := by
  simp only [child?, setChild, children]
  by_cases h : other = name
  · simp [h]
  · have hne : ¬ name = other := fun e => h e.symm
    simp only [hne, h, if_false, beq_iff_eq, not_false_eq_true, List.find?_cons_of_neg]
    rw [List.find?_filter]
    congr 2
    funext c
    by_cases hc : c.1 = other
    · simp [hc, h]
    · simp [hc]

end Node

/-- A place in a tree: the node there, and each folder above it with the name that leads down from
it, the nearest one first. -/
structure Place where
  node : Node
  above : List (String × Node) := []
  deriving Repr

namespace Place

/-- The place above; above the base is the base. -/
def up (p : Place) : Place :=
  match p.above with
  | [] => p
  | (_, parent) :: rest => ⟨parent, rest⟩

/-- The place under a name. -/
def down? (p : Place) (name : String) : Option Place :=
  (p.node.child? name).map fun n => ⟨n, (name, p.node) :: p.above⟩

/-- The tree with the node of a place as it is now. -/
def root (p : Place) : Node :=
  p.above.foldl (fun n f => f.2.setChild f.1 n) p.node

/-- Sets a node under a name. -/
def setChild (p : Place) (name : String) (child : Node) : Place :=
  { p with node := p.node.setChild name child }

end Place

end Directory

/-- A directory tree. The base is a folder. -/
structure Directory where
  base : Directory.Node := .bare
  deriving Repr

namespace Directory

/-- Why a file or directory cannot be used. -/
inductive Trouble where
  | missing
  | present
  | notDirectory
  | isDirectory
  | nameTooLong
  | badName
  deriving DecidableEq, Repr

/-- What is said about a trouble. -/
def Trouble.message : Trouble → String
  | .missing => "No such file or directory (os error 2)"
  | .present => "File exists (os error 17)"
  | .notDirectory => "Not a directory (os error 20)"
  | .isDirectory => "Is a directory (os error 21)"
  | .nameTooLong => "File name too long (os error 36)"
  | .badName => "file name contained an unexpected NUL byte"

/-- The most bytes that a name may have. -/
def nameLimit : Nat :=
  255

/-- The most bytes that a path may have, from the top of the file system on. -/
def pathLimit : Nat :=
  4095

/-- The bytes of the path of the base directory. -/
def baseLength : Nat :=
  15

/-- The names in a path; empty ones mean nothing. -/
def components (path : String) : List String :=
  ((path.toList.splitOn '/').filter (!·.isEmpty)).map String.ofList

/-- Whether a path ends in a slash, or is empty. -/
def endsOpen (path : String) : Bool :=
  match path.toList.getLast? with
  | none => true
  | some c => c == '/'

/-- What is wrong with a path whatever the tree holds: a character that no name may have, or too
many bytes. -/
def fault? (path : String) : Option Trouble :=
  if path.toList.contains '\x00' then some .badName
  else if pathLimit < baseLength + 1 + path.utf8ByteSize then some .nameTooLong
  else none

/-- Follows the components of a path from a place on. -/
def walk (p : Place) : List String → Except Trouble Place
  | [] => .ok p
  | c :: rest =>
    if !p.node.isFolder then .error .notDirectory
    else if c = "." then walk p rest
    else if c = ".." then walk p.up rest
    else if nameLimit < c.utf8ByteSize then .error .nameTooLong
    else
      match p.down? c with
      | none => .error .missing
      | some q => walk q rest

/-- The place that a path leads to. -/
def find (d : Directory) (path : List String) : Except Trouble Place :=
  walk ⟨d.base, []⟩ path

/-- The folder that holds the last component of a path. -/
def holder (d : Directory) (path : List String) : Except Trouble Place := do
  let p ← d.find path.dropLast
  if p.node.isFolder then .ok p else .error .notDirectory

/-- Makes one directory. -/
def make (d : Directory) (path : List String) : Except Trouble Directory :=
  match path.getLast? with
  | none => .error .present
  | some last => do
    let p ← d.holder path
    if last = "." ∨ last = ".." then .error .present
    else if nameLimit < last.utf8ByteSize then .error .nameTooLong
    else if (p.node.child? last).isSome then .error .present
    else .ok ⟨(p.setChild last .bare).root⟩

/-- Whether a path leads to a directory. -/
def leadsToDir (d : Directory) (path : List String) : Bool :=
  match d.find path with
  | .ok p => p.node.isFolder
  | .error _ => false

/-- A failed making of a directory that is there is none. -/
def makeOrKeep (d : Directory) (path : List String) : Except Trouble Directory :=
  match d.make path with
  | .error e => if d.leadsToDir path then .ok d else .error e
  | made => made

/-- Makes a directory and those above it, `n` levels at most. What was made before a trouble stays.
-/
def makeAll (d : Directory) (path : List String) : (n : Nat) → Directory × Except Trouble Unit
  | 0 => (d, .error .missing)
  | n + 1 =>
    match d.makeOrKeep path with
    | .ok d => (d, .ok ())
    | .error .missing =>
      match d.makeAll (path.filter (· ≠ ".")).dropLast n with
      | (d, .error e) => (d, .error e)
      | (d, .ok ()) =>
        match d.makeOrKeep path with
        | .ok d => (d, .ok ())
        | .error e => (d, .error e)
    | .error e => (d, .error e)

/-- The call error that a trouble is reported as. -/
def report (r : Except Trouble Unit) : Except CallError Unit :=
  r.mapError fun e => .io e.message

/-- Creates the directory of a path and all directories above it. -/
def createAll (d : Directory) (path : String) : Except CallError Unit × Directory :=
  match fault? path with
  | some e => (report (.error e), d)
  | none =>
    let names := components path
    let (d, r) := d.makeAll names (names.length + 1)
    (report r, d)

/-- The folder and the name of the file that a path opens for writing. -/
def opens (d : Directory) (path : String) : Except Trouble (Place × String) :=
  match fault? path, (components path).getLast? with
  | some e, _ => .error e
  | none, none => .error .isDirectory
  | none, some last => do
    let p ← d.holder (components path)
    if last = "." ∨ last = ".." ∨ endsOpen path then .error .isDirectory
    else if nameLimit < last.utf8ByteSize then .error .nameTooLong
    else if (p.node.child? last).any (·.isFolder) then .error .isDirectory
    else .ok (p, last)

/-- Writes a file from its start on. -/
def write (d : Directory) (path : String) (content : Bytes) : Except CallError Unit × Directory :=
  match d.opens path with
  | .error e => (report (.error e), d)
  | .ok (p, last) => (.ok (), ⟨(p.setChild last (.file content)).root⟩)

/-- What a path leads to. -/
inductive Found where
  /-- A directory, with the names in it in ascending order. -/
  | directory (names : List String)
  | file (content : Bytes)
  | nothing

/-- Looks a path up. -/
def look (d : Directory) (path : String) : Found :=
  if (fault? path).isSome then .nothing
  else
    match d.find (components path) with
    | .error _ => .nothing
    | .ok p =>
      match p.node with
      | .file content => if endsOpen path then .nothing else .file content
      | .folder children =>
        .directory ((children.map (·.1)).mergeSort fun a b => decide (a ≤ b))

/-- What is reported about a directory that was created. -/
def created (path : String) : Log.Event :=
  Log.Component.fileSystem.event .debug "Created directory" [("path", Text.quotedPath path)]

/-- What is reported about a file that was opened. -/
def openedFile (path : String) : Log.Event :=
  Log.Component.fileSystem.event .debug "Opened file for writing"
    [("path", Text.quotedPath path)]

end Directory

end FolderCopy
