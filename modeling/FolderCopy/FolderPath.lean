import FolderCopy.CopyError

/-!
# Folder paths

The names that lead from the top of the remote store to a folder. A path is written with slashes;
leading, trailing and repeated slashes mean nothing.
-/

namespace FolderCopy

/-- A path of at least one name; no name is empty or holds a slash. -/
structure FolderPath where
  segments : List String
  nonempty : segments ≠ []
  clean : ∀ s ∈ segments, s ≠ "" ∧ '/' ∉ s.toList

namespace FolderPath

/-- A finished run of characters, given back to front; an empty one is dropped. -/
def flush (run : List Char) : List (List Char) :=
  if run.isEmpty then [] else [run.reverse]

/-- The maximal runs without slash, where `run` (back to front) has been read already. -/
def runsFrom (run : List Char) : List Char → List (List Char)
  | [] => flush run
  | c :: cs => if c = '/' then flush run ++ runsFrom [] cs else runsFrom (c :: run) cs

/-- The maximal runs without slash of a character list. -/
def runs (cs : List Char) : List (List Char) :=
  runsFrom [] cs

/-- What a run that ends here comes to: the run itself, unless it is empty. -/
theorem mem_flush {run r : List Char} : r ∈ flush run ↔ run ≠ [] ∧ r = run.reverse := by
  cases run <;> simp [flush]

/-- Runs are not empty and hold no slash. -/
theorem mem_runsFrom {run cs r : List Char} (h : '/' ∉ run) (hr : r ∈ runsFrom run cs) :
    r ≠ [] ∧ '/' ∉ r := by
  have ofFlush : ∀ {run : List Char}, '/' ∉ run → r ∈ flush run → r ≠ [] ∧ '/' ∉ r := by
    intro run h hr
    obtain ⟨hne, rfl⟩ := mem_flush.1 hr
    simpa using ⟨hne, h⟩
  induction cs generalizing run with
  | nil => exact ofFlush h hr
  | cons c cs ih =>
    by_cases hc : c = '/'
    · simp only [runsFrom, hc, if_true, List.mem_append] at hr
      exact hr.elim (ofFlush h) (ih (by simp))
    · simp only [runsFrom, hc, if_false] at hr
      exact ih (by simp [h, Ne.symm hc]) hr

/-- The names in a written path. -/
def names (s : String) : List String :=
  (runs s.toList).map String.ofList

/-- Names are not empty and hold no slash. -/
theorem mem_names {s n : String} (h : n ∈ names s) : n ≠ "" ∧ '/' ∉ n.toList := by
  obtain ⟨r, hr, rfl⟩ := List.mem_map.1 h
  have := mem_runsFrom (by simp) hr
  constructor
  · intro he
    exact this.1 (by simpa using congrArg String.toList he)
  · simpa using this.2

/-- The error for a path without names. -/
def noSegments (s : String) : CopyError :=
  .fatal s!"Folder path '{s}' has no segments"

/-- Reads a path; it must hold a name. -/
def parse (s : String) : Except CopyError FolderPath :=
  if h : names s = [] then .error (noSegments s)
  else .ok ⟨names s, h, fun _ => mem_names⟩

/-- The path with single slashes between its names. -/
def display (p : FolderPath) : String :=
  String.intercalate "/" p.segments

end FolderPath

end FolderCopy
