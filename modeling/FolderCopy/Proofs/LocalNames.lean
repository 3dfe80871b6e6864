import Mathlib.Tactic.SplitIfs
import FolderCopy.Directory
import FolderCopy.LocalName
import FolderCopy.Proofs.FolderPaths

/-!
# Names that stay inside a directory

Every local name is one component of a path and leads neither up nor elsewhere. Its path inside a
directory is that of a direct child, and a file that is written there changes nothing in a directory
tree but this child.
-/

namespace FolderCopy

/-! ## Local names -/

/-- A name that is one component of a path, with no meaning of its own and no character that ends a
component. -/
structure IsComponent (name : String) : Prop where
  ne_empty : name ≠ ""
  ne_dot : name ≠ "."
  ne_dotDot : name ≠ ".."
  chars : ∀ c ∈ name.toList, c ≠ '/' ∧ c ≠ '\\' ∧ c ≠ '\x00'

/-- A character stays as it is unless it is a slash, a backslash or the null character. -/
lemma localChar_eq_self_iff {c : Char} : localChar c = c ↔ c ≠ '/' ∧ c ≠ '\\' ∧ c ≠ '\x00' := by
  unfold localChar
  split
  case isTrue h => rcases h with rfl | rfl | rfl <;> decide
  case isFalse h => simpa using h

/-- A character that has been replaced stays as it is. -/
@[simp]
lemma localChar_localChar (c : Char) : localChar (localChar c) = localChar c := by
  rw [localChar_eq_self_iff]
  unfold localChar
  split
  case isTrue => decide
  case isFalse h => simpa using h

/-- Only a dot becomes a dot. -/
lemma localChar_eq_dot_iff {c : Char} : localChar c = '.' ↔ c = '.' := by
  unfold localChar
  split
  case isTrue h => rcases h with rfl | rfl | rfl <;> decide
  case isFalse => rfl

/-- Replacing characters makes no name reserved. -/
lemma isReserved_map_localChar {cs : List Char} :
    IsReserved (cs.map localChar) ↔ IsReserved cs := by
  match cs with
  | [] | [c] | [c, d] | c :: d :: e :: cs => simp [IsReserved, localChar_eq_dot_iff]

/-- The empty name and those of one and two dots are reserved. -/
lemma isReserved_toList_iff {name : String} :
    IsReserved name.toList ↔ name = "" ∨ name = "." ∨ name = ".." := by
  simp only [IsReserved, ← String.toList_inj]
  rfl

/-- A name is a component exactly if it is not reserved and keeps all of its characters. -/
lemma isComponent_iff {name : String} :
    IsComponent name ↔ ¬ IsReserved name.toList ∧ ∀ c ∈ name.toList, localChar c = c := by
  simp only [isReserved_toList_iff, localChar_eq_self_iff, not_or]
  exact ⟨fun h => ⟨⟨h.ne_empty, h.ne_dot, h.ne_dotDot⟩, h.chars⟩,
    fun h => ⟨h.1.1, h.1.2.1, h.1.2.2, h.2⟩⟩

/-- Every remote name comes to a component. -/
lemma isComponent_localName (name : String) : IsComponent (localName name) := by
  rw [isComponent_iff, toList_localName]
  split
  case isTrue =>
    refine ⟨not_isReserved_cons _, List.forall_mem_cons.2 ⟨rfl, ?_⟩⟩
    simp
  case isFalse h => exact ⟨h, by simp⟩

/-- A component is its own local name. -/
lemma localName_of_isComponent {name : String} (h : IsComponent name) : localName name = name := by
  obtain ⟨hres, hchars⟩ := isComponent_iff.1 h
  have hmap : name.toList.map localChar = name.toList := by
    simpa using List.map_congr_left hchars
  rw [← String.toList_inj, toList_localName, hmap, if_neg hres]

/-- A local name is as long as the name, or longer by an underscore. -/
lemma length_localName (name : String) :
    (localName name).length =
      name.length + if name = "" ∨ name = "." ∨ name = ".." then 1 else 0 := by
  simp only [← String.length_toList, toList_localName, isReserved_map_localChar,
    isReserved_toList_iff]
  split <;> simp

/-! ## Paths of children -/

/-- Whether a path begins at the top of the file system. -/
def IsAbsolute (path : String) : Prop :=
  path.toList.head? = some '/'

instance : DecidablePred IsAbsolute :=
  fun path => inferInstanceAs (Decidable (path.toList.head? = some '/'))

/-- What a path stands for as seen from a directory. An absolute path stands for itself. -/
def pathFrom (directory path : String) : String :=
  if IsAbsolute path then path else joinPath directory path

/-- Whether a path leads to what has a name in a directory: it begins where the path of the
directory does, and goes on by that name alone. -/
structure IsChild (directory name path : String) : Prop where
  component : IsComponent name
  components_eq : Directory.components path = Directory.components directory ++ [name]
  isAbsolute_iff : IsAbsolute path ↔ IsAbsolute directory

/-- The components of a path are its names. -/
lemma Directory.components_eq_names (path : String) : components path = FolderPath.names path := by
  rw [FolderPath.names, FolderPath.runs_eq_splitOn]
  rfl

section Children

variable {directory name path : String}

/-- A component has no slash. -/
lemma IsComponent.no_slash (h : IsComponent name) : '/' ∉ name.toList :=
  fun hc => (h.chars '/' hc).1 rfl

/-- A component is no absolute path. -/
lemma IsComponent.not_isAbsolute (h : IsComponent name) : ¬ IsAbsolute name :=
  fun ha => h.no_slash (List.mem_of_head? ha)

/-- A component is the one name in it. -/
lemma IsComponent.names_eq (h : IsComponent name) : FolderPath.names name = [name] := by
  have hne : name.toList ≠ [] := fun he => h.ne_empty (String.toList_eq_nil_iff.1 he)
  rw [FolderPath.names, FolderPath.runs_of_not_mem h.no_slash, if_neg hne]
  simp

/-- A component is no absolute path, so it stands for what is under the directory. -/
lemma pathFrom_of_isComponent (h : IsComponent name) :
    pathFrom directory name = joinPath directory name :=
  if_neg h.not_isAbsolute

/-- A joined path has the names of the directory and then those of the name. -/
lemma names_joinPath (directory name : String) :
    FolderPath.names (joinPath directory name) =
      FolderPath.names directory ++ FolderPath.names name := by
  unfold joinPath
  split
  case h_1 hlast =>
    have hdir : directory.toList = [] := List.getLast?_eq_none_iff.1 hlast
    rw [FolderPath.names, FolderPath.names, hdir]
    rfl
  case h_2 c hlast =>
    split
    case isTrue hc =>
      obtain ⟨init, hinit⟩ := List.getLast?_eq_some_iff.1 (hc ▸ hlast)
      have hdir : directory = String.ofList init ++ "/" ++ "" := by
        rw [← String.toList_inj, hinit]
        simp
      -- The slash at the end of the directory parts it from the name, and from nothing.
      have hempty : FolderPath.names "" = [] := rfl
      rw [hdir, FolderPath.names_append_slash, hempty, List.append_nil, String.append_empty,
        FolderPath.names_append_slash]
    case isFalse => exact FolderPath.names_append_slash directory name

/-- A joined path is absolute exactly if the directory is. -/
lemma isAbsolute_joinPath (h : IsComponent name) :
    IsAbsolute (joinPath directory name) ↔ IsAbsolute directory := by
  unfold joinPath
  split
  case h_1 hlast =>
    have hdir : ¬ IsAbsolute directory := by simp [IsAbsolute, List.getLast?_eq_none_iff.1 hlast]
    exact iff_of_false h.not_isAbsolute hdir
  case h_2 c hlast =>
    have hhead (rest : String) : IsAbsolute (directory ++ rest) ↔ IsAbsolute directory := by
      cases hd : directory.toList with
      | nil => simp [hd] at hlast
      | cons => simp [IsAbsolute, String.toList_append, hd]
    split
    · exact hhead name
    · rw [String.append_assoc]
      exact hhead ("/" ++ name)

/-- A component names a direct child of every directory. -/
lemma isChild_joinPath (h : IsComponent name) :
    IsChild directory name (joinPath directory name) where
  component := h
  components_eq := by
    rw [Directory.components_eq_names, Directory.components_eq_names, names_joinPath, h.names_eq]
  isAbsolute_iff := isAbsolute_joinPath h

end Children

/-! ## Files of children -/

section Trees

variable {d : Directory} {p : Directory.Place} {directory name path last : String}

/-- What holds the last name of a path is found under the names before it, and is a folder. -/
lemma Directory.holder_eq_ok {names : List String} (h : d.holder (names ++ [name]) = .ok p) :
    d.find names = .ok p ∧ p.node.isFolder := by
  rw [holder, List.dropLast_concat] at h
  cases hfind : d.find names with
  | error e =>
    rw [hfind] at h
    cases h
  | ok q =>
    rw [hfind] at h
    simp only [bind, Except.bind] at h
    split_ifs at h with hq
    cases h
    exact ⟨rfl, hq⟩

/-- The file that a path opens has the last name of the path, in the folder above. -/
lemma Directory.opens_eq_ok (h : d.opens path = .ok (p, last)) :
    (components path).getLast? = some last ∧ d.holder (components path) = .ok p := by
  unfold opens at h
  split at h
  case h_1 => cases h
  case h_2 => cases h
  case h_3 last' hfault hsome =>
    cases hholder : d.holder (components path) with
    | error e =>
      rw [hholder] at h
      cases h
    | ok q =>
      rw [hholder] at h
      simp only [bind, Except.bind] at h
      split_ifs at h
      cases h
      exact ⟨hsome, rfl⟩

/-- A file that is opened under the path of a child is one of that name in the directory itself. -/
lemma IsChild.of_opens (h : IsChild directory name path) (ho : d.opens path = .ok (p, last)) :
    last = name ∧ d.find (Directory.components directory) = .ok p ∧ p.node.isFolder := by
  obtain ⟨hlast, hholder⟩ := Directory.opens_eq_ok ho
  rw [h.components_eq, List.getLast?_concat] at hlast
  rw [h.components_eq] at hholder
  exact ⟨(Option.some.inj hlast).symm, Directory.holder_eq_ok hholder⟩

/-- Writing a file under the path of a child sets that child, or nothing at all. -/
lemma IsChild.write_eq (h : IsChild directory name path) (content : Bytes) :
    (d.write path content).2 = d ∨
      ∃ p, d.find (Directory.components directory) = .ok p ∧ p.node.isFolder ∧
        (d.write path content).2 = ⟨(p.setChild name (.file content)).root⟩ := by
  unfold Directory.write
  split
  case h_1 => exact .inl rfl
  case h_2 p last ho =>
    obtain ⟨rfl, hp, hfolder⟩ := h.of_opens ho
    exact .inr ⟨p, hp, hfolder, rfl⟩

end Trees

end FolderCopy
