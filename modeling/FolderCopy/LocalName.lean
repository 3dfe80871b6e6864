/-!
# Local names

The name and path that a remote file is stored under. Separators and NUL become underscores and
names with a meaning of their own get one in front, so every remote name becomes one path component.
-/

namespace FolderCopy

/-- A character of a remote name as it may stand in a local one. -/
def localChar (c : Char) : Char :=
  if c = '/' ∨ c = '\\' ∨ c = '\x00' then '_' else c

/-- The local name of a remote name. -/
def localName (name : String) : String :=
  let cleaned := name.toList.map localChar
  if cleaned = [] ∨ cleaned = ['.'] ∨ cleaned = ['.', '.'] then String.ofList ('_' :: cleaned)
  else String.ofList cleaned

/-- The path of a name inside a directory. A directory without a name, or one that ends in a slash,
needs no slash between. -/
def joinPath (directory name : String) : String :=
  match directory.toList.getLast? with
  | none => name
  | some c => if c = '/' then directory ++ name else directory ++ "/" ++ name

/-- Whether the characters of a name have a meaning of their own as a path component. -/
def IsReserved (cs : List Char) : Prop :=
  cs = [] ∨ cs = ['.'] ∨ cs = ['.', '.']

instance : DecidablePred IsReserved :=
  fun cs => inferInstanceAs (Decidable (cs = [] ∨ cs = ['.'] ∨ cs = ['.', '.']))

/-- A name with an underscore in front has no meaning of its own. -/
theorem not_isReserved_cons (cs : List Char) : ¬ IsReserved ('_' :: cs) := by
  simp [IsReserved]

/-- Whether two remote names differ in characters that are replaced at most, or in the underscore
that one of them gets in front. -/
def Namesakes (a b : String) : Prop :=
  a.toList.map localChar = b.toList.map localChar ∨
    (IsReserved (a.toList.map localChar) ∧ b.toList.map localChar = '_' :: a.toList.map localChar) ∨
    (IsReserved (b.toList.map localChar) ∧ a.toList.map localChar = '_' :: b.toList.map localChar)

instance : DecidableRel Namesakes :=
  fun _ _ => inferInstanceAs (Decidable (_ ∨ _ ∨ _))

/-- The characters of a local name: a reserved one is set apart by an underscore. -/
theorem toList_localName (name : String) :
    (localName name).toList =
      if IsReserved (name.toList.map localChar) then '_' :: name.toList.map localChar
      else name.toList.map localChar := by
  unfold localName
  exact (apply_ite String.toList _ _ _).trans (by simp only [String.toList_ofList]; rfl)

/-- Remote names have one local name where they are namesakes and nowhere else. -/
theorem localName_eq_iff {a b : String} : localName a = localName b ↔ Namesakes a b := by
  rw [← String.toList_inj, toList_localName, toList_localName, Namesakes]
  generalize a.toList.map localChar = cs
  generalize b.toList.map localChar = ds
  -- A cleaned name that got an underscore is not itself reserved, so at most one of two different
  -- names did.
  by_cases hc : IsReserved cs <;> by_cases hd : IsReserved ds
  · have hcd : ds ≠ '_' :: cs := fun h => not_isReserved_cons cs (h ▸ hd)
    have hdc : cs ≠ '_' :: ds := fun h => not_isReserved_cons ds (h ▸ hc)
    simp [hc, hd, hcd, hdc]
  · have hne : cs ≠ ds := fun h => hd (h ▸ hc)
    simp [hc, hd, hne, eq_comm]
  · have hne : cs ≠ ds := fun h => hc (h ▸ hd)
    simp [hc, hd, hne]
  · simp [hc, hd]

/-- Inside one directory different names have different paths. -/
theorem joinPath_inj {directory a b : String} (h : joinPath directory a = joinPath directory b) :
    a = b := by
  unfold joinPath at h
  split at h
  · exact h
  · split at h
    all_goals
      have h := congrArg String.toList h
      simp only [String.toList_append, List.append_cancel_left_eq] at h
      exact String.toList_inj.1 h

end FolderCopy
