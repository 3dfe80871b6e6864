import Mathlib.Algebra.BigOperators.Group.List.Basic
import Mathlib.Algebra.GroupWithZero.Nat
import Mathlib.Data.List.Induction

/-!
# Counting in a list

Downloads, the callers of a limiter and operations stand in lists, one of which goes on at a time.
So what is counted or summed up of a list changes by what is put into it in place of another thing.
-/

namespace FolderCopy

variable {α : Type} {as : List α} {i : Nat} {a : α}

/-- A count changes with one of the things that are counted. -/
lemma countP_set_add {p : α → Bool} (b : α) (h : as[i]? = some a) :
    (as.set i b).countP p + (p a).toNat = as.countP p + (p b).toNat := by
  obtain ⟨hi, rfl⟩ := List.getElem?_eq_some_iff.1 h
  have hle := List.boole_getElem_le_countP (p := p) hi
  rw [List.countP_set hi]
  cases hb : p as[i] <;> cases hb' : p b <;>
    simp only [hb, if_true, if_false, Bool.toNat_true, Bool.toNat_false,
      Bool.false_eq_true] at hle ⊢ <;>
    omega

/-- To replace an item by one that counts alike leaves the count. -/
lemma countP_set_of_eq {p : α → Bool} {b : α} (h : as[i]? = some a) (hp : p b = p a) :
    (as.set i b).countP p = as.countP p := by
  have hset := countP_set_add (p := p) b h
  rw [hp] at hset
  exact Nat.add_right_cancel hset

/-- A sum changes with one of its terms. -/
lemma sum_map_set (f : α → Nat) (b : α) (h : as[i]? = some a) :
    ((as.set i b).map f).sum + f a = (as.map f).sum + f b := by
  induction as generalizing i with
  | nil => cases h
  | cons c as ih =>
    cases i with
    | zero =>
      cases h
      simp only [List.set_cons_zero, List.map_cons, List.sum_cons]
      omega
    | succ i =>
      have := ih h
      simp only [List.set_cons_succ, List.map_cons, List.sum_cons]
      omega

/-- The elements of a list can be counted by their places. -/
lemma countP_range_getElem? (p : α → Bool) (as : List α) :
    (List.range as.length).countP (fun i => as[i]?.any p) = as.countP p := by
  induction as using List.reverseRecOn with
  | nil => rfl
  | append_singleton as a ih =>
    have hbefore : (List.range as.length).countP (fun i => (as ++ [a])[i]?.any p) =
        (List.range as.length).countP (fun i => as[i]?.any p) := by
      apply List.countP_congr
      intro i hi
      rw [List.getElem?_append_left (List.mem_range.1 hi)]
    rw [List.length_append, List.length_singleton, List.range_succ, List.countP_append,
      List.countP_append, hbefore, ih]
    simp [List.countP_singleton]

end FolderCopy
