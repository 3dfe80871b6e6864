import Mathlib.Data.List.Induction
import FolderCopy.Proofs.Json.Rendering

/-!
# Values that are read back

A value with the members of its objects in order and with integers of 64 bits for numbers is read
back from its tree, as far as its containers may be nested. Every value that is read keeps to this,
but for numbers that are no such integers. Main statements: `Regular.value?_eq`,
`regular_of_value?`.
-/

namespace FolderCopy.Json

section Members

variable {α : Type} {key : String} {value : α} {ms ps : List (String × α)}

/-- Whether keys ascend, each once. -/
def Ascending (ms : List (String × α)) : Prop :=
  ms.Pairwise fun m n => m.1 < n.1

/-- What is there after a member has been set is this member, or was there before. -/
lemma mem_put {m : String × α} (h : m ∈ put key value ms) : m = (key, value) ∨ m ∈ ms := by
  induction ms with
  | nil => exact .inl (List.mem_singleton.1 h)
  | cons n ms ih =>
    rw [put] at h
    split at h
    · exact List.mem_cons.1 h
    · split at h
      · exact (List.mem_cons.1 h).imp_right (List.mem_cons_of_mem n)
      · rcases List.mem_cons.1 h with rfl | h
        · exact .inr List.mem_cons_self
        · exact (ih h).imp_right (List.mem_cons_of_mem n)

/-- To set a member keeps the keys ascending. -/
lemma Ascending.put (h : Ascending ms) : Ascending (Json.put key value ms) := by
  induction ms with
  | nil => exact List.pairwise_singleton _ _
  | cons n ms ih =>
    obtain ⟨hn, hms⟩ := List.pairwise_cons.1 h
    rw [Json.put]
    split
    case isTrue hlt =>
      refine List.pairwise_cons.2 ⟨?_, h⟩
      intro m hm
      rcases List.mem_cons.1 hm with rfl | hm
      · exact hlt
      · exact String.lt_trans hlt (hn m hm)
    case isFalse hnot =>
      split
      case isTrue heq => exact List.pairwise_cons.2 ⟨fun m hm => heq ▸ hn m hm, hms⟩
      case isFalse hne =>
        refine List.pairwise_cons.2 ⟨?_, ih hms⟩
        intro m hm
        rcases mem_put hm with rfl | hm
        · -- The key is neither before the first one nor the same, so it is behind it.
          exact Decidable.byContradiction fun hge =>
            hne (String.le_antisymm (String.not_lt.1 hge) (String.not_lt.1 hnot))
        · exact hn m hm

/-- Pairs in any order come to members in order, all of them among the pairs. -/
lemma ascending_ofPairs (ps : List (String × α)) :
    Ascending (ofPairs ps) ∧ ∀ m ∈ ofPairs ps, m ∈ ps := by
  induction ps using List.reverseRecOn with
  | nil => exact ⟨.nil, nofun⟩
  | append_singleton ps p ih =>
    rw [ofPairs, List.foldl_append]
    refine ⟨ih.1.put, ?_⟩
    intro m hm
    rcases mem_put hm with rfl | hm
    · exact List.mem_append_right ps (List.mem_singleton_self _)
    · exact List.mem_append_left [p] (ih.2 m hm)

/-- To set a member under a new key adds it. -/
lemma put_perm (h : key ∉ ms.map Prod.fst) : (put key value ms).Perm ((key, value) :: ms) := by
  induction ms with
  | nil => exact .refl _
  | cons n ms ih =>
    obtain ⟨hn, hms⟩ : key ≠ n.1 ∧ key ∉ ms.map Prod.fst := by simpa using h
    rw [put, if_neg hn]
    split
    case isTrue => exact .refl _
    case isFalse => exact ((ih hms).cons n).trans (.swap (key, value) n ms)

/-- Pairs with different keys are all kept. -/
lemma ofPairs_perm (h : (ps.map Prod.fst).Nodup) : (ofPairs ps).Perm ps := by
  induction ps using List.reverseRecOn with
  | nil => exact .refl _
  | append_singleton ps p ih =>
    rw [List.map_append, List.map_singleton, List.nodup_append] at h
    have hps := ih h.1
    have hkey : p.1 ∉ (ofPairs ps).map Prod.fst := fun hm =>
      h.2.2 p.1 ((hps.map Prod.fst).mem_iff.1 hm) p.1 (List.mem_singleton_self _) rfl
    rw [ofPairs, List.foldl_append]
    exact (put_perm hkey).trans ((hps.cons p).trans (List.perm_append_singleton p ps).symm)

/-- Members in order are what their pairs come to, in whichever order these are. -/
lemma Ascending.ofPairs_eq (h : Ascending ms) (hp : ps.Perm ms) : ofPairs ps = ms := by
  have hnodup : (ms.map Prod.fst).Nodup :=
    List.pairwise_map.2 (h.imp String.ne_of_lt)
  have hperm := ofPairs_perm ((hp.map Prod.fst).nodup_iff.2 hnodup)
  refine (hperm.trans hp).eq_of_pairwise ?_ (ascending_ofPairs ps).1 h
  exact fun m n _ _ hmn hnm => absurd hnm (String.lt_asymm hmn)

end Members

section Numbers

/-- A numeral that was written for an integer is this integer. -/
lemma int?_ofInt (n : Int) : (Numeral.ofInt n).int? = some n := by
  have hvalue : Text.digitsValue (Nat.toDigits 10 n.natAbs) = n.natAbs :=
    Nat.ofDigitChars_ten_toDigits
  have hnone : ((none : Option (List Char)).isSome ||
      (none : Option (Option Char × List Char)).isSome) = false := rfl
  simp only [Numeral.int?, Numeral.ofInt, hvalue, hnone, Bool.false_eq_true, if_false,
    decide_eq_true_eq]
  split
  case isTrue hneg => rw [if_neg (by omega), Int.ofNat_natAbs_of_nonpos (by omega), Int.neg_neg]
  case isFalse hnot => rw [Int.natAbs_of_nonneg (by omega)]

/-- Every count of 64 bits is read as it was written. -/
lemma count?_tree {n : Nat} (h : n ≤ maxCount) : (Json.int n).tree.count? = some n := by
  show (Numeral.ofInt n).count? = some n
  rw [Numeral.count?, int?_ofInt]
  exact if_pos h

/-- Every integer of 64 bits with a sign is read as it was written. -/
lemma signed?_tree {n : Int} (h : minInt ≤ n ∧ n ≤ maxInt) :
    (Json.int n).tree.signed? = some n := by
  show (Numeral.ofInt n).signed? = some n
  rw [Numeral.signed?, int?_ofInt]
  exact if_pos h

/-- A count that is read has 64 bits. -/
lemma le_of_count? {t : Tree} {n : Nat} (h : t.count? = some n) : n ≤ maxCount := by
  cases t with
  | number m =>
    simp only [Tree.count?, Numeral.count?] at h
    split at h
    · split at h <;> cases h
      assumption
    · cases h
  | _ => cases h

/-- An integer that is read has 64 bits with its sign. -/
lemma bounds_of_signed? {t : Tree} {n : Int} (h : t.signed? = some n) :
    minInt ≤ n ∧ n ≤ maxInt := by
  cases t with
  | number m =>
    simp only [Tree.signed?, Numeral.signed?] at h
    split at h
    · split at h <;> cases h
      assumption
    · cases h
  | _ => cases h

end Numbers

/-- Whether the numbers in a value are integers. -/
inductive Integral : Json → Prop where
  | null : Integral .null
  | bool (b : Bool) : Integral (.bool b)
  | int (n : Int) : Integral (.int n)
  | text (s : String) : Integral (.text s)
  | array {items : List Json} (h : ∀ v ∈ items, Integral v) : Integral (.array items)
  | object {ms : List (String × Json)} (h : ∀ m ∈ ms, Integral m.2) : Integral (.object ms)

/-- Whether a value nests at most so many containers, has the members of its objects in order, and
integers of 64 bits for numbers. -/
inductive Regular : (depth : Nat) → Json → Prop where
  | null {d} : Regular d .null
  | bool {d} (b : Bool) : Regular d (.bool b)
  | int {d} {n : Int} (h : minInt ≤ n ∧ n ≤ maxCount) : Regular d (.int n)
  | text {d} (s : String) : Regular d (.text s)
  | array {d} {items : List Json} (h : ∀ v ∈ items, Regular d v) : Regular (d + 1) (.array items)
  | object {d} {ms : List (String × Json)} (hms : Ascending ms) (h : ∀ m ∈ ms, Regular d m.2) :
    Regular (d + 1) (.object ms)

section Reading

variable {d : Nat} {v : Json}

/-- Items can be written if each of them can. -/
lemma itemsWritable_of_forall {items : List Json} (h : ∀ v ∈ items, v.IsWritable) :
    ItemsWritable items := by
  induction items with
  | nil => trivial
  | cons v vs ih =>
    exact ⟨h v List.mem_cons_self, ih fun v' hv' => h v' (List.mem_cons_of_mem v hv')⟩

/-- Members can be written if each of their values can. -/
lemma membersWritable_of_forall {ms : List (String × Json)} (h : ∀ m ∈ ms, m.2.IsWritable) :
    MembersWritable ms := by
  induction ms with
  | nil => trivial
  | cons m ms ih =>
    exact ⟨h m List.mem_cons_self, ih fun m' hm' => h m' (List.mem_cons_of_mem m hm')⟩

/-- A regular value can be written. -/
lemma Regular.isWritable (h : Regular d v) : v.IsWritable := by
  induction h with
  | null | bool | int | text => trivial
  | array h ih => exact itemsWritable_of_forall ih
  | object hms h ih => exact membersWritable_of_forall ih

/-- Items are read as values one by one. -/
lemma itemValues?_itemTrees {items : List Json} (h : ∀ v ∈ items, v.tree.value? d = some v) :
    Tree.itemValues? d (itemTrees items) = some items := by
  induction items with
  | nil => rfl
  | cons v vs ih =>
    rw [itemTrees, Tree.itemValues?, h v List.mem_cons_self,
      ih fun v' hv' => h v' (List.mem_cons_of_mem v hv')]
    rfl

/-- Members are read as values one by one. -/
lemma memberValues?_memberTrees {ms : List (String × Json)}
    (h : ∀ m ∈ ms, m.2.tree.value? d = some m.2) :
    Tree.memberValues? d (memberTrees ms) = some ms := by
  induction ms with
  | nil => rfl
  | cons m ms ih =>
    rw [memberTrees, Tree.memberValues?, pieceText?_escapePieces, h m List.mem_cons_self,
      ih fun m' hm' => h m' (List.mem_cons_of_mem m hm')]
    rfl

/-- A regular value is read back from its tree. -/
theorem Regular.value?_eq (h : Regular d v) : v.tree.value? d = some v := by
  induction h with
  | null | bool => rfl
  | @int d n h =>
    show Tree.numberValue? (Numeral.ofInt n) = _
    rw [Tree.numberValue?, int?_ofInt]
    exact if_pos h
  | @text d s => exact congrArg (Option.map Json.text) (pieceText?_escapePieces s)
  | array h ih => exact congrArg (Option.map Json.array) (itemValues?_itemTrees ih)
  | @object d ms hms h ih =>
    rw [tree, Tree.value?, memberValues?_memberTrees ih, Option.map_some, hms.ofPairs_eq (.refl ms)]

/-- An integer that is read is regular. -/
lemma regular_of_numberValue? {n : Numeral} (h : Tree.numberValue? n = some v) (hv : v.Integral) :
    Regular d v := by
  unfold Tree.numberValue? at h
  split at h
  · split at h
    case isTrue hbounds =>
      cases h
      exact .int hbounds
    case isFalse =>
      split at h <;> cases h
      cases hv
  · split at h <;> cases h
    cases hv

mutual

/-- A value that is read is regular where its numbers are integers. -/
theorem regular_of_value? : ∀ (t : Tree) (d : Nat) {v : Json}, t.value? d = some v → v.Integral →
    Regular d v
  | .null, d, v, h, _ => by
    cases h
    exact .null
  | .bool b, d, v, h, _ => by
    cases h
    exact .bool b
  | .number n, d, v, h, hv => regular_of_numberValue? h hv
  | .text ps, d, v, h, _ => by
    obtain ⟨s, -, rfl⟩ := Option.map_eq_some_iff.1 h
    exact .text s
  | .array items, 0, v, h, _ => by cases h
  | .array items, d + 1, v, h, hv => by
    obtain ⟨vs, hvs, rfl⟩ := Option.map_eq_some_iff.1 h
    cases hv with
    | array hv => exact .array fun v hm => regular_of_itemValues? items d hvs v hm (hv v hm)
  | .object members, 0, v, h, _ => by cases h
  | .object members, d + 1, v, h, hv => by
    obtain ⟨ms, hms, rfl⟩ := Option.map_eq_some_iff.1 h
    obtain ⟨hascending, hmem⟩ := ascending_ofPairs ms
    cases hv with
    | object hv =>
      refine .object hascending fun m hm => ?_
      exact regular_of_memberValues? members d hms m (hmem m hm) (hv m hm)

/-- Items that are read are regular, if their numbers are integers. -/
lemma regular_of_itemValues? : ∀ (ts : List Tree) (d : Nat) {vs : List Json},
    Tree.itemValues? d ts = some vs → ∀ v ∈ vs, v.Integral → Regular d v
  | [], d, vs, h, v, hm, _ => by
    cases h
    cases hm
  | t :: ts, d, vs, h, v, hm, hv => by
    simp only [Tree.itemValues?, Option.bind_eq_bind, Option.bind_eq_some_iff, Option.pure_def,
      Option.some.injEq] at h
    obtain ⟨w, hw, ws, hws, rfl⟩ := h
    rcases List.mem_cons.1 hm with rfl | hm
    · exact regular_of_value? t d hw hv
    · exact regular_of_itemValues? ts d hws v hm hv

/-- Members that are read are regular, if their numbers are integers. -/
lemma regular_of_memberValues? : ∀ (ms : List (List Piece × Tree)) (d : Nat)
    {vs : List (String × Json)}, Tree.memberValues? d ms = some vs → ∀ m ∈ vs, m.2.Integral →
    Regular d m.2
  | [], d, vs, h, m, hm, _ => by
    cases h
    cases hm
  | (k, t) :: ms, d, vs, h, m, hm, hv => by
    simp only [Tree.memberValues?, Option.bind_eq_bind, Option.bind_eq_some_iff, Option.pure_def,
      Option.some.injEq] at h
    obtain ⟨key, -, w, hw, ws, hws, rfl⟩ := h
    rcases List.mem_cons.1 hm with rfl | hm
    · exact regular_of_value? t d hw hv
    · exact regular_of_memberValues? ms d hws m hm hv

end

end Reading

end FolderCopy.Json
