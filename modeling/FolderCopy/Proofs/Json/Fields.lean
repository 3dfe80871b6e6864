import Mathlib.Data.List.Forall2
import FolderCopy.Proofs.Json.Rendering

/-!
# Reading the fields of an object

An object gives a record's fields in any order and among members with other keys; the keys may be
spelled in any way. Main statement: a reader of the record finds just the fields that are given.
-/

namespace FolderCopy.Json

/-- Whether members have these keys and values. -/
def SpellsMembers (ms : List (List Piece × Tree)) (members : List (String × Tree)) : Prop :=
  List.Forall₂ (fun m n => Spells m.1 n.1.toList ∧ m.2 = n.2) ms members

/-- Whether a tree is an object that gives fields of a record and, of its other fields, none. -/
def Tree.Gives (fields : List String) (given : List (String × Tree)) : Tree → Prop
  | .object ms => ∃ members extras, SpellsMembers ms members ∧ members.Perm (given ++ extras) ∧
      ∀ m ∈ extras, m.1 ∉ fields
  | _ => False

/-- A list is read as what its items are read as one by one. -/
lemma mapM_eq_of_forall₂ {α β : Type} {f : α → Option β} {as : List α} {bs : List β}
    (h : List.Forall₂ (fun a b => f a = some b) as bs) : as.mapM f = some bs := by
  induction h with
  | nil => rfl
  | cons ha has ih =>
    rw [List.mapM_cons, ha, ih]
    rfl

/-- A list is not read if one of its items is not. -/
lemma mapM_eq_none {α β : Type} {f : α → Option β} {a : α} {as : List α} (ha : a ∈ as)
    (h : f a = none) : as.mapM f = none := by
  induction as with
  | nil => cases ha
  | cons a' as ih =>
    rw [List.mapM_cons]
    rcases List.mem_cons.1 ha with rfl | ha
    · rw [h]
      rfl
    · rw [ih ha]
      cases f a' <;> rfl

/-- Keys that are spelled in any way are read as they were meant. -/
lemma SpellsMembers.members?_eq {ms : List (List Piece × Tree)} {members : List (String × Tree)}
    (h : SpellsMembers ms members) : (Tree.object ms).members? = some members := by
  apply mapM_eq_of_forall₂
  apply h.imp
  rintro ⟨k, t⟩ ⟨key, t'⟩ ⟨hk, rfl⟩
  simp [hk.pieceText?_eq]

/-- The way in which the library itself writes keys spells them. -/
lemma spellsMembers_memberTrees (members : List (String × Json)) :
    SpellsMembers (memberTrees members) (members.map fun m => (m.1, m.2.tree)) := by
  induction members with
  | nil => exact .nil
  | cons m ms ih => exact .cons ⟨spells_escapePieces m.1.toList, rfl⟩ ih

/-- The tree of an object gives the fields that the object has. -/
lemma gives_tree {fields : List String} {members given extras : List (String × Json)}
    (hperm : members.Perm (given ++ extras)) (hextras : ∀ m ∈ extras, m.1 ∉ fields) :
    (object members).tree.Gives fields (given.map fun m => (m.1, m.2.tree)) := by
  refine ⟨_, extras.map fun m => (m.1, m.2.tree), spellsMembers_memberTrees members, ?_, ?_⟩
  · rw [← List.map_append]
    exact hperm.map _
  · intro m hm
    obtain ⟨m', hm', rfl⟩ := List.mem_map.1 hm
    exact hextras m' hm'

/-- What the members of an object say of a field depends neither on their order nor on members with
other keys. -/
lemma slot?_of_perm {members given extras : List (String × Tree)} {field : String} {s : Slot}
    (hperm : members.Perm (given ++ extras)) (hextras : ∀ m ∈ extras, m.1 ≠ field)
    (hs : slot? given field = some s) : slot? members field = some s := by
  have hnone : extras.filter (·.1 == field) = [] := by
    simpa using hextras
  have hfilter := hperm.filter (·.1 == field)
  rw [List.filter_append, hnone, List.append_nil] at hfilter
  rw [slot?] at hs ⊢
  match hgiven : given.filter (·.1 == field) with
  | [] =>
    rw [hgiven] at hfilter hs
    rw [hfilter.eq_nil]
    exact hs
  | [m] =>
    rw [hgiven] at hfilter hs
    rw [List.perm_singleton.1 hfilter]
    exact hs
  | _ :: _ :: _ =>
    rw [hgiven] at hs
    cases hs

/-- What the members of an object say of a field is what one of them says. -/
lemma slot?_eq_some {members : List (String × Tree)} {field : String} {s : Slot}
    (h : slot? members field = some s) :
    s = .noKey ∨ ∃ t, (field, t) ∈ members ∧ s = .given t := by
  have hmem {m : String × Tree} (hm : m ∈ members.filter (·.1 == field)) :
      (field, m.2) ∈ members := by
    obtain ⟨hm, hkey⟩ := List.mem_filter.1 hm
    rwa [← eq_of_beq hkey]
  rw [slot?] at h
  match hfilter : members.filter (·.1 == field) with
  | [] =>
    rw [hfilter] at h
    cases h
    exact .inl rfl
  | [m] =>
    rw [hfilter] at h hmem
    cases h
    exact .inr ⟨m.2, hmem (List.mem_singleton_self m), rfl⟩
  | _ :: _ :: _ =>
    rw [hfilter] at h
    cases h

/-- A field that stands in an object is given by it, unless it stands there more than once. -/
lemma slot?_of_mem {members : List (String × Tree)} {field : String} {t : Tree}
    (h : (field, t) ∈ members) :
    slot? members field = none ∨ slot? members field = some (.given t) := by
  have hmem : (field, t) ∈ members.filter (·.1 == field) :=
    List.mem_filter.2 ⟨h, beq_self_eq_true field⟩
  match hfilter : members.filter (·.1 == field) with
  | [] =>
    rw [hfilter] at hmem
    cases hmem
  | [m] =>
    rw [hfilter] at hmem
    rw [slot?, hfilter, ← List.mem_singleton.1 hmem]
    exact .inr rfl
  | _ :: _ :: _ =>
    rw [slot?, hfilter]
    exact .inl rfl

/-- A reader of a record finds the fields that an object gives. -/
theorem Tree.Gives.slots?_eq {fields : List String} {given : List (String × Tree)} {t : Tree}
    {slots : List Slot} (h : t.Gives fields given)
    (hslots : List.Forall₂ (fun field s => slot? given field = some s) fields slots) :
    t.slots? fields = some slots := by
  cases t with
  | null | bool | number | text | array => exact h.elim
  | object ms =>
    obtain ⟨members, extras, hms, hperm, hextras⟩ := h
    simp only [slots?, hms.members?_eq, Option.bind_eq_bind, Option.bind_some]
    have hfields :=
      (List.forall₂_and_left (p := (· ∈ fields)) fields slots).2 ⟨fun _ h => h, hslots⟩
    apply mapM_eq_of_forall₂
    apply hfields.imp
    rintro field s ⟨hfield, hs⟩
    exact slot?_of_perm hperm (fun m hm he => hextras m hm (he ▸ hfield)) hs

/-- What is found for the first field of a record is what the members say of it. -/
lemma SpellsMembers.slots?_head {ms : List (List Piece × Tree)} {members : List (String × Tree)}
    {field : String} {fields : List String} {slots : List Slot} (hms : SpellsMembers ms members)
    (h : (Tree.object ms).slots? (field :: fields) = some slots) :
    ∃ s rest, slots = s :: rest ∧ slot? members field = some s := by
  simp only [Tree.slots?, hms.members?_eq, Option.bind_eq_bind, Option.bind_some, List.mapM_cons,
    Option.bind_eq_some_iff] at h
  obtain ⟨s, hs, rest, -, he⟩ := h
  cases he
  exact ⟨s, rest, rfl, hs⟩

end FolderCopy.Json
