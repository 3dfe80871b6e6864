import FolderCopy.Proofs.Resolution.Walk

/-!
# The missing end of a path

Where missing folders are made, the names of a path have folders up to some name, and folders are
made from that name on, each under the one before. What one name comes to is said in `Entering`,
what all names of a path come to in `Built`, by the attempts that are made for them. Nothing is
known here of the store but how the folders that it holds grow.
-/

namespace FolderCopy.Resolution

open Retry Listing
open Simulation (Folder)

/-- The call that is answered with success in an exchange. -/
def served? : StoreExchange → Option StoreCall
  | .call q (.ok _) => some q
  | _ => none

/-- The folder that is made in an exchange. -/
def made? : StoreExchange → Option Folder
  | .call (.create name parent) (.ok id) => some ⟨id, name, parent⟩
  | _ => none

/-- The calls that were answered with success, in order. -/
def served (xs : List StoreExchange) : List StoreCall :=
  xs.filterMap served?

/-- The folders that were made, in order. -/
def made (xs : List StoreExchange) : List Folder :=
  xs.filterMap made?

/-- Whether an id is used nowhere. -/
def Fresh (fs : List Folder) (id : String) : Prop :=
  ∀ f ∈ fs, f.id ≠ id ∧ f.parent ≠ some id

/-- Whether a parent is the top of the store or one of its folders. -/
def Known (fs : List Folder) (parent : Option String) : Prop :=
  ∀ id, parent = some id → ∃ f ∈ fs, f.id = id

/-- Folders of given names and ids, each one under the one before and the first under a parent. -/
def along : (parent : Option String) → (names ids : List String) → List Folder
  | parent, name :: names, id :: ids => ⟨id, name, parent⟩ :: along (some id) names ids
  | _, _, _ => []

/-- The lookup that finds a folder. -/
def lookedUp (f : Folder) : StoreCall :=
  (lookup f.name f.parent).call

/-- What is called for a folder that has to be made: it is looked for first. -/
def built (f : Folder) : List StoreCall :=
  [lookedUp f, .create f.name f.parent]

section Folders

variable {fs gs : List Folder} {parent : Option String} {name id : String}

/-- There are as many folders along names as there are names with ids. -/
lemma length_along (parent : Option String) (names ids : List String) :
    (along parent names ids).length = min names.length ids.length := by
  induction names generalizing parent ids with
  | nil => simp [along]
  | cons name names ih =>
    cases ids with
    | nil => rfl
    | cons id ids =>
      have := ih (some id) ids
      simp only [along, List.length_cons]
      omega

/-- The folders along names have the ids that they are given. -/
lemma map_id_along (parent : Option String) {names ids : List String}
    (h : ids.length ≤ names.length) : (along parent names ids).map (·.id) = ids := by
  induction names generalizing parent ids with
  | nil =>
    obtain rfl := List.eq_nil_of_length_eq_zero (Nat.le_zero.1 h)
    rfl
  | cons name names ih =>
    cases ids with
    | nil => rfl
    | cons id ids => exact congrArg (id :: ·) (ih (some id) (Nat.le_of_succ_le_succ h))

/-- The folders along more ids are those along the first ones, and others after them. -/
lemma drop_along {parent : Option String} {names ids new more : List String}
    (hle : (ids ++ new).length ≤ names.length) :
    (along parent names (ids ++ new)).drop ids.length ++
        (along parent names (ids ++ new ++ more)).drop (ids ++ new).length =
      (along parent names (ids ++ new ++ more)).drop ids.length := by
  induction ids generalizing parent names with
  | nil =>
    simp only [List.nil_append, List.length_nil, List.drop_zero] at hle ⊢
    induction new generalizing parent names with
    | nil => cases names <;> rfl
    | cons id new ih =>
      cases names with
      | nil => cases hle
      | cons name names =>
        exact congrArg (⟨id, name, parent⟩ :: ·) (ih (Nat.le_of_succ_le_succ hle))
  | cons id ids ih =>
    cases names with
    | nil => cases hle
    | cons name names => exact ih (Nat.le_of_succ_le_succ hle)

/-- No more folders are found along names than there are names. -/
lemma length_idsAlong_le (fs : List Folder) (parent : Option String) (names : List String) :
    (idsAlong fs parent names).length ≤ names.length := by
  induction names generalizing parent with
  | nil => exact Nat.le_refl _
  | cons name names ih =>
    cases hid : firstNamed fs parent name with
    | none =>
      rw [idsAlong_of_none hid]
      exact Nat.zero_le _
    | some id =>
      rw [idsAlong_of_some hid]
      exact Nat.succ_le_succ (ih (some id))

/-- Folders that come later do not hide one that was found. -/
lemma firstNamed_append_of_some (h : firstNamed fs parent name = some id) :
    firstNamed (fs ++ gs) parent name = some id := by
  unfold firstNamed at h ⊢
  obtain ⟨f, hf, rfl⟩ := Option.map_eq_some_iff.1 h
  rw [List.find?_append, hf]
  rfl

/-- The first folder of a name that had none is the one that was added for it. -/
lemma firstNamed_append_of_none (h : firstNamed fs parent name = none) :
    firstNamed (fs ++ ⟨id, name, parent⟩ :: gs) parent name = some id := by
  unfold firstNamed at h ⊢
  rw [List.find?_append, Option.map_eq_none_iff.1 h]
  simp

/-- A folder that is found by its name is one of the store. -/
lemma firstNamed_mem (h : firstNamed fs parent name = some id) : ∃ f ∈ fs, f.id = id := by
  obtain ⟨f, hf, rfl⟩ := Option.map_eq_some_iff.1 h
  exact ⟨f, List.mem_of_find?_eq_some hf, rfl⟩

/-- The top of the store is known. -/
lemma known_none : Known fs none :=
  nofun

/-- A folder that is found by its name is known. -/
lemma known_of_firstNamed (h : firstNamed fs parent name = some id) : Known fs (some id) := by
  rintro _ ⟨⟩
  exact firstNamed_mem h

/-- Nothing is under a folder that has just been made. -/
lemma idsAlong_of_fresh (hf : Fresh fs id) (hk : Known fs parent) (names : List String) :
    idsAlong (fs ++ [⟨id, name, parent⟩]) (some id) names = [] := by
  cases names with
  | nil => rfl
  | cons next rest =>
    apply idsAlong_of_none
    unfold firstNamed
    rw [Option.map_eq_none_iff, List.find?_eq_none]
    intro f hmem heq
    obtain ⟨hparent, -⟩ : f.parent = some id ∧ f.name = next := by simpa using heq
    rcases List.mem_append.1 hmem with hmem | hmem
    · exact (hf f hmem).2 hparent
    · obtain rfl := List.mem_singleton.1 hmem
      -- Its own parent is one of the folders that were there before, so it is not itself.
      obtain ⟨g, hg, hid⟩ := hk id hparent
      exact (hf g hg).1 hid

end Folders

section Exchanges

/-- What is served in two parts is what is served in one and then in the other. -/
lemma served_append (xs ys : List StoreExchange) : served (xs ++ ys) = served xs ++ served ys :=
  List.filterMap_append

/-- What is made in two parts is what is made in one and then in the other. -/
lemma made_append (xs ys : List StoreExchange) : made (xs ++ ys) = made xs ++ made ys :=
  List.filterMap_append

/-- A series of attempts is served by its last one, if that succeeds. -/
lemma served_series (q : StoreCall) (S : Series q.Answer) :
    served (S.exchanges q) = match S.last with
      | .succeeded _ => [q]
      | _ => [] := by
  have hfailing : served (failing q S.failures) = [] := by
    induction S.failures with
    | nil => rfl
    | cons e es ih => exact ih
  rw [Series.exchanges, served_append, hfailing]
  cases S.last <;> rfl

/-- Failing attempts make nothing. -/
lemma made_failing (q : StoreCall) (es : List CallError) : made (failing q es) = [] := by
  induction es with
  | nil => rfl
  | cons e es ih =>
    rw [failing, List.flatMap_cons, made_append, ← failing, ih]
    cases q <;> rfl

/-- No folder is made by looking one up. -/
lemma made_lookups (a : Ask) (S : Series Page) : made (S.exchanges a.call) = [] := by
  rw [Series.exchanges, made_append, made_failing]
  cases S.last <;> rfl

/-- A series of attempts to make a folder makes one by its last attempt, if that succeeds. -/
lemma made_creates (name : String) (parent : Option String) (S : Series String) :
    made (S.exchanges (.create name parent)) = match S.last with
      | .succeeded id => [⟨id, name, parent⟩]
      | _ => [] := by
  rw [Series.exchanges, made_append, made_failing]
  cases S.last <;> rfl

/-- A series of attempts calls one and the same thing. -/
lemma calls_series {q q' : StoreCall} {S : Series q.Answer} {r : Except CallError q'.Answer}
    (h : .call q' r ∈ S.exchanges q) : q' = q := by
  rw [Series.exchanges, List.mem_append] at h
  rcases h with h | h
  · obtain ⟨e, -, he⟩ := List.mem_flatMap.1 h
    simp only [admitted, List.mem_cons] at he
    rcases he with he | he | he | he
    · cases he
    · cases he
      rfl
    · cases he
    · cases he
  · cases hl : S.last <;> rw [hl] at h <;> simp [LastAttempt.exchanges, admitted] at h
    · exact h.1
    · exact h.1

end Exchanges

/-- What one name under a parent comes to, by the attempts to look it up and to make its folder. -/
inductive Entering (p : Policy) (fs : List Folder) (name : String) (parent : Option String) :
    List StoreExchange → Except CopyError String → Prop where
  | found {S : Series Page} {page id} (hl : S.last = .succeeded page)
    (hid : firstNamed fs parent name = some id) :
    Entering p fs name parent (S.exchanges (lookup name parent).call) (.ok id)
  | notLookedUp {S : Series Page} {e} (hf : S.Fits p.maxAttempts)
    (hl : ∀ page, S.last ≠ .succeeded page) :
    Entering p fs name parent (S.exchanges (lookup name parent).call) (.error e)
  | created {S : Series Page} {T : Series String} {page id} (hl : S.last = .succeeded page)
    (hn : firstNamed fs parent name = none) (ht : T.last = .succeeded id) (hf : Fresh fs id) :
    Entering p fs name parent
      (S.exchanges (lookup name parent).call ++ T.exchanges (.create name parent)) (.ok id)
  | notCreated {S : Series Page} {T : Series String} {page e} (hl : S.last = .succeeded page)
    (hn : firstNamed fs parent name = none) (hf : T.Fits p.maxAttempts)
    (ht : ∀ id, T.last ≠ .succeeded id) :
    Entering p fs name parent
      (S.exchanges (lookup name parent).call ++ T.exchanges (.create name parent)) (.error e)

/-- What the names of a path under a parent come to: how far they had folders, the ids of those that
were made, and what passed. -/
structure Built (p : Policy) (fs : List Folder) (parent : Option String) (names : List String)
    (xs : List StoreExchange) (x : Except CopyError String) (found new : List String) : Prop where
  found_eq : found = idsAlong fs parent names
  made_eq : made xs = (along parent names (found ++ new)).drop found.length
  length_le : (found ++ new).length ≤ names.length
  /-- All that was found or made is found from now on. -/
  kept : idsAlong (fs ++ made xs) parent names = found ++ new
  arrived : ∀ id, x = .ok id → (found ++ new).length = names.length ∧
    (found ++ new).getLast?.or parent = some id ∧
    served xs = ((along parent names (found ++ new)).take found.length).map lookedUp ++
      ((along parent names (found ++ new)).drop found.length).flatMap built
  spared : WithinBudget p.maxAttempts xs → ∃ id, x = .ok id
  /-- Where every name has a folder, no more is done than to look them up. -/
  lookups : found.length = names.length → ∀ q r, .call q r ∈ xs → IsLookup q

section Paths

variable {p : Policy} {fs : List Folder} {parent : Option String} {name : String}
  {names : List String} {xs ys : List StoreExchange} {x : Except CopyError String}
  {found new : List String} {id : String}

/-- The last of several ids, where the first is one that has been reached. -/
lemma getLast?_cons_or (id : String) (ids : List String) (parent : Option String) :
    (id :: ids).getLast?.or parent = ids.getLast?.or (some id) := by
  rw [List.getLast?_cons]
  cases ids.getLast? <;> rfl

/-- With no names left, nothing is made and the folder that was reached is the result. -/
lemma Built.nil : Built p fs (some id) [] [] (.ok id) [] [] := by
  refine ⟨rfl, rfl, Nat.le_refl _, rfl, ?_, fun _ => ⟨id, rfl⟩, fun _ => nofun⟩
  rintro _ ⟨⟩
  exact ⟨rfl, rfl, rfl⟩

/-- A name that has a folder comes before names under it. -/
lemma Built.afterFound {S : Series Page} {page : Page} (hl : S.last = .succeeded page)
    (hid : firstNamed fs parent name = some id)
    (h : Built p fs (some id) names ys x found new) :
    Built p fs parent (name :: names) (S.exchanges (lookup name parent).call ++ ys) x
      (id :: found) new := by
  have hmade : made (S.exchanges (lookup name parent).call ++ ys) = made ys := by
    rw [made_append, made_lookups, List.nil_append]
  constructor
  · rw [idsAlong_of_some hid, h.found_eq]
  · rw [hmade, h.made_eq]
    rfl
  · exact Nat.succ_le_succ h.length_le
  · rw [hmade, idsAlong_of_some (firstNamed_append_of_some hid), h.kept]
    rfl
  · intro id' hx
    obtain ⟨hlength, hlast, hserved⟩ := h.arrived id' hx
    refine ⟨congrArg Nat.succ hlength, ?_, ?_⟩
    · rw [List.cons_append, getLast?_cons_or, hlast]
    · rw [served_append, served_series, hl, hserved]
      rfl
  · exact fun hb => h.spared (hb.of_infix (List.suffix_append _ _).isInfix)
  · intro hlength q r hm
    rcases List.mem_append.1 hm with hm | hm
    · exact ⟨name, parent, calls_series hm⟩
    · exact h.lookups (Nat.succ.inj hlength) q r hm

/-- A name for which a folder is made comes before names for which folders are made. -/
lemma Built.afterMade {S : Series Page} {T : Series String} {page : Page}
    (hl : S.last = .succeeded page) (hn : firstNamed fs parent name = none)
    (ht : T.last = .succeeded id) (hf : Fresh fs id) (hk : Known fs parent)
    (h : Built p (fs ++ [⟨id, name, parent⟩]) (some id) names ys x found new) :
    Built p fs parent (name :: names)
      (S.exchanges (lookup name parent).call ++ T.exchanges (.create name parent) ++ ys) x
      [] (id :: new) := by
  have hmade : made (S.exchanges (lookup name parent).call ++ T.exchanges (.create name parent) ++
      ys) = ⟨id, name, parent⟩ :: made ys := by
    rw [made_append, made_append, made_lookups, made_creates, ht]
    rfl
  -- Nothing was under the new folder, so all the rest had to be made too.
  obtain rfl : found = [] := h.found_eq.trans (idsAlong_of_fresh hf hk names)
  constructor
  · rw [idsAlong_of_none hn]
  · rw [hmade, h.made_eq]
    rfl
  · exact Nat.succ_le_succ h.length_le
  · have hkept := h.kept
    rw [List.append_assoc, List.singleton_append] at hkept
    rw [hmade, idsAlong_of_some (firstNamed_append_of_none hn), hkept]
    rfl
  · intro id' hx
    obtain ⟨hlength, hlast, hserved⟩ := h.arrived id' hx
    refine ⟨congrArg Nat.succ hlength, ?_, ?_⟩
    · rw [List.nil_append, getLast?_cons_or]
      exact hlast
    · rw [served_append, served_append, served_series, served_series, hl, ht, hserved]
      rfl
  · exact fun hb => h.spared (hb.of_infix (List.suffix_append _ _).isInfix)
  · intro hlength
    cases hlength

/-- A path is given up at a name: what comes after it is not asked for. -/
lemma Built.givenUp {e : CopyError} (hm : made xs = [])
    (hb : ¬ WithinBudget p.maxAttempts xs)
    (hl : firstNamed fs parent name ≠ none → ∀ q r, .call q r ∈ xs → IsLookup q) :
    Built p fs parent (name :: names) xs (.error e) (idsAlong fs parent (name :: names)) [] := by
  constructor
  · rfl
  · rw [hm, List.drop_of_length_le]
    rw [length_along, List.append_nil]
    exact Nat.min_le_right _ _
  · rw [List.append_nil]
    exact length_idsAlong_le fs parent _
  · rw [hm, List.append_nil, List.append_nil]
  · exact nofun
  · exact fun h => absurd h hb
  · intro hlength
    apply hl
    intro hn
    rw [idsAlong_of_none hn] at hlength
    cases hlength

/-- What one name comes to, and what those after it come to where it is the first of several. -/
lemma Entering.built (h : Entering p fs name parent xs x) (hk : Known fs parent) :
    (∃ id, x = .ok id ∧ Known (fs ++ made xs) (some id) ∧ ∀ names ys y found new,
      Built p (fs ++ made xs) (some id) names ys y found new →
        ∃ found new, Built p fs parent (name :: names) (xs ++ ys) y found new) ∨
    ∃ e, x = .error e ∧ ∀ names,
      ∃ found new, Built p fs parent (name :: names) xs (.error e) found new := by
  cases h with
  | @found S page id hl hid =>
    refine .inl ⟨id, rfl, ?_, ?_⟩
    · rw [made_lookups, List.append_nil]
      exact known_of_firstNamed hid
    · intro names ys y found new hB
      rw [made_lookups, List.append_nil] at hB
      exact ⟨_, _, hB.afterFound hl hid⟩
  | @created S T page id hl hn ht hf =>
    have hmade : made (S.exchanges (lookup name parent).call ++
        T.exchanges (.create name parent)) = [⟨id, name, parent⟩] := by
      rw [made_append, made_lookups, made_creates, ht]
      rfl
    refine .inl ⟨id, rfl, ?_, ?_⟩
    · rw [hmade]
      rintro _ ⟨⟩
      exact ⟨⟨id, name, parent⟩, by simp, rfl⟩
    · intro names ys y found new hB
      rw [hmade] at hB
      exact ⟨_, _, hB.afterMade hl hn ht hf hk⟩
  | @notLookedUp S e hf hl =>
    refine .inr ⟨e, rfl, fun names => ⟨_, _, .givenUp (made_lookups _ S) ?_ ?_⟩⟩
    · intro hb
      obtain ⟨page, hlast⟩ := hf.succeeds hb List.infix_rfl
      exact hl page hlast
    · exact fun _ q r hm => ⟨name, parent, calls_series hm⟩
  | @notCreated S T page e hl hn hf ht =>
    refine .inr ⟨e, rfl, fun names => ⟨_, _, .givenUp ?_ ?_ (absurd hn)⟩⟩
    · rw [made_append, made_lookups, made_creates]
      cases hlast : T.last with
      | succeeded id => exact absurd hlast (ht id)
      | refused e | failed e => rfl
    · intro hb
      obtain ⟨id, hlast⟩ := hf.succeeds hb (List.suffix_append _ _).isInfix
      exact ht id hlast

end Paths

end FolderCopy.Resolution
