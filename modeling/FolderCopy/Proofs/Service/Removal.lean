import Mathlib.Data.List.Nodup
import FolderCopy.Service
import FolderCopy.Proofs.Resolution.Walk

/-!
# Removing the folder of a path

A removal looks the names of a path up and then deletes the folder that was found last. What becomes
of the store is told by the deletions that pass: there is none before the folder is found, and then
all of them are of this folder, and only the last one can succeed. So a removal takes one folder out
of the store or leaves all as it is. Main statement: `removal_atomic`.
-/

namespace FolderCopy.Service

open Retry Listing Resolution
open Simulation (Folder)

/-! ## The folder that a path designates -/

/-- The folder that names lead to from a parent on: the first one of each name under the one
before. -/
def folderAt (fs : List Folder) (name : String) :
    (rest : List String) → (parent : Option String) → Option Folder
  | [], parent => fs.find? fun f => f.parent == parent && f.name == name
  | next :: rest, parent =>
    (fs.find? fun f => f.parent == parent && f.name == name).bind fun f =>
      folderAt fs next rest (some f.id)

/-- The folder that a written path designates. -/
def designated (fs : List Folder) (path : String) : Option Folder :=
  match FolderPath.parse path with
  | .error _ => none
  | .ok ⟨[], _, _⟩ => none
  | .ok ⟨name :: rest, _, _⟩ => folderAt fs name rest none

/-- The folder at a path is one of the store. -/
lemma mem_of_folderAt {fs : List Folder} {name : String} {rest : List String}
    {parent : Option String} {f : Folder} (h : folderAt fs name rest parent = some f) : f ∈ fs := by
  induction rest generalizing name parent with
  | nil => exact List.mem_of_find?_eq_some h
  | cons next rest ih =>
    obtain ⟨f', -, hrest⟩ := Option.bind_eq_some_iff.1 h
    exact ih hrest

/-- The folder that a path designates is one of the store. -/
lemma mem_of_designated {fs : List Folder} {path : String} {f : Folder}
    (h : designated fs path = some f) : f ∈ fs := by
  unfold designated at h
  split at h
  · cases h
  · cases h
  · exact mem_of_folderAt h

/-- A walk along names arrives at the folder that they lead to. -/
lemma arrival_eq_ok (fs : List Folder) (path name id : String) (rest : List String)
    (parent : Option String) :
    arrival fs path name rest parent = .ok id ↔
      (folderAt fs name rest parent).map (·.id) = some id := by
  induction rest generalizing name parent with
  | nil =>
    simp only [arrival, folderAt, entered, firstNamed]
    cases fs.find? fun f => f.parent == parent && f.name == name <;> simp
  | cons next rest ih =>
    simp only [arrival, folderAt, entered, firstNamed]
    cases fs.find? fun f => f.parent == parent && f.name == name with
    | none => simp [Except.bind]
    | some f => exact ih next (some f.id)

/-! ## Deletions -/

/-- The deletion that an exchange is: the id and the answer. -/
def deletion? : StoreExchange → Option (String × Except CallError Unit)
  | .call (.delete id) r => some (id, r)
  | _ => none

/-- The deletions that were called, with their answers. -/
def deletions (xs : List StoreExchange) : List (String × Except CallError Unit) :=
  xs.filterMap deletion?

/-- What a deletion leaves of the folders: a failed one all of them. -/
def afterDeletion (fs : List Folder) : String × Except CallError Unit → List Folder
  | (id, .ok ()) => fs.filter (·.id != id)
  | (_, .error _) => fs

/-- Whether a store removes folders: it looks them up, a deletion that is answered with success
takes away the folder of the id and no other one, and one that fails takes nothing away. -/
structure Removes {σ : Type} (h : Host StoreCall StoreCall.Answer σ) (folders : σ → List Folder) :
    Prop where
  looksUp : LooksUp h folders
  deletes : ∀ id s, folders (h.call (.delete id) s).2 =
    afterDeletion (folders s) (id, (h.call (.delete id) s).1)

/-- Whether a call is one that a removal makes. -/
def OfRemoval (q : StoreCall) : Prop :=
  IsLookup q ∨ ∃ id, q = .delete id

section Exchanges

variable {σ α : Type} {h : Host StoreCall StoreCall.Answer σ} {folders : σ → List Folder}

/-- Deletions in two parts are those of one and then those of the other. -/
lemma deletions_append (xs ys : List StoreExchange) :
    deletions (xs ++ ys) = deletions xs ++ deletions ys :=
  List.filterMap_append

/-- Looking up deletes nothing. -/
lemma deletions_eq_nil {d : Operation α} (hd : d.Calls IsLookup) (s : σ) :
    deletions (d.exchanges h s) = [] := by
  refine List.filterMap_eq_nil_iff.2 ?_
  intro x hx
  cases x with
  | admission | release => rfl
  | call q r =>
    obtain ⟨name, parent, rfl⟩ := Dialogue.calls_exchanges hd hx
    rfl

/-- The deletions of a series of attempts are all of one folder. -/
lemma deletions_series (id : String) (S : Series (StoreCall.Answer (.delete id))) :
    deletions (S.exchanges (.delete id)) = S.failures.map (fun e => (id, .error e)) ++
      match S.last with
      | .refused _ => []
      | .failed e => [(id, .error e)]
      | .succeeded _ => [(id, .ok ())] := by
  have hfailing (es : List CallError) :
      deletions (failing (.delete id) es) = es.map fun e => (id, .error e) := by
    induction es with
    | nil => rfl
    | cons e es ih => exact congrArg ((id, .error e) :: ·) ih
  rw [Series.exchanges, deletions_append, hfailing]
  cases S.last <;> rfl

/-- What a removal leaves of the folders is told by its deletions. -/
lemma folders_run (hr : Removes h folders) {d : Operation α} (hd : d.Calls OfRemoval) (s : σ) :
    folders (d.run h s).2 = (deletions (d.exchanges h s)).foldl afterDeletion (folders s) := by
  have hk := hr.looksUp.keeps
  induction d generalizing s with
  | done a => rfl
  | acquire next ih => exact (ih _ (hd _) _).trans (by rw [hk.acquire]; rfl)
  | release next ih => exact (ih hd _).trans (by rw [hk.release]; rfl)
  | note e next ih => exact (ih hd _).trans (by rw [hk.note]; rfl)
  | enter sp next ih => exact (ih hd _).trans (by rw [hk.enter]; rfl)
  | leave next ih => exact (ih hd _).trans (by rw [hk.leave]; rfl)
  | call q next ih =>
    obtain ⟨hq, hnext⟩ := hd
    refine (ih _ (hnext _) _).trans ?_
    rcases hq with hq | ⟨id, rfl⟩
    · rw [hk.call q hq]
      obtain ⟨name, parent, rfl⟩ := hq
      rfl
    · rw [hr.deletes]
      rfl

end Exchanges

/-! ## Removals -/

/-- The span of a removal. -/
def removalSpan (path : String) : Log.Span :=
  Log.Component.service.span "remove_folder_by_path" [("path", .text path)]

/-- The ways in which a removal goes: what passes, and what it comes to. -/
inductive Removal (fs : List Folder) (path : String) (budget : Nat) :
    List StoreExchange → Except CopyError Unit → Prop where
  /-- The folder is not found. -/
  | unfound {xs e} (hx : deletions xs = [])
    (hn : WithinBudget budget xs → designated fs path = none) :
    Removal fs path budget xs (.error e)
  /-- The attempts to delete the folder come to an error. -/
  | kept {xs f e} {S : Series (StoreCall.Answer (.delete f.id))} (hx : deletions xs = [])
    (hf : designated fs path = some f) (hS : S.Fits budget) (he : S.result f.id = .error e) :
    Removal fs path budget (xs ++ S.exchanges (.delete f.id)) (.error e)
  /-- The last attempt to delete the folder succeeds. -/
  | removed {xs f} {S : Series (StoreCall.Answer (.delete f.id))} (hx : deletions xs = [])
    (hf : designated fs path = some f) (hl : S.last = .succeeded ()) :
    Removal fs path budget (xs ++ S.exchanges (.delete f.id)) (.ok ())

section Hosts

variable {σ : Type} {h : Host StoreCall StoreCall.Answer σ} {folders : σ → List Folder}
  (p : Policy) (path : String)

/-- Whatever it is answered, the search for the folder of a path only looks folders up. -/
lemma folder_lookups : (folder p path false).Calls IsLookup := by
  refine .within ?_
  cases FolderPath.parse path with
  | error e => exact True.intro
  | ok fp => exact resolve_calls p fp

/-- A removal makes no other calls than lookups and deletions. -/
lemma remove_calls : (remove p path).Calls OfRemoval := by
  refine .within (.andThen ((folder_lookups p path).mono fun _ => .inl) fun id => ?_)
  have hrun : (p.run (A := StoreCall.Answer) id (.delete id)).Calls OfRemoval :=
    (p.run_calls id _).mono fun _ hq => .inr ⟨id, hq⟩
  exact hrun.andThen fun _ => True.intro

/-- A walk along names comes to the folder that they lead to, or to an error. -/
lemma descend_outcome (hl : LooksUp h folders) (name : String) (rest : List String)
    (parent : Option String) (s : σ) :
    let d := descend p path false name rest parent
    (∃ f, folderAt (folders s) name rest parent = some f ∧ (d.run h s).1 = .ok f.id) ∨
    ∃ e, (d.run h s).1 = .error e ∧
      (WithinBudget p.maxAttempts (d.exchanges h s) →
        folderAt (folders s) name rest parent = none) := by
  intro d
  obtain ⟨R, x, hR, hyields, hx, hf⟩ := exists_walk hl p path name rest parent s
  rw [hyields.1, hyields.2]
  cases hfailed : R.failed with
  | some f =>
    refine .inr ⟨_, hf f hfailed, fun hb => ?_⟩
    rw [hR.failed_eq_none hb] at hfailed
    cases hfailed
  | none =>
    rw [hx hfailed]
    cases hat : folderAt (folders s) name rest parent with
    | some f => exact .inl ⟨f, rfl, (arrival_eq_ok _ _ _ _ _ _).2 (congrArg _ hat)⟩
    | none =>
      cases ha : arrival (folders s) path name rest parent with
      | error e => exact .inr ⟨e, rfl, fun _ => rfl⟩
      | ok id =>
        have hid := (arrival_eq_ok _ _ _ _ _ _).1 ha
        rw [hat] at hid
        cases hid

/-- The search for the folder of a path comes to the one that it designates, or to an error. -/
lemma folder_outcome (hl : LooksUp h folders) (s : σ) :
    let d := folder p path false
    (∃ f, designated (folders s) path = some f ∧ (d.run h s).1 = .ok f.id) ∨
    ∃ e, (d.run h s).1 = .error e ∧
      (WithinBudget p.maxAttempts (d.exchanges h s) → designated (folders s) path = none) := by
  unfold folder designated
  cases FolderPath.parse path with
  | error e => exact .inr ⟨e, rfl, fun _ => rfl⟩
  | ok fp =>
    obtain ⟨segments, nonempty, clean⟩ := fp
    cases segments with
    | nil => exact absurd rfl nonempty
    | cons name rest =>
      intro d
      let fp : FolderPath := ⟨name :: rest, nonempty, clean⟩
      let start := h.note (begins fp.display false) (h.enter (spanOf fp.display false)
        (h.enter (Log.Component.service.span "folder_by_path"
          [("path", .text path), ("create", .truth false)]) s))
      have hstart : folders start = folders s :=
        (hl.keeps.note _ _).trans ((hl.keeps.enter _ _).trans (hl.keeps.enter _ _))
      have hyields : d.Yields h s _ _ :=
        .within (.within (d := .note (begins fp.display false)
          (descend p fp.display false name rest none)) ⟨rfl, rfl⟩)
      have houtcome := descend_outcome p fp.display hl name rest none start
      rw [hstart] at houtcome
      rw [hyields.1, hyields.2]
      exact houtcome

/-- A removal whose folder is not found ends with the search. -/
lemma remove_of_unfound {s : σ} {e : CopyError}
    (he : ((folder p path false).run h (h.enter (removalSpan path) s)).1 = .error e) :
    (remove p path).Yields h s ((folder p path false).exchanges h (h.enter (removalSpan path) s))
      (.error e) :=
  .within (.andThen_error ⟨rfl, he⟩ _)

/-- Every removal goes in one of these ways. -/
lemma remove_outcome (hl : LooksUp h folders) (s : σ) :
    Removal (folders s) path p.maxAttempts ((remove p path).exchanges h s)
      ((remove p path).run h s).1 := by
  let start := h.enter (removalSpan path) s
  have hstart : folders start = folders s := hl.keeps.enter _ _
  have hnone := deletions_eq_nil (h := h) (folder_lookups p path) start
  have houtcome := folder_outcome p path hl start
  rw [hstart] at houtcome
  rcases houtcome with ⟨f, hf, hfound⟩ | ⟨e, hfound, hn⟩
  · have hkeeps : h.Keeps (fun _ => True) fun _ => () := by constructor <;> intros <;> rfl
    let resolved := h.note (Log.Component.service.event .debug ("Remove folder by path: " ++ path)
      [("folder_id", f.id)]) ((folder p path false).run h start).2
    obtain ⟨S, hS, hyields, -⟩ :=
      p.run_series (hkeeps.answers (q := .delete f.id) trivial ()) f.id (s := resolved) rfl
    cases hr : S.result f.id with
    | error e =>
      rw [hr] at hyields
      have hremove : (remove p path).Yields h s
          ((folder p path false).exchanges h start ++ S.exchanges (.delete f.id)) (.error e) :=
        .within (.andThen ⟨rfl, hfound⟩ (hyields.andThen_error _))
      rw [hremove.1, hremove.2]
      exact .kept hnone hf hS hr
    | ok u =>
      rw [hr] at hyields
      have hremove : (remove p path).Yields h s
          ((folder p path false).exchanges h start ++ (S.exchanges (.delete f.id) ++ []))
          (.ok ()) :=
        .within (.andThen ⟨rfl, hfound⟩ (hyields.andThen ⟨rfl, rfl⟩))
      rw [List.append_nil] at hremove
      rw [hremove.1, hremove.2]
      exact .removed hnone hf (Series.result_eq_ok.1 hr)
  · have hremove := remove_of_unfound p path hfound
    rw [hremove.1, hremove.2]
    exact .unfound hnone hn

end Hosts

section Outcomes

variable {fs : List Folder} {path : String} {budget : Nat} {xs : List StoreExchange}
  {x : Except CopyError Unit}

/-- Where ids are distinct, a deletion takes the one folder of its id away. -/
lemma afterDeletion_eq_erase (hids : (fs.map (·.id)).Nodup) {f : Folder} (hf : f ∈ fs) :
    afterDeletion fs (f.id, .ok ()) = fs.erase f := by
  have hnodup : fs.Nodup := hids.of_map _
  rw [hnodup.erase_eq_filter f]
  apply List.filter_congr
  intro g hg
  rw [Bool.eq_iff_iff, bne_iff_ne, bne_iff_ne]
  exact not_congr ⟨List.inj_on_of_nodup_map hids hg hf, congrArg _⟩

/-- Deletions that fail take no folder away. -/
lemma foldl_afterDeletion_eq {ds : List (String × Except CallError Unit)}
    (hd : ∀ d ∈ ds, ∃ f c, designated fs path = some f ∧ d = (f.id, .error c)) :
    ds.foldl afterDeletion fs = fs := by
  induction ds with
  | nil => rfl
  | cons d ds ih =>
    obtain ⟨f, c, -, rfl⟩ := hd d List.mem_cons_self
    exact ih fun d hmem => hd d (List.mem_cons_of_mem _ hmem)

/-- A deletion that succeeds at last takes the one folder of its id away. -/
lemma foldl_afterDeletion_eq_erase (hids : (fs.map (·.id)).Nodup) {f : Folder} (hf : f ∈ fs)
    (cs : List CallError) :
    List.foldl afterDeletion fs (cs.map (fun c => (f.id, .error c)) ++ [(f.id, .ok ())]) =
      fs.erase f := by
  induction cs with
  | nil => exact afterDeletion_eq_erase hids hf
  | cons c cs ih => exact ih

/-- A removal that succeeds ends with its only deletion that does. -/
lemma Removal.deletions_of_ok (h : Removal fs path budget xs x) (hx : x = .ok ()) :
    ∃ f, designated fs path = some f ∧ ∃ cs : List CallError,
      deletions xs = cs.map (fun c => (f.id, .error c)) ++ [(f.id, .ok ())] := by
  cases h with
  | unfound | kept => cases hx
  | @removed xs f S hnone hf hl =>
    refine ⟨f, hf, S.failures, ?_⟩
    rw [deletions_append, hnone, deletions_series, hl]
    rfl

/-- In a removal that comes to an error all deletions fail, and they are of the folder that the path
designates. -/
lemma Removal.deletions_of_error (h : Removal fs path budget xs x) {e : CopyError}
    (hx : x = .error e) {d : String × Except CallError Unit} (hd : d ∈ deletions xs) :
    ∃ f c, designated fs path = some f ∧ d = (f.id, .error c) := by
  cases h with
  | unfound hnone =>
    rw [hnone] at hd
    cases hd
  | @kept xs f e S hnone hf hS he =>
    rw [deletions_append, hnone, List.nil_append, deletions_series] at hd
    refine ⟨f, ?_⟩
    rcases List.mem_append.1 hd with hd | hd
    · obtain ⟨c, -, rfl⟩ := List.mem_map.1 hd
      exact ⟨c, hf, rfl⟩
    · cases hl : S.last with
      | refused c =>
        rw [hl] at hd
        cases hd
      | failed c =>
        rw [hl] at hd
        exact ⟨c, hf, List.mem_singleton.1 hd⟩
      | succeeded u =>
        rw [Series.result_eq_ok.2 hl] at he
        cases he
  | removed => cases hx

/-- Within the budget the folder that the path designates is removed. -/
lemma Removal.eq_ok (h : Removal fs path budget xs x) {f : Folder}
    (hf : designated fs path = some f) (hb : WithinBudget budget xs) : x = .ok () := by
  cases h with
  | unfound hnone hn =>
    rw [hn hb] at hf
    cases hf
  | kept hnone hf' hS he =>
    obtain ⟨u, hl⟩ := hS.succeeds hb (List.suffix_append _ _).isInfix
    rw [Series.result_eq_ok.2 hl] at he
    cases he
  | removed => rfl

end Outcomes

/-- The removal of the folder of a path is atomic and precise. When it succeeds, the store has lost
the folder that the path designates and nothing else, by one deletion that succeeded after others of
the same folder that failed. When it comes to an error, the store has all its folders, and every
deletion was of this folder and failed. No folder is created, and nothing is deleted where the path
cannot be read or its folder is not found. Within the budget the folder that the path designates is
removed. -/
theorem removal_atomic {σ : Type} {h : Host StoreCall StoreCall.Answer σ}
    {folders : σ → List Folder} (hr : Removes h folders) (p : Policy) (path : String) {s : σ}
    (hids : ((folders s).map (·.id)).Nodup) :
    let xs := (remove p path).exchanges h s
    let x := ((remove p path).run h s).1
    let left := folders ((remove p path).run h s).2
    let found := ((folder p path false).run h (h.enter (removalSpan path) s)).1
    (x = .ok () → ∃ f, designated (folders s) path = some f ∧ f ∈ folders s ∧
      left = (folders s).erase f ∧ ∃ cs : List CallError,
        deletions xs = cs.map (fun c => (f.id, .error c)) ++ [(f.id, .ok ())]) ∧
    (∀ e, x = .error e → left = folders s ∧
      ∀ d ∈ deletions xs, ∃ f c, designated (folders s) path = some f ∧ d = (f.id, .error c)) ∧
    (∀ name parent r, .call (.create name parent) r ∉ xs) ∧
    (∀ e, found = .error e → x = .error e ∧ deletions xs = []) ∧
    (∀ f, designated (folders s) path = some f → WithinBudget p.maxAttempts xs → x = .ok ()) := by
  intro xs x left found
  have houtcome : Removal (folders s) path p.maxAttempts xs x :=
    remove_outcome p path hr.looksUp s
  have hleft : left = (deletions xs).foldl afterDeletion (folders s) :=
    folders_run hr (remove_calls p path) s
  refine ⟨?_, ?_, ?_, ?_, fun f hf hb => houtcome.eq_ok hf hb⟩
  · intro hx
    obtain ⟨f, hf, cs, hdeletions⟩ := houtcome.deletions_of_ok hx
    have hmem := mem_of_designated hf
    refine ⟨f, hf, hmem, ?_, cs, hdeletions⟩
    rw [hleft, hdeletions, foldl_afterDeletion_eq_erase hids hmem]
  · intro e he
    have hfailed := fun d hd => houtcome.deletions_of_error he (d := d) hd
    exact ⟨hleft.trans (foldl_afterDeletion_eq hfailed), hfailed⟩
  · intro name parent r hm
    rcases Dialogue.calls_exchanges (remove_calls p path) hm with ⟨_, _, hq⟩ | ⟨_, hq⟩ <;> cases hq
  · intro e he
    have hremove := remove_of_unfound p path he
    refine ⟨hremove.2, ?_⟩
    show deletions ((remove p path).exchanges h s) = []
    rw [hremove.1]
    exact deletions_eq_nil (folder_lookups p path) _

/-- The store in memory removes folders. -/
lemma openDrive_removes : Removes openDrive (·.folders) where
  looksUp := openDrive_looksUp
  deletes id d := by
    simp only [openDrive, Simulation.Drive.answer]
    cases (Simulation.Failures.next d.deleteFailures).1 <;> rfl

/-- Of two folders of one name the first is removed, at the second attempt. What it holds stays. -/
theorem removal_atomic_second_attempt :
    let busy : CallError := .httpStatus 503 "busy"
    let d : Simulation.Drive :=
      { folders := [⟨"1", "a", none⟩, ⟨"2", "b", some "1"⟩, ⟨"3", "b", some "1"⟩,
          ⟨"4", "c", some "2"⟩]
        loose := true
        listFolderFailures := [some busy]
        deleteFailures := [some busy] }
    (d.folders.map (·.id)).Nodup ∧
    ((remove .standard "/a//b/").run openDrive d).1 = .ok () ∧
    ((remove .standard "/a//b/").run openDrive d).2.folders =
      [⟨"1", "a", none⟩, ⟨"3", "b", some "1"⟩, ⟨"4", "c", some "2"⟩] ∧
    deletions ((remove .standard "/a//b/").exchanges openDrive d) =
      [("2", .error busy), ("2", .ok ())] := by
  intro busy d
  have hids : (d.folders.map (·.id)).Nodup := by decide
  have hf : designated d.folders "/a//b/" = some ⟨"2", "b", some "1"⟩ := rfl
  obtain ⟨hok, -, -, -, hbudget⟩ := removal_atomic openDrive_removes .standard "/a//b/" hids
  have hx := hbudget _ hf (.of_countP (by decide +kernel) (by decide +kernel))
  obtain ⟨f, hf', -, hleft, -⟩ := hok hx
  cases hf.symm.trans hf'
  exact ⟨hids, hx, hleft, by decide +kernel⟩

end FolderCopy.Service
