import FolderCopy.Proofs.Admission.Operations
import FolderCopy.Proofs.FolderPaths
import FolderCopy.Proofs.Resolution.Creation

/-!
# Missing resources

The first call that reports its resource as missing ends the request that it is made for, with an
error that names something as not found. The calls on the way to the folder of a path have the path
named, the deletion of that folder has not. Main statement: `missing_named_by_path_iff`.
-/

namespace FolderCopy.Service

open Retry Resolution
open Admission (Request)

/-- The names in a written path with single slashes between them. -/
def wanted (path : String) : String :=
  String.intercalate "/" (((path.toList.splitOn '/').filter (!·.isEmpty)).map String.ofList)

/-- The path that a request is about, as it was written. -/
def written : Request → String
  | .folder path _ | .remove path | .download path _ _ => path

/-- What is named where a call for a path reports its resource as missing. -/
def named (path : String) : StoreCall → String
  | .delete id => id
  | .list .. | .create .. | .download _ => wanted path

/-- The message that a path was not found. -/
def notFoundMessage (path : String) : StatusMessage where
  text := "Path not found: '" ++ path ++ "'"
  key := "tasks.drive.path_not_found"
  args := [("path", .text path)]

section Paths

/-- A path that is read is shown with the names that stand between the slashes. -/
lemma display_eq_wanted {path : String} {fp : FolderPath} (h : FolderPath.parse path = .ok fp) :
    fp.display = wanted path := by
  unfold FolderPath.parse at h
  split at h
  case isTrue => cases h
  case isFalse =>
    cases h
    show String.intercalate "/" ((FolderPath.runs path.toList).map String.ofList) = _
    rw [FolderPath.runs_eq_splitOn]
    rfl

end Paths

section Hosts

variable {σ α β : Type} {h : Host StoreCall StoreCall.Answer σ} {label label' : StoreCall → String}
  {path : String} {s : σ}

/-- Whether the first call that reports its resource as missing ends an operation, with an error
that names what goes with the call, and nothing else is named as not found but a path. -/
structure Tells (h : Host StoreCall StoreCall.Answer σ) (label : StoreCall → String) (path : String)
    (s : σ) (d : Operation α) : Prop where
  reported : ∀ c e, .call c (.error e) ∈ d.exchanges h s → e.isNotFound →
    (d.run h s).1 = .error (.notFound (label c) e.message)
  told : ∀ q reason, (d.run h s).1 = .error (.notFound q reason) →
    q = path ∨ ∃ c e, .call c (.error e) ∈ d.exchanges h s ∧ e.isNotFound ∧ q = label c

namespace Tells

variable {d : Operation α}

/-- A result tells of missing resources if nothing but the path is named in it. -/
lemma done {r : Except CopyError α} (hr : ∀ q reason, r = .error (.notFound q reason) → q = path) :
    Tells h label path s (.done r) where
  reported _ _ hm := by cases hm
  told q reason hx := .inl (hr q reason hx)

/-- A result without error names nothing as missing. -/
lemma ok {a : α} : Tells h label path s (.done (.ok a)) :=
  .done nofun

/-- An operation that goes on from an answer tells of missing resources if both of its parts do. -/
lemma andThen {f : α → Operation β} (hd : Tells h label path s d)
    (hf : ∀ a, Tells h label path (d.run h s).2 (f a)) : Tells h label path s (d.andThen f) := by
  obtain ⟨hreported, htold⟩ := hd
  -- Only after a success is there more to be said than of the first operation.
  cases hx : (d.run h s).1 with
  | ok a =>
    have hrun : (d.andThen f).run h s = (f a).run h (d.run h s).2 := by
      rw [Dialogue.andThen, Dialogue.run_bind, hx]
    have hxs : (d.andThen f).exchanges h s =
        d.exchanges h s ++ (f a).exchanges h (d.run h s).2 := by
      rw [Dialogue.andThen, Dialogue.exchanges_bind, hx]
    constructor
    · intro c e hm he
      rw [hxs] at hm
      rcases List.mem_append.1 hm with hm | hm
      · cases hx.symm.trans (hreported c e hm he)
      · rw [hrun]
        exact (hf a).reported c e hm he
    · intro q reason hq
      rw [hrun] at hq
      rw [hxs]
      refine ((hf a).told q reason hq).imp_right ?_
      rintro ⟨c, e, hm, hce⟩
      exact ⟨c, e, List.mem_append_right _ hm, hce⟩
  | error err =>
    have hyields : (d.andThen f).Yields h s (d.exchanges h s) (.error err) :=
      Dialogue.Yields.andThen_error ⟨rfl, hx⟩ f
    rw [hx] at hreported htold
    refine ⟨?_, ?_⟩
    · intro c e hm he
      rw [hyields.1] at hm
      rw [hyields.2]
      cases hreported c e hm he
      rfl
    · intro q reason hq
      rw [hyields.1]
      rw [hyields.2] at hq
      cases hq
      exact htold q reason rfl

/-- Where the error is said to be about a path, this path is named whatever was missing. -/
lemma withPath (hd : Tells h label path s d) (whole : String) :
    Tells h (fun _ => whole) whole s (d.mapError (CopyError.withPath whole)) := by
  have hyields : (d.mapError (CopyError.withPath whole)).Yields h s (d.exchanges h s) _ :=
    Dialogue.Yields.mapError ⟨rfl, rfl⟩ _
  constructor
  · intro c e hm he
    rw [hyields.1] at hm
    rw [hyields.2, hd.reported c e hm he]
    rfl
  · intro q reason hq
    rw [hyields.2] at hq
    left
    cases hx : (d.run h s).1 with
    | ok a =>
      rw [hx] at hq
      cases hq
    | error err =>
      rw [hx] at hq
      cases err with
      | notFound _ _ =>
        cases hq
        rfl
      | transient | fatal | cancelled => cases hq

/-- A span around an operation changes nothing in what it tells. -/
lemma within {sp : Log.Span} (hd : Tells h label path (h.enter sp s) d) :
    Tells h label path s (Dialogue.within sp d) := by
  have hyields : (Dialogue.within sp d).Yields h s (d.exchanges h (h.enter sp s)) _ :=
    Dialogue.Yields.within ⟨rfl, rfl⟩
  refine ⟨?_, ?_⟩ <;> rw [hyields.1, hyields.2]
  · exact hd.reported
  · exact hd.told

/-- A report ahead of an operation changes nothing in what it tells. -/
lemma note {e : Log.Event} (hd : Tells h label path (h.note e s) d) :
    Tells h label path s (.note e d) :=
  ⟨hd.reported, hd.told⟩

/-- What is named matters for the calls that an operation makes. -/
lemma relabel {P : StoreCall → Prop} (hd : Tells h label path s d) (hc : d.Calls P)
    (hl : ∀ c, P c → label c = label' c) : Tells h label' path s d := by
  constructor
  · intro c e hm he
    rw [← hl c (Dialogue.calls_exchanges hc hm)]
    exact hd.reported c e hm he
  · intro q reason hq
    refine (hd.told q reason hq).imp_right ?_
    rintro ⟨c, e, hm, he, rfl⟩
    exact ⟨c, e, hm, he, hl c (Dialogue.calls_exchanges hc hm)⟩

end Tells

/-- A call that fails in a series of attempts does so in one that is followed by another, or in the
last one. -/
lemma mem_failures_or_last {c c' : StoreCall} {e : CallError} {S : Series (StoreCall.Answer c)}
    (hm : .call c' (.error e) ∈ S.exchanges c) :
    c' = c ∧ (e ∈ S.failures ∨ S.last = .failed e) := by
  rcases List.mem_append.1 hm with hm | hm
  · obtain ⟨e', he', hm⟩ := List.mem_flatMap.1 hm
    simp only [admitted, List.mem_cons, List.not_mem_nil, or_false, reduceCtorEq, false_or] at hm
    cases hm
    exact ⟨rfl, .inl he'⟩
  · cases hl : S.last <;> rw [hl] at hm <;>
      simp only [LastAttempt.exchanges, admitted, List.mem_cons, List.not_mem_nil, or_false,
        reduceCtorEq, false_or] at hm
    all_goals cases hm
    exact ⟨rfl, .inr rfl⟩

/-- A retried call names its resource where that is reported as missing. -/
lemma tells_run (p : Policy) (resource : String) (c : StoreCall) :
    Tells h (fun _ => resource) path s (p.run resource c) := by
  have hkeeps : h.Keeps (fun _ => True) fun _ => () := by constructor <;> intros <;> rfl
  obtain ⟨S, hfits, ⟨hxs, hx⟩, -⟩ :=
    p.run_series (hkeeps.answers (q := c) trivial ()) resource (s := s) rfl
  constructor
  · intro c' e hm he
    rw [hxs] at hm
    obtain ⟨rfl, hm | hl⟩ := mem_failures_or_last hm
    · -- An attempt is followed by another one only where that may help.
      have := CallError.not_isRetryable_of_isNotFound he
      rw [hfits.passing e hm] at this
      cases this
    · rw [hx, Series.result, Series.resultFrom, hl]
      simp only [show e.outlook = .absent by simpa [CallError.isNotFound] using he]
  · intro q reason hq
    rw [hx, Series.result, Series.resultFrom] at hq
    cases hl : S.last with
    | refused e =>
      rw [hl] at hq
      cases hq
    | succeeded a =>
      rw [hl] at hq
      cases hq
    | failed e =>
      simp only [hl] at hq
      cases ho : e.outlook <;> simp only [ho] at hq <;> cases hq
      refine .inr ⟨c, e, ?_, by simp [CallError.isNotFound, ho], rfl⟩
      rw [hxs]
      exact List.mem_append_right _ (by simp [hl, LastAttempt.exchanges, admitted])

variable (p : Policy) (name : String) (createMissing : Bool)

/-- To enter a folder tells of missing resources by the path. -/
lemma tells_enter (parent : Option String) :
    Tells h (fun _ => path) path s (enter p path createMissing name parent) := by
  have hfind : Tells h (fun _ => name) name s (find p name parent) :=
    (tells_run p name _).andThen fun _ => .ok
  have hcreate (s : σ) : Tells h (fun _ => name) name s (create p name parent) :=
    (tells_run p name _).andThen fun _ => .note .ok
  refine (hfind.withPath path).andThen fun found => ?_
  cases found with
  | some id => exact .ok
  | none =>
    cases createMissing with
    | true => exact (hcreate _).withPath path
    | false =>
      refine .done ?_
      rintro q reason hq
      rw [missing_eq] at hq
      cases hq
      rfl

/-- To descend along names tells of missing resources by the path. -/
lemma tells_descend (rest : List String) (parent : Option String) :
    Tells h (fun _ => path) path s (descend p path createMissing name rest parent) := by
  induction rest generalizing name parent s with
  | nil => exact tells_enter p name createMissing parent
  | cons next rest ih =>
    exact (tells_enter p name createMissing parent).andThen fun id => ih next (some id)

/-- To resolve a path tells of missing resources by the path that was wanted. -/
lemma tells_folder (written : String) :
    Tells h (fun _ => wanted written) (wanted written) s (folder p written createMissing) := by
  refine .within ?_
  cases hp : FolderPath.parse written with
  | error e =>
    -- A path without names is no path that was not found.
    refine .done ?_
    rintro q reason ⟨⟩
    unfold FolderPath.parse at hp
    split at hp <;> cases hp
  | ok fp =>
    rw [← display_eq_wanted hp]
    obtain ⟨segments, nonempty, clean⟩ := fp
    cases segments with
    | nil => exact absurd rfl nonempty
    | cons first rest => exact .within (.note (tells_descend p first createMissing rest none))

/-- The way to a folder does not delete anything. -/
lemma folder_calls (written : String) :
    (folder p written createMissing).Calls fun c => ∀ id, c ≠ .delete id := by
  refine .within ?_
  cases FolderPath.parse written with
  | error e => exact True.intro
  | ok fp =>
    cases createMissing with
    | false =>
      refine (resolve_calls p fp).mono ?_
      rintro _ ⟨name, parent, rfl⟩ id
      exact nofun
    | true =>
      refine (resolve_steps p fp).mono ?_
      rintro _ (⟨name, parent, rfl⟩ | ⟨name, parent, rfl⟩) id <;> exact nofun

/-- A request names the path that was asked for, or the folder that it was about to delete. -/
lemma tells_request (r : Request) :
    Tells h (named (written r)) (wanted (written r)) s (r.dialogue p) := by
  have hfolder (path : String) (createMissing : Bool) (s : σ) :
      Tells h (named path) (wanted path) s (folder p path createMissing) := by
    refine (tells_folder p createMissing path).relabel (folder_calls p createMissing path) ?_
    intro c hc
    cases c with
    | delete id => exact absurd rfl (hc id)
    | list | create | download => rfl
  cases r with
  | folder path createMissing => exact (hfolder path createMissing s).andThen fun _ => .ok
  | download path destination o =>
    refine .andThen (.within ((hfolder path false _).andThen fun id => ?_)) fun _ => .ok
    exact .note (.note .ok)
  | remove path =>
    refine .andThen (.within ((hfolder path false _).andThen fun id => ?_)) fun _ => .ok
    refine .note (.andThen ?_ fun _ => .note .ok)
    refine (tells_run p id (.delete id)).relabel (p.run_calls id _) ?_
    rintro _ rfl
    rfl

end Hosts

/-- A call that reports its resource as missing ends the request that it is made for. What is then
reported to the application names the path that was asked for, as does the message that is shown,
unless the call was the deletion of a folder whose id is not this path. -/
theorem missing_named_by_path_iff {σ : Type} (h : Host StoreCall StoreCall.Answer σ) (p : Policy)
    (r : Request) (s : σ) :
    let xs := (r.dialogue p).exchanges h s
    let x := ((r.dialogue p).run h s).1
    (∀ c e, .call c (.error e) ∈ xs → e.isNotFound →
      x = .error (.notFound (named (written r) c) e.message)) ∧
    ((∀ q reason, x = .error (.notFound q reason) →
        q = wanted (written r) ∧
          (CopyError.notFound q reason).statusMessage = notFoundMessage (wanted (written r))) ↔
      ∀ id e, .call (.delete id) (.error e) ∈ xs → e.isNotFound → id = wanted (written r)) := by
  intro xs x
  obtain ⟨hreported, htold⟩ := tells_request (h := h) (s := s) p r
  refine ⟨hreported, ?_, ?_⟩
  · intro hpath id e hm he
    exact (hpath _ _ (hreported _ e hm he)).1
  · intro hdeleted q reason hx
    have hq : q = wanted (written r) := by
      rcases htold q reason hx with hq | ⟨c, e, hm, he, rfl⟩
      · exact hq
      · cases c with
        | delete id => exact hdeleted id e hm he
        | list | create | download => rfl
    subst hq
    exact ⟨rfl, rfl⟩

/-- The folder `b` in `a` is gone when it is to be deleted. It is reported by its id. -/
theorem removal_names_id :
    let d : Simulation.Drive :=
      { folders := [⟨"1", "a", none⟩, ⟨"2", "b", some "1"⟩],
        deleteFailures := [some (.notFound "2")] }
    let x := ((Service.remove .standard "a/b").run openDrive d).1
    wanted "a/b" = "a/b" ∧ x = .error (.notFound "2" "Resource not found: 2") ∧
      (CopyError.notFound "2" "Resource not found: 2").statusMessage = notFoundMessage "2" ∧
      notFoundMessage "2" ≠ notFoundMessage "a/b" := by
  refine ⟨by decide, rfl, rfl, ?_⟩
  intro he
  cases congrArg StatusMessage.text he

end FolderCopy.Service
