import FolderCopy.Resolution
import FolderCopy.Simulation.Drive
import FolderCopy.Proofs.Listings

/-!
# Walks down the folder tree

A resolution that creates nothing walks down the tree of folders: it looks each name up under the
folder found for the one before, and takes the first folder of exactly that name. What is found so
is said about the folders alone (`idsAlong`). One name is dealt with in `enter_outcome`, a whole
path by induction in `exists_walk`.
-/

namespace FolderCopy.Resolution

open Retry Listing
open Simulation (Folder)

/-- The first folder of a name under a parent. -/
def firstNamed (fs : List Folder) (parent : Option String) (name : String) : Option String :=
  (fs.find? fun f => f.parent == parent && f.name == name).map (·.id)

/-- The folders along names from a parent on, as far as each name has one. -/
def idsAlong (fs : List Folder) : Option String → List String → List String
  | _, [] => []
  | parent, name :: rest =>
    match firstNamed fs parent name with
    | none => []
    | some id => id :: idsAlong fs (some id) rest

def lookup (name : String) (parent : Option String) : Ask :=
  ⟨name, parent, .folderNamed name, none⟩

/-- The lookups along names from a parent on: each one is made under the folder found by the one
before, and the last one is that of the last name, or of the first one that has no folder. -/
def lookups (fs : List Folder) (parent : Option String) (names : List String) : List Ask :=
  List.zipWith lookup names (parent :: (idsAlong fs parent names).map some)

/-- What is said about a name that has no folder under the parent that was reached. -/
def absence (name : String) : (reached : Option String) → String
  | some id => "Directory \"" ++ name ++ "\" not found in parent " ++ id
  | none => "Directory \"" ++ name ++ "\" not found"

def entered (fs : List Folder) (path name : String) (parent : Option String) :
    Except CopyError String :=
  match firstNamed fs parent name with
  | some id => .ok id
  | none => .error (missing path name parent)

/-- What names come to where nothing is created: the folder of the last one, or an error about the
first that has none. -/
def arrival (fs : List Folder) (path name : String) :
    (rest : List String) → (parent : Option String) → Except CopyError String
  | [], parent => entered fs path name parent
  | next :: rest, parent =>
    (entered fs path name parent).bind fun id => arrival fs path next rest (some id)

section Names

variable {fs : List Folder} {parent : Option String} {name : String} {rest : List String}

/-- Where a name has no folder, none is found along it and what follows. -/
lemma idsAlong_of_none (hn : firstNamed fs parent name = none) :
    idsAlong fs parent (name :: rest) = [] := by
  simp only [idsAlong, hn]

/-- Where a name has a folder, this is found, and others under it. -/
lemma idsAlong_of_some {id : String} (hid : firstNamed fs parent name = some id) :
    idsAlong fs parent (name :: rest) = id :: idsAlong fs (some id) rest := by
  simp only [idsAlong, hid]

/-- A name without a folder is reported as missing. -/
lemma entered_of_none {path : String} (hn : firstNamed fs parent name = none) :
    entered fs path name parent = .error (missing path name parent) := by
  simp only [entered, hn]

/-- A name with a folder leads into it. -/
lemma entered_of_some {path id : String} (hid : firstNamed fs parent name = some id) :
    entered fs path name parent = .ok id := by
  simp only [entered, hid]

/-- The first name without a folder is the last one to be looked up. -/
lemma lookups_of_none (hn : firstNamed fs parent name = none) :
    lookups fs parent (name :: rest) = [lookup name parent] := by
  rw [lookups, idsAlong_of_none hn]
  exact congrArg (lookup name parent :: ·) List.zipWith_nil_right

/-- After a name with a folder, the next one is looked up under it. -/
lemma lookups_of_some {id : String} (hid : firstNamed fs parent name = some id) :
    lookups fs parent (name :: rest) = lookup name parent :: lookups fs (some id) rest := by
  rw [lookups, idsAlong_of_some hid]
  rfl

/-- A whole path is walked down where every name has a folder, to the one found last. -/
lemma arrival_eq_ok_iff {path id : String} :
    arrival fs path name rest parent = .ok id ↔
      (idsAlong fs parent (name :: rest)).length = (name :: rest).length ∧
        (idsAlong fs parent (name :: rest)).getLast? = some id := by
  induction rest generalizing name parent with
  | nil =>
    unfold arrival
    cases hid : firstNamed fs parent name with
    | none => simp [entered_of_none hid, idsAlong_of_none hid]
    | some id' =>
      rw [entered_of_some hid, idsAlong_of_some hid]
      simp [idsAlong]
  | cons next rest ih =>
    unfold arrival
    cases hid : firstNamed fs parent name with
    | none => simp [entered_of_none hid, idsAlong_of_none hid, Except.bind]
    | some id' =>
      rw [entered_of_some hid, idsAlong_of_some hid, List.length_cons, List.length_cons,
        Nat.succ_inj, List.getLast?_cons]
      refine ih.trans (and_congr_right fun hlength => ?_)
      -- All the rest was found, so one of it was found last.
      cases hlast : (idsAlong fs (some id') (next :: rest)).getLast? with
      | none =>
        rw [List.getLast?_eq_none_iff.1 hlast] at hlength
        cases hlength
      | some last => rfl

end Names

section Calls

variable (p : Policy) (path : String)

/-- Whether a call is a lookup of some name under some parent. -/
def IsLookup (q : StoreCall) : Prop :=
  ∃ name parent, q = (lookup name parent).call

/-- Without permission to create, to enter a folder takes lookups only. -/
lemma enter_calls (name : String) (parent : Option String) :
    (enter p path false name parent).Calls IsLookup := by
  have hrun : (p.run (A := StoreCall.Answer) name (lookup name parent).call).Calls IsLookup :=
    (p.run_calls name _).mono fun _ hq => ⟨name, parent, hq⟩
  refine .andThen (.mapError (hrun.andThen fun page => ?_)) fun found => ?_
  · exact True.intro
  · cases found <;> exact True.intro

/-- Without permission to create, to descend along names takes lookups only. -/
lemma descend_calls (name : String) (rest : List String) (parent : Option String) :
    (descend p path false name rest parent).Calls IsLookup := by
  induction rest generalizing name parent with
  | nil => exact enter_calls p path name parent
  | cons next rest ih => exact (enter_calls p path name parent).andThen fun id => ih next (some id)

/-- A resolution that creates nothing only looks folders up, whatever it is answered. -/
lemma resolve_calls (path : FolderPath) : (resolve p path false).Calls IsLookup := by
  obtain ⟨segments, nonempty, clean⟩ := path
  cases segments with
  | nil => exact absurd rfl nonempty
  | cons name rest => exact .within (descend_calls p _ name rest none)

end Calls

section Hosts

variable {σ : Type} (h : Host StoreCall StoreCall.Answer σ)

/-- Whether a store looks folders up: a lookup that is answered with success is answered with a page
that holds the folders of the name under the parent in their order. Among them may be others of
other names. -/
structure LooksUp (folders : σ → List Folder) : Prop where
  keeps : h.Keeps IsLookup folders
  answers : ∀ s name parent page, (h.call (lookup name parent).call s).1 = .ok page →
    (page.entries.filter (·.name == name)).map (·.id) =
      ((folders s).filter fun f => f.parent == parent && f.name == name).map (·.id)

variable {h} {folders : σ → List Folder}

/-- What is taken from the answer to a lookup is the first folder of the name. -/
lemma LooksUp.idOf?_eq (hl : LooksUp h folders) {s : σ} {name : String} {parent : Option String}
    {page : Page}
    (hp : (h.call (lookup name parent).call s).1 = .ok page) :
    idOf? name page.entries = firstNamed (folders s) parent name := by
  have := congrArg List.head? (hl.answers s name parent page hp)
  rwa [List.head?_map, List.head?_map, List.head?_filter, List.head?_filter] at this

variable (hl : LooksUp h folders) (p : Policy) (path name : String)

include hl

/-- Entering a folder leaves all folders as they are. -/
lemma enter_keeps (parent : Option String) (s : σ) :
    folders ((enter p path false name parent).run h s).2 = folders s :=
  Dialogue.view_run hl.keeps (enter_calls p path name parent) s

/-- A name is looked up once, under its parent. -/
lemma enter_outcome (parent : Option String) (s : σ) :
    (∃ r : Answered, r.ask = lookup name parent ∧ (∀ e ∈ r.failures, e.isRetryable) ∧
      r.failures.length < p.maxAttempts ∧
      (enter p path false name parent).Yields h s r.exchanges
        (entered (folders s) path name parent)) ∨
    ∃ f : GivenUp, f.ask = lookup name parent ∧ f.attempts.Fits p.maxAttempts ∧
      f.attempts.result name = .error f.error ∧
      (enter p path false name parent).Yields h s f.exchanges
        (.error (f.error.withPath path)) := by
  have hA := hl.keeps.answers (q := (lookup name parent).call) ⟨name, parent, rfl⟩ (folders s)
  rcases Ask.outcome (a := lookup name parent) hA p rfl with
    ⟨r, hask, hpassing, hlength, hyields, s', hs', hcall⟩ | ⟨f, hask, hfits, hr, hyields⟩
  · refine .inl ⟨r, hask, hpassing, hlength, ?_⟩
    have hfind : (find p name parent).Yields h s r.exchanges
        (.ok (firstNamed (folders s) parent name)) := by
      rw [← hs', ← hl.idOf?_eq hcall]
      exact Dialogue.Yields.bind_done hyields rfl
    have henter := hfind.mapError (CopyError.withPath path)
    unfold entered
    cases hid : firstNamed (folders s) parent name with
    | some id =>
      rw [hid] at henter
      exact henter.bind_done rfl
    | none =>
      rw [hid] at henter
      exact henter.bind_done rfl
  · refine .inr ⟨f, hask, hfits, hr, ?_⟩
    exact (Dialogue.Yields.mapError (hyields.andThen_error _) _).andThen_error _

/-- A path is walked name by name: the lookups are those along its names. -/
lemma exists_walk (rest : List String) (parent : Option String) (s : σ) :
    ∃ (R : Reading) (x : Except CopyError String),
      R.Follows p (lookups (folders s) parent (name :: rest)) ∧
      (descend p path false name rest parent).Yields h s R.exchanges x ∧
      (R.failed = none → x = arrival (folders s) path name rest parent) ∧
      ∀ f, R.failed = some f → x = .error (f.error.withPath path) := by
  induction rest generalizing name parent s with
  | nil =>
    rcases enter_outcome hl p path name parent s with
      ⟨r, hask, hpassing, hlength, hyields⟩ | ⟨f, hask, hfits, hr, hyields⟩
    · refine ⟨⟨[r], none⟩, _, ?_, ?_, fun _ => rfl, ?_⟩
      · exact Reading.follows_nil.prepend hask hpassing hlength
      · rwa [Reading.exchanges_single]
      · rintro _ ⟨⟩
    · refine ⟨⟨[], some f⟩, _, Reading.follows_failed hask hfits hr, hyields, nofun, ?_⟩
      rintro _ ⟨⟩
      rfl
  | cons next rest ih =>
    rcases enter_outcome hl p path name parent s with
      ⟨r, hask, hpassing, hlength, hyields⟩ | ⟨f, hask, hfits, hr, hyields⟩
    · unfold descend arrival
      cases hid : firstNamed (folders s) parent name with
      | none =>
        rw [entered_of_none hid] at hyields ⊢
        rw [lookups_of_none hid]
        refine ⟨⟨[r], none⟩, _, ?_, ?_, fun _ => rfl, ?_⟩
        · exact Reading.follows_nil.prepend hask hpassing hlength
        · rw [Reading.exchanges_single]
          exact hyields.andThen_error _
        · rintro _ ⟨⟩
      | some id =>
        rw [entered_of_some hid] at hyields ⊢
        rw [lookups_of_some hid]
        -- The folders are the same when the rest is walked, under the one that was found.
        obtain ⟨R, x, hR, hrest, hx, hf⟩ :=
          ih next (some id) ((enter p path false name parent).run h s).2
        rw [enter_keeps hl p path name parent s] at hR hx
        refine ⟨R.prepend r, x, hR.prepend hask hpassing hlength, ?_, hx, hf⟩
        rw [Reading.exchanges_prepend]
        exact hyields.andThen hrest
    · refine ⟨⟨[], some f⟩, _, Reading.follows_failed hask hfits hr, hyields.andThen_error _, nofun,
        ?_⟩
      rintro _ ⟨⟩
      rfl

omit hl in
/-- What is reported as missing is the whole path, with the name as the reason. -/
lemma missing_eq (reached : Option String) :
    missing path name reached = .notFound path (absence name reached) := by
  cases reached <;> rfl

end Hosts

/-- A store in memory that admits everyone. -/
def openDrive : Host StoreCall StoreCall.Answer Simulation.Drive where
  acquire d := (.ok (), d)
  release := id
  call := Simulation.Drive.answer
  note _ d := d
  enter _ d := d
  leave d := d

/-- Of what a lookup answers, the entries of the name are the folders of the name, in their order.
-/
lemma lookup_named (d : Simulation.Drive) (name : String) (parent : Option String) :
    ((d.lookup parent (.folderNamed name)).entries.filter (·.name == name)).map (·.id) =
      (d.folders.filter fun f => f.parent == parent && f.name == name).map (·.id) := by
  simp only [Simulation.Drive.lookup, Filter.folderNamed, List.filter_map, List.filter_filter,
    List.map_map]
  congr 1
  apply List.filter_congr
  intro f _
  cases hname : f.name == name <;> simp [hname]

/-- A lookup leaves the folders of the store and, where it is answered, gives all that the store
finds. -/
lemma openDrive_call (d : Simulation.Drive) (name : String) (parent : Option String) :
    (openDrive.call (lookup name parent).call d).2.folders = d.folders ∧
      ∀ page, (openDrive.call (lookup name parent).call d).1 = .ok page →
        page = d.lookup parent (.folderNamed name) := by
  simp only [openDrive, Ask.call, lookup, Filter.folderNamed, Simulation.Drive.answer]
  cases (Simulation.Failures.next d.listFolderFailures).1 with
  | some e => exact ⟨rfl, nofun⟩
  | none => exact ⟨rfl, fun page hp => (Except.ok.inj hp).symm⟩

/-- The store in memory looks folders up, among siblings of other names or not. -/
lemma openDrive_looksUp : LooksUp openDrive (·.folders) := by
  refine ⟨⟨fun _ => rfl, fun _ => rfl, ?_, fun _ _ => rfl, fun _ _ => rfl, fun _ => rfl⟩, ?_⟩
  · rintro _ ⟨name, parent, rfl⟩ d
    exact (openDrive_call d name parent).1
  · intro d name parent page hp
    rw [(openDrive_call d name parent).2 page hp]
    exact lookup_named d name parent

end FolderCopy.Resolution
