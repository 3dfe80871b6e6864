import FolderCopy.Proofs.Resolution.Suffix

/-!
# Making missing folders

A store that makes folders puts each one behind all others, with an id that was used nowhere
(`Grows`). A resolution that may create folders makes those that are missing at the end of its path,
and all of them where nothing is finally refused to it. One that was given up leaves folders that
the next one finds, so that nothing is made twice however often it is tried (`Resumed.made_eq`).
-/

namespace FolderCopy.Resolution

open Retry Listing
open Simulation (Folder Drive)

/-- Whether a call is one that a resolution makes: a lookup, or a call that makes a folder. -/
def IsStep (q : StoreCall) : Prop :=
  IsLookup q ∨ ∃ name parent, q = .create name parent

section Calls

variable (p : Policy) (path : String)

/-- To enter a folder takes lookups and creations only. -/
lemma enter_steps (name : String) (parent : Option String) :
    (enter p path true name parent).Calls IsStep := by
  have hlookup : (p.run (A := StoreCall.Answer) name (lookup name parent).call).Calls IsStep :=
    (p.run_calls name _).mono fun _ hq => .inl ⟨name, parent, hq⟩
  have hcreate : (p.run (A := StoreCall.Answer) name (.create name parent)).Calls IsStep :=
    (p.run_calls name _).mono fun _ hq => .inr ⟨name, parent, hq⟩
  refine .andThen (.mapError (hlookup.andThen fun page => ?_)) fun found => ?_
  · exact True.intro
  · cases found with
    | some id => exact True.intro
    | none => exact .mapError (hcreate.andThen fun id => True.intro)

/-- To descend along names takes lookups and creations only. -/
lemma descend_steps (name : String) (rest : List String) (parent : Option String) :
    (descend p path true name rest parent).Calls IsStep := by
  induction rest generalizing name parent with
  | nil => exact enter_steps p path name parent
  | cons next rest ih => exact (enter_steps p path name parent).andThen fun id => ih next (some id)

/-- A resolution looks folders up and makes folders, whatever it is answered. -/
lemma resolve_steps (path : FolderPath) : (resolve p path true).Calls IsStep := by
  obtain ⟨segments, nonempty, clean⟩ := path
  cases segments with
  | nil => exact absurd rfl nonempty
  | cons name rest => exact .within (descend_steps p _ name rest none)

end Calls

section Hosts

variable {σ : Type} (h : Host StoreCall StoreCall.Answer σ)

/-- Whether a store looks folders up and makes folders, in states of some kind that it never leaves:
a call that makes a folder puts one with an unused id behind all others, or fails and changes
nothing. -/
structure Grows (valid : σ → Prop) (folders : σ → List Folder) : Prop where
  looksUp : LooksUp h folders
  acquire : ∀ s, valid s → valid (h.acquire s).2
  release : ∀ s, valid s → valid (h.release s)
  call : ∀ q, IsStep q → ∀ s, valid s → valid (h.call q s).2
  note : ∀ e s, valid s → valid (h.note e s)
  enter : ∀ sp s, valid s → valid (h.enter sp s)
  leave : ∀ s, valid s → valid (h.leave s)
  notCreated : ∀ s name parent e, valid s → (h.call (.create name parent) s).1 = .error e →
    folders (h.call (.create name parent) s).2 = folders s
  created : ∀ s name parent id, valid s → (h.call (.create name parent) s).1 = .ok id →
    Fresh (folders s) id ∧
      folders (h.call (.create name parent) s).2 = folders s ++ [⟨id, name, parent⟩]

variable {h} {valid : σ → Prop} {folders : σ → List Folder} (hg : Grows h valid folders)

include hg

/-- After a lookup the folders are those that there were, after a call that makes a folder there is
one more where it was answered with success. -/
lemma Grows.folders_call {q : StoreCall} (hq : IsStep q) {s : σ} (hs : valid s) :
    folders (h.call q s).2 = folders s ++ made [.call q (h.call q s).1] := by
  rcases hq with hq | ⟨name, parent, rfl⟩
  · rw [hg.looksUp.keeps.call q hq s]
    obtain ⟨name, parent, rfl⟩ := hq
    exact (List.append_nil _).symm
  · cases hr : (h.call (.create name parent) s).1 with
    | error e =>
      rw [hg.notCreated s name parent e hs hr]
      exact (List.append_nil _).symm
    | ok id => exact (hg.created s name parent id hs hr).2

/-- The folders grow by those that are made. -/
lemma Grows.folders_run {α : Type} {d : Dialogue StoreCall StoreCall.Answer α}
    (hd : d.Calls IsStep) {s : σ} (hs : valid s) :
    valid (d.run h s).2 ∧ folders (d.run h s).2 = folders s ++ made (d.exchanges h s) := by
  have hk := hg.looksUp.keeps
  induction d generalizing s with
  | done a => exact ⟨hs, (List.append_nil _).symm⟩
  | acquire next ih =>
    obtain ⟨hv, hf⟩ := ih _ (hd _) (hg.acquire s hs)
    exact ⟨hv, by rw [hk.acquire] at hf; exact hf⟩
  | release next ih =>
    obtain ⟨hv, hf⟩ := ih hd (hg.release s hs)
    exact ⟨hv, by rw [hk.release] at hf; exact hf⟩
  | call q next ih =>
    obtain ⟨hv, hf⟩ := ih _ (hd.2 _) (hg.call q hd.1 s hs)
    refine ⟨hv, ?_⟩
    rw [hg.folders_call hd.1 hs, List.append_assoc, ← made_append] at hf
    exact hf
  | note e next ih =>
    obtain ⟨hv, hf⟩ := ih hd (hg.note e s hs)
    exact ⟨hv, by rw [hk.note] at hf; exact hf⟩
  | enter sp next ih =>
    obtain ⟨hv, hf⟩ := ih hd (hg.enter sp s hs)
    exact ⟨hv, by rw [hk.enter] at hf; exact hf⟩
  | leave next ih =>
    obtain ⟨hv, hf⟩ := ih hd (hg.leave s hs)
    exact ⟨hv, by rw [hk.leave] at hf; exact hf⟩

/-- A store that grows makes a folder with a new id, or fails and has the folders that it had. -/
lemma Grows.answers_create (name : String) (parent : Option String) (fs : List Folder) :
    h.Answers (.create name parent) (fun s => valid s ∧ folders s = fs)
      fun id _ => Fresh fs id where
  acquire s hs := ⟨hg.acquire s hs.1, (hg.looksUp.keeps.acquire s).trans hs.2⟩
  release s hs := ⟨hg.release s hs.1, (hg.looksUp.keeps.release s).trans hs.2⟩
  note e s hs := ⟨hg.note e s hs.1, (hg.looksUp.keeps.note e s).trans hs.2⟩
  failed s e hs hr :=
    ⟨hg.call _ (.inr ⟨name, parent, rfl⟩) s hs.1,
      (hg.notCreated s name parent e hs.1 hr).trans hs.2⟩
  answered s id hs hr := hs.2 ▸ (hg.created s name parent id hs.1 hr).1
  released _ _ := id
  noted _ _ _ := id

variable (p : Policy) (path name : String)

/-- One name is looked up, and its folder is made where there is none. -/
lemma exists_entering (parent : Option String) {s : σ} (hs : valid s) :
    ∃ xs x, (enter p path true name parent).Yields h s xs x ∧
      Entering p (folders s) name parent xs x := by
  have hA := hg.looksUp.keeps.answers (q := (lookup name parent).call) ⟨name, parent, rfl⟩
    (folders s)
  obtain ⟨S, hfits, hS, hpage⟩ := p.run_series hA name (s := s) rfl
  cases hr : S.result name with
  | error e =>
    rw [hr] at hS
    refine ⟨_, _, (Dialogue.Yields.mapError (hS.andThen_error _) _).andThen_error _,
      .notLookedUp hfits ?_⟩
    intro page hl
    rw [Series.result_eq_ok.2 hl] at hr
    cases hr
  | ok page =>
    have hl := Series.result_eq_ok.1 hr
    obtain ⟨s', hs', hcall⟩ := hpage page hl
    have hfind : (find p name parent).Yields h s (S.exchanges (lookup name parent).call)
        (.ok (firstNamed (folders s) parent name)) := by
      rw [← hs', ← hg.looksUp.idOf?_eq hcall]
      rw [hr] at hS
      exact hS.bind_done rfl
    have hfound := hfind.mapError (CopyError.withPath path)
    cases hid : firstNamed (folders s) parent name with
    | some id =>
      rw [hid] at hfound
      exact ⟨_, _, hfound.bind_done rfl, .found hl hid⟩
    | none =>
      rw [hid] at hfound
      -- The folders are those that there were, when one is made.
      have hcalls : ((find p name parent).mapError (CopyError.withPath path)).Calls IsStep :=
        .mapError (.andThen ((p.run_calls name _).mono fun _ hq => .inl ⟨name, parent, hq⟩)
          fun _ => True.intro)
      obtain ⟨hv, hf⟩ := hg.folders_run hcalls hs
      rw [hfound.1, made_lookups, List.append_nil] at hf
      obtain ⟨T, hfits', hT, hnew⟩ :=
        p.run_series (hg.answers_create name parent (folders s)) name ⟨hv, hf⟩
      cases hr' : T.result name with
      | error e =>
        rw [hr'] at hT
        refine ⟨_, _, hfound.andThen (Dialogue.Yields.mapError (hT.andThen_error _) _),
          .notCreated hl hid hfits' ?_⟩
        intro id hl'
        rw [Series.result_eq_ok.2 hl'] at hr'
        cases hr'
      | ok id =>
        rw [hr'] at hT
        have hl' := Series.result_eq_ok.1 hr'
        have hcreate : (create p name parent).Yields h _ (T.exchanges (.create name parent) ++ [])
            (.ok id) := hT.andThen ⟨rfl, rfl⟩
        rw [List.append_nil] at hcreate
        exact ⟨_, _, hfound.andThen (hcreate.mapError _), .created hl hid hl' (hnew id hl')⟩

/-- A path is followed name by name, and built from the first name on that has no folder. -/
lemma exists_built (rest : List String) {parent : Option String} {s : σ} (hs : valid s)
    (hk : Known (folders s) parent) :
    ∃ xs x found new, (descend p path true name rest parent).Yields h s xs x ∧
      Built p (folders s) parent (name :: rest) xs x found new := by
  induction rest generalizing name parent s with
  | nil =>
    obtain ⟨xs, x, hyields, hentering⟩ := exists_entering hg p path name parent hs
    rcases hentering.built hk with ⟨id, rfl, -, hbuilt⟩ | ⟨e, rfl, hbuilt⟩
    · obtain ⟨found, new, hB⟩ := hbuilt _ _ _ _ _ .nil
      rw [List.append_nil] at hB
      exact ⟨xs, _, found, new, hyields, hB⟩
    · obtain ⟨found, new, hB⟩ := hbuilt []
      exact ⟨xs, _, found, new, hyields, hB⟩
  | cons next rest ih =>
    obtain ⟨xs, x, hyields, hentering⟩ := exists_entering hg p path name parent hs
    rcases hentering.built hk with ⟨id, rfl, hk', hbuilt⟩ | ⟨e, rfl, hbuilt⟩
    · obtain ⟨hv, hf⟩ := hg.folders_run (enter_steps p path name parent) hs
      rw [hyields.1] at hf
      rw [← hf] at hk' hbuilt
      obtain ⟨ys, y, found', new', hrest, hB'⟩ := ih next hv hk'
      obtain ⟨found, new, hB⟩ := hbuilt _ _ _ _ _ hB'
      exact ⟨xs ++ ys, y, found, new, hyields.andThen hrest, hB⟩
    · obtain ⟨found, new, hB⟩ := hbuilt (next :: rest)
      exact ⟨xs, _, found, new, hyields.andThen_error _, hB⟩

/-- What a whole resolution comes to. -/
lemma resolve_built (path : FolderPath) {s : σ} (hs : valid s) :
    ∃ found new, Built p (folders s) none path.segments ((resolve p path true).exchanges h s)
      ((resolve p path true).run h s).1 found new := by
  obtain ⟨segments, nonempty, clean⟩ := path
  cases segments with
  | nil => exact absurd rfl nonempty
  | cons name rest =>
    let path : FolderPath := ⟨name :: rest, nonempty, clean⟩
    let start := h.note (begins path.display true) (h.enter (spanOf path.display true) s)
    have hstart : folders start = folders s :=
      (hg.looksUp.keeps.note _ _).trans (hg.looksUp.keeps.enter _ _)
    obtain ⟨xs, x, found, new, hyields, hB⟩ := exists_built hg p path.display name rest
      (s := start) (hg.note _ _ (hg.enter _ _ hs)) known_none
    have hresolve : (resolve p path true).Yields h s xs x := Dialogue.Yields.within hyields
    rw [hstart] at hB
    rw [hresolve.1, hresolve.2]
    exact ⟨found, new, hB⟩

omit hg in
/-- Where every name of a path has a folder, the last one is found, or a lookup is given up. -/
lemma resolve_found (hl : LooksUp h folders) (path : FolderPath) {t : σ} {id : String}
    (hlength : (idsAlong (folders t) none path.segments).length = path.segments.length)
    (hlast : (idsAlong (folders t) none path.segments).getLast? = some id) :
    (∀ id', ((resolve p path false).run h t).1 = .ok id' → id' = id) ∧
      (WithinBudget p.maxAttempts ((resolve p path false).exchanges h t) →
        ((resolve p path false).run h t).1 = .ok id) := by
  obtain ⟨segments, nonempty, clean⟩ := path
  cases segments with
  | nil => exact absurd rfl nonempty
  | cons name rest =>
    let path : FolderPath := ⟨name :: rest, nonempty, clean⟩
    let start := h.note (begins path.display false) (h.enter (spanOf path.display false) t)
    have hstart : folders start = folders t := (hl.keeps.note _ _).trans (hl.keeps.enter _ _)
    obtain ⟨R, x, hR, hyields, hx, hf⟩ := exists_walk hl p path.display name rest none start
    have hresolve : (resolve p path false).Yields h t R.exchanges x := .within hyields
    rw [hstart] at hR hx
    have harrival : arrival (folders t) path.display name rest none = .ok id :=
      arrival_eq_ok_iff.2 ⟨hlength, hlast⟩
    rw [hresolve.1, hresolve.2]
    constructor
    · intro id' hid
      cases hfailed : R.failed with
      | none =>
        rw [hx hfailed, harrival] at hid
        exact (Except.ok.inj hid).symm
      | some f =>
        rw [hf f hfailed] at hid
        cases hid
    · intro hb
      rw [hx (hR.failed_eq_none hb), harrival]

/-- Where every name of a path has a folder, nothing is made, and the last one is found or a lookup
is given up. -/
lemma resolve_again (path : FolderPath) (createMissing : Bool) {t : σ} (ht : valid t) {id : String}
    (hlength : (idsAlong (folders t) none path.segments).length = path.segments.length)
    (hlast : (idsAlong (folders t) none path.segments).getLast? = some id) :
    (∀ q r, .call q r ∈ (resolve p path createMissing).exchanges h t → IsLookup q) ∧
      folders ((resolve p path createMissing).run h t).2 = folders t ∧
      (∀ id', ((resolve p path createMissing).run h t).1 = .ok id' → id' = id) ∧
      (WithinBudget p.maxAttempts ((resolve p path createMissing).exchanges h t) →
        ((resolve p path createMissing).run h t).1 = .ok id) := by
  cases createMissing with
  | false =>
    have hcalls := resolve_calls p path
    exact ⟨fun q r hm => Dialogue.calls_exchanges hcalls hm,
      Dialogue.view_run hg.looksUp.keeps hcalls t, resolve_found p hg.looksUp path hlength hlast⟩
  | true =>
    obtain ⟨-, hfolders⟩ := hg.folders_run (resolve_steps p path) ht
    obtain ⟨found, new, hB⟩ := resolve_built hg p path ht
    rw [← hB.found_eq] at hlength hlast
    -- There is no name left for which something could have been made.
    obtain rfl : new = [] := by
      have hle := hB.length_le
      rw [List.length_append] at hle
      exact List.eq_nil_of_length_eq_zero (by omega)
    have hok (id' : String) (hx : ((resolve p path true).run h t).1 = .ok id') : id' = id := by
      obtain ⟨-, harrived, -⟩ := hB.arrived id' hx
      rw [List.append_nil, hlast] at harrived
      exact (Option.some.inj harrived).symm
    refine ⟨hB.lookups hlength, ?_, hok, fun hb => ?_⟩
    · rw [hfolders, hB.made_eq, List.append_nil, List.drop_of_length_le, List.append_nil]
      rw [length_along]
      exact Nat.min_le_right _ _
    · obtain ⟨id', hx⟩ := hB.spared hb
      rw [hx, hok id' hx]

end Hosts

/-- Resolutions of one path, one after the other, with all that passes in them: some that fail, and
one that gives a folder. The folders are the same when the next one begins. -/
inductive Resumed {σ : Type} (h : Host StoreCall StoreCall.Answer σ) (valid : σ → Prop)
    (folders : σ → List Folder) (path : FolderPath) : σ → List StoreExchange → σ → Prop where
  | last {p : Policy} {s id} (hx : ((resolve p path true).run h s).1 = .ok id) :
    Resumed h valid folders path s ((resolve p path true).exchanges h s)
      ((resolve p path true).run h s).2
  | again {p : Policy} {s e t xs s'} (hx : ((resolve p path true).run h s).1 = .error e)
    (ht : valid t) (hf : folders t = folders ((resolve p path true).run h s).2)
    (hr : Resumed h valid folders path t xs s') :
    Resumed h valid folders path s ((resolve p path true).exchanges h s ++ xs) s'

section Runs

variable {σ : Type} {h : Host StoreCall StoreCall.Answer σ} {valid : σ → Prop}
  {folders : σ → List Folder}

/-- Resolutions that follow on each other make what is missing at the end of the path, once. -/
lemma Resumed.made_eq (hg : Grows h valid folders) {path : FolderPath} {s s' : σ}
    {xs : List StoreExchange} (hr : Resumed h valid folders path s xs s') (hs : valid s) :
    folders s' = folders s ++ made xs ∧ ∃ new,
      (idsAlong (folders s) none path.segments ++ new).length = path.segments.length ∧
      made xs = (along none path.segments (idsAlong (folders s) none path.segments ++ new)).drop
        (idsAlong (folders s) none path.segments).length := by
  induction hr with
  | @last p s id hx =>
    obtain ⟨-, hfolders⟩ := hg.folders_run (resolve_steps p path) hs
    obtain ⟨found, new, hB⟩ := resolve_built hg p path hs
    obtain ⟨hlength, -, -⟩ := hB.arrived id hx
    rw [← hB.found_eq]
    exact ⟨hfolders, new, hlength, hB.made_eq⟩
  | @again p s e t xs s' hx ht hf hr ih =>
    obtain ⟨-, hfolders⟩ := hg.folders_run (resolve_steps p path) hs
    obtain ⟨found, new, hB⟩ := resolve_built hg p path hs
    obtain ⟨hfolders', new', hlength, hmade⟩ := ih ht
    -- The next one finds all that was found or made before.
    rw [hf, hfolders, hB.kept] at hlength hmade
    refine ⟨?_, new ++ new', ?_, ?_⟩
    · rw [hfolders', hf, hfolders, made_append, List.append_assoc]
    · rw [← hB.found_eq, ← List.append_assoc]
      exact hlength
    · rw [← hB.found_eq, made_append, hB.made_eq, hmade, ← List.append_assoc]
      exact drop_along hB.length_le

end Runs

/-- A resolution that may create folders makes those that are missing at the end of its path, in
order, each under the one before, and leaves all others as they are; where it was given up, the
first ones of them. When it has succeeded, the same folder is found again and nothing more is made.
However often it was given up before it succeeds, no folder is made twice. -/
theorem resolve_makes_missing {σ : Type} {h : Host StoreCall StoreCall.Answer σ} {valid : σ → Prop}
    {folders : σ → List Folder} (hg : Grows h valid folders) (p : Policy) (path : FolderPath)
    {s : σ} (hs : valid s) :
    let found := idsAlong (folders s) none path.segments
    let xs := (resolve p path true).exchanges h s
    let x := ((resolve p path true).run h s).1
    let s' := ((resolve p path true).run h s).2
    (∃ new : List String,
      let stops := along none path.segments (found ++ new)
      (found ++ new).length ≤ path.segments.length ∧
      made xs = stops.drop found.length ∧ folders s' = folders s ++ stops.drop found.length ∧
      (WithinBudget p.maxAttempts xs → ∃ id, x = .ok id) ∧
      ∀ id, x = .ok id →
        stops.length = path.segments.length ∧ (stops.getLast?.map (·.id)) = some id ∧
        served xs = (stops.take found.length).map lookedUp ++
          (stops.drop found.length).flatMap built ∧
        ∀ (p' : Policy) (createMissing : Bool) (t : σ), valid t → folders t = folders s' →
          let ys := (resolve p' path createMissing).exchanges h t
          let y := ((resolve p' path createMissing).run h t).1
          let t' := ((resolve p' path createMissing).run h t).2
          (∀ name parent r, .call (.create name parent) r ∉ ys) ∧ folders t' = folders t ∧
          (∀ id', y = .ok id' → id' = id) ∧ (WithinBudget p'.maxAttempts ys → y = .ok id)) ∧
    ∀ ys t, Resumed h valid folders path s ys t →
      (made ys).length = path.segments.length - found.length ∧ folders t = folders s ++ made ys ∧
      ∃ new, made ys = (along none path.segments (found ++ new)).drop found.length := by
  intro found xs x s'
  obtain ⟨-, hfolders⟩ := hg.folders_run (resolve_steps p path) hs
  obtain ⟨found', new, hB⟩ := resolve_built hg p path hs
  obtain rfl : found' = found := hB.found_eq
  refine ⟨⟨new, hB.length_le, hB.made_eq, ?_, hB.spared, ?_⟩, ?_⟩
  · rw [← hB.made_eq]
    exact hfolders
  · intro id hx
    obtain ⟨hlength, hlast, hserved⟩ := hB.arrived id hx
    rw [Option.or_none] at hlast
    refine ⟨?_, ?_, hserved, ?_⟩
    · rw [length_along, hlength, Nat.min_self]
    · rw [← List.getLast?_map, map_id_along none hB.length_le, hlast]
    · intro p' createMissing t ht hf
      -- What was found or made is what is found now.
      have hkept := hB.kept
      rw [← hfolders, ← hf] at hkept
      obtain ⟨hlookups, hrest⟩ := resolve_again hg p' path createMissing ht (hkept ▸ hlength)
        (hkept ▸ hlast)
      refine ⟨?_, hrest⟩
      intro name parent r hm
      obtain ⟨_, _, hq⟩ := hlookups _ _ hm
      cases hq
  · intro ys t hr
    obtain ⟨hft, new', hlength, hmade⟩ := hr.made_eq hg hs
    refine ⟨?_, hft, new', hmade⟩
    rw [hmade, List.length_drop, length_along, hlength, Nat.min_self]

/-- A store in memory that makes folders under those that it has and nowhere else. -/
def rootedDrive : Host StoreCall StoreCall.Answer Drive :=
  { openDrive with
    call := fun q d =>
      match q with
      | .create name parent =>
        if parent.all fun id => d.folders.any (·.id == id) then d.answer (.create name parent)
        else (.error (.notFound "parent"), d)
      | q => d.answer q }

/-- Whether the names for further folders are unused. -/
def Unnumbered (d : Drive) : Prop :=
  ∀ n, d.created < n → Fresh d.folders s!"new-{n}"

/-- Numbered ids are different for different numbers. -/
lemma newId_inj {m n : Nat} (h : s!"new-{m}" = s!"new-{n}") : m = n := by
  have hrepr : m.repr = n.repr := by simpa using h
  have hdigits := congrArg String.toList hrepr
  rw [Nat.toList_repr, Nat.toList_repr] at hdigits
  rw [← Nat.ofDigitChars_ten_toDigits (n := m), hdigits, Nat.ofDigitChars_ten_toDigits]

/-- The store makes a numbered folder under a known parent, or fails and stays as it is. -/
lemma rootedDrive_create (d : Drive) (name : String) (parent : Option String) :
    (∃ e d', rootedDrive.call (.create name parent) d = (.error e, d') ∧ d'.folders = d.folders ∧
      d'.created = d.created) ∨
    ∃ d', rootedDrive.call (.create name parent) d = (.ok s!"new-{d.created + 1}", d') ∧
      d'.folders = d.folders ++ [⟨s!"new-{d.created + 1}", name, parent⟩] ∧
      d'.created = d.created + 1 ∧ Known d.folders parent := by
  by_cases hp : parent.all fun id => d.folders.any (·.id == id)
  · have hcall : rootedDrive.call (.create name parent) d = d.answer (.create name parent) :=
      if_pos hp
    simp only [hcall, Simulation.Drive.answer]
    cases (Simulation.Failures.next d.createFailures).1 with
    | some e => exact .inl ⟨e, _, rfl, rfl, rfl⟩
    | none =>
      refine .inr ⟨_, rfl, rfl, rfl, ?_⟩
      rintro id rfl
      simpa using hp
  · exact .inl ⟨.notFound "parent", d, if_neg hp, rfl, rfl⟩

/-- A lookup leaves the folders of the store, and their number. -/
lemma rootedDrive_lookup (name : String) (parent : Option String) (d : Drive) :
    (rootedDrive.call (lookup name parent).call d).2.folders = d.folders ∧
      (rootedDrive.call (lookup name parent).call d).2.created = d.created := by
  refine ⟨(openDrive_call d name parent).1, ?_⟩
  simp only [rootedDrive, openDrive, Ask.call, lookup, Filter.folderNamed, Simulation.Drive.answer]
  cases (Simulation.Failures.next d.listFolderFailures).1 <;> rfl

/-- The store looks folders up by name and parent. -/
lemma rootedDrive_looksUp : LooksUp rootedDrive (·.folders) := by
  refine ⟨⟨fun _ => rfl, fun _ => rfl, ?_, fun _ _ => rfl, fun _ _ => rfl, fun _ => rfl⟩, ?_⟩
  · rintro _ ⟨name, parent, rfl⟩ d
    exact (rootedDrive_lookup name parent d).1
  · exact openDrive_looksUp.answers

/-- A folder that is made uses up one of the names. -/
lemma Unnumbered.create {d : Drive} (hd : Unnumbered d) (name : String) (parent : Option String) :
    Unnumbered (rootedDrive.call (.create name parent) d).2 := by
  intro n hn
  rcases rootedDrive_create d name parent with
    ⟨e, d', hcall, hfolders, hcreated⟩ | ⟨d', hcall, hfolders, hcreated, hknown⟩
  · rw [hcall] at hn ⊢
    rw [hfolders]
    exact hd n (hcreated ▸ hn)
  · rw [hcall] at hn ⊢
    rw [hcreated] at hn
    rw [hfolders]
    intro f hf
    rcases List.mem_append.1 hf with hf | hf
    · exact hd n (by omega) f hf
    · obtain rfl := List.mem_singleton.1 hf
      refine ⟨fun hid => ?_, fun hid => ?_⟩
      · have := newId_inj hid
        omega
      · -- The parent is a folder that was there, and those have no such id.
        obtain ⟨g, hg, hgid⟩ := hknown _ hid
        exact (hd n (by omega) g hg).1 hgid

/-- The store grows by one folder at a time, with unused ids. -/
lemma rootedDrive_grows : Grows rootedDrive Unnumbered (·.folders) := by
  refine ⟨rootedDrive_looksUp, fun _ => id, fun _ => id, ?_, fun _ _ => id, fun _ _ => id,
    fun _ => id, ?_, ?_⟩
  · rintro q (⟨name, parent, rfl⟩ | ⟨name, parent, rfl⟩) d hd
    · intro n hn
      obtain ⟨hfolders, hcreated⟩ := rootedDrive_lookup name parent d
      rw [hfolders]
      exact hd n (hcreated ▸ hn)
    · exact hd.create name parent
  · intro d name parent e hd hr
    rcases rootedDrive_create d name parent with ⟨e', d', hcall, hfolders, -⟩ | ⟨d', hcall, -⟩
    · rw [hcall]
      exact hfolders
    · rw [hcall] at hr
      cases hr
  · intro d name parent id hd hr
    rcases rootedDrive_create d name parent with ⟨e', d', hcall, -⟩ | ⟨d', hcall, hfolders, -, -⟩
    · rw [hcall] at hr
      cases hr
    · rw [hcall] at hr ⊢
      cases hr
      exact ⟨hd _ (Nat.lt_succ_self _), hfolders⟩

/-- A store that has the first folder of a path of three, twice, and fails once when the third one
is to be made. -/
def halfDrive : Drive where
  folders := [⟨"1", "a", none⟩, ⟨"2", "a", none⟩]
  createFailures := [none, some (.httpStatus 503 "busy")]

def threeNames : FolderPath :=
  ⟨["a", "b", "c"], by decide, by simp⟩

/-- The ids of the store are no numbered ones. -/
lemma unnumbered_halfDrive : Unnumbered halfDrive := by
  intro n _ f hf
  have hshort (id : String) (hid : id.length = 1) : id ≠ s!"new-{n}" := by
    rintro rfl
    have hnew : (toString "new-").length = 4 := rfl
    simp only [String.length_append, hnew] at hid
    omega
  simp only [halfDrive, List.mem_cons, List.not_mem_nil, or_false] at hf
  rcases hf with rfl | rfl
  · exact ⟨hshort "1" rfl, nofun⟩
  · exact ⟨hshort "2" rfl, nofun⟩

/-- The first time the last folder is refused, the second time only that one is made. -/
theorem resolve_makes_missing_two_folders :
    let tries := resolve (.ofNat 1) threeNames true
    let first := tries.run rootedDrive halfDrive
    let second := tries.run rootedDrive first.2
    Unnumbered halfDrive ∧ first.1.toOption = none ∧ second.1 = .ok "new-2" ∧
      second.2.folders = halfDrive.folders ++
        [⟨"new-1", "b", some "1"⟩, ⟨"new-2", "c", some "new-1"⟩] ∧
      (made (tries.exchanges rootedDrive halfDrive ++
        tries.exchanges rootedDrive first.2)).length = 2 := by
  intro tries first second
  have hfirst : first.1.toOption = none := by decide +kernel
  have hsecond : second.1.toOption = some "new-2" := by decide +kernel
  have hfolders : second.2.folders = halfDrive.folders ++
      [⟨"new-1", "b", some "1"⟩, ⟨"new-2", "c", some "new-1"⟩] := by decide +kernel
  obtain ⟨e, he⟩ : ∃ e, first.1 = .error e := by
    cases h : first.1 with
    | error e => exact ⟨e, rfl⟩
    | ok id =>
      rw [h] at hfirst
      cases hfirst
  have hok : second.1 = .ok "new-2" := by
    cases h : second.1 with
    | error e =>
      rw [h] at hsecond
      cases hsecond
    | ok id =>
      rw [h] at hsecond
      cases hsecond
      rfl
  have hvalid := (rootedDrive_grows.folders_run (resolve_steps (.ofNat 1) threeNames)
    unnumbered_halfDrive).1
  obtain ⟨-, hresumed⟩ := resolve_makes_missing rootedDrive_grows (.ofNat 1) threeNames
    unnumbered_halfDrive
  obtain ⟨hlength, -, -⟩ := hresumed _ _ (.again he hvalid rfl (.last hok))
  exact ⟨unnumbered_halfDrive, hfirst, hok, hfolders, hlength⟩

end FolderCopy.Resolution
