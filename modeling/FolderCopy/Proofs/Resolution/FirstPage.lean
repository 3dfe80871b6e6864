import FolderCopy.Proofs.Enumeration.Reading
import FolderCopy.Proofs.Resolution.Walk

/-!
# Folders on later pages

A store may list the folders of a name in several pages, and a resolution reads the first of them.
It takes a name whose folders are all on later pages for one that has none: such a name is reported
as missing, or gets a second folder. What one name comes to where no call fails is said in
`Entered`, what the calls of a whole path tell of it in `Traced`.
-/

namespace FolderCopy

/-- Whether an exchange is no refusal and no call that failed. -/
def Exchange.isSuccess {Q : Type} {A : Q → Type} : Exchange Q A → Bool
  | .admission (.error _) | .call _ (.error _) => false
  | _ => true

section Trails

variable {Q : Type} {A : Q → Type} {α β σ : Type}

/-- The calls of a run, each with the state of the host in which it is made. -/
def Dialogue.trail (h : Host Q A σ) : Dialogue Q A α → σ → List (σ × Q)
  | .done _, _ => []
  | .acquire next, s => (next (h.acquire s).1).trail h (h.acquire s).2
  | .release next, s => next.trail h (h.release s)
  | .call q next, s => (s, q) :: (next (h.call q s).1).trail h (h.call q s).2
  | .note e next, s => next.trail h (h.note e s)
  | .enter sp next, s => next.trail h (h.enter sp s)
  | .leave next, s => next.trail h (h.leave s)

variable {h : Host Q A σ}

/-- The trail of two dialogues one after the other is that of the first, then that of the second. -/
lemma Dialogue.trail_bind (d : Dialogue Q A α) (f : α → Dialogue Q A β) (s : σ) :
    (d.bind f).trail h s = d.trail h s ++ (f (d.run h s).1).trail h (d.run h s).2 := by
  induction d generalizing s with
  | done a => rfl
  | acquire next ih => exact ih _ _
  | call q next ih => exact congrArg _ (ih _ _)
  | release next ih | note e next ih | enter sp next ih | leave next ih => exact ih _

/-- A retried call none of whose attempts fails is made once. -/
lemma Retry.Policy.run_of_success {p : Retry.Policy} {resource : String} {q : Q} {s : σ}
    (hs : ∀ x ∈ (p.run resource q).exchanges h s, x.isSuccess) :
    ∃ a, (h.call q (h.acquire s).2).1 = .ok a ∧
      (p.run resource q).run h s = (.ok a, h.release (h.call q (h.acquire s).2).2) ∧
      (p.run resource q).trail h s = [((h.acquire s).2, q)] := by
  obtain ⟨again, hrun⟩ : ∃ again, p.run (A := A) resource q = attempt p resource q 1 again := by
    unfold Retry.Policy.run
    cases p.maxAttempts - 1 <;> exact ⟨_, rfl⟩
  rw [hrun] at hs ⊢
  simp only [Retry.attempt, Dialogue.exchanges, Dialogue.run, Dialogue.trail] at hs ⊢
  cases hadmission : (h.acquire s).1 with
  | error e =>
    rw [hadmission] at hs
    cases hs _ List.mem_cons_self
  | ok u =>
    simp only [hadmission, Dialogue.exchanges, Dialogue.run, Dialogue.trail] at hs ⊢
    cases hcall : (h.call q (h.acquire s).2).1 with
    | error e =>
      rw [hcall] at hs
      cases hs _ (List.mem_cons_of_mem _ List.mem_cons_self)
    | ok a => exact ⟨a, rfl, rfl, rfl⟩

end Trails

namespace Resolution

open Retry Listing
open Simulation (Folder)

/-- Whether some page shows a folder of exactly this name. -/
def Holds (ps : List Page) (name : String) : Prop :=
  ∃ page ∈ ps, ∃ e ∈ page.entries, e.name = name

/-- Whether a folder of this name is on some page, but none on the first. -/
def Overlooked (ps : List Page) (name : String) : Prop :=
  Holds ps name ∧ ¬ Holds (ps.take 1) name

/-- The first folder of a name on the first page. -/
def seen (ps : List Page) (name : String) : Option String :=
  ps.head?.bind fun page => idOf? name page.entries

/-- A name is not seen exactly if the first page does not hold it. -/
lemma seen_eq_none {ps : List Page} {name : String} :
    seen ps name = none ↔ ¬ Holds (ps.take 1) name := by
  cases ps with
  | nil => simp [seen, Holds]
  | cons page ps => simp [seen, Holds, idOf?]

/-- Whether a store lists the folders of a name under a parent in pages: it answers with the first
page to whoever names no token, and with the page that comes after one to whoever names the token of
that one. To look a folder up changes no listing. -/
structure Paged {σ : Type} (h : Host StoreCall StoreCall.Answer σ)
    (listing : σ → Option String → String → List Page) : Prop where
  keeps : h.Keeps IsLookup listing
  linked : ∀ s parent name, Enumeration.Linked (listing s parent name)
  first : ∀ s parent name page, (h.call (lookup name parent).call s).1 = .ok page →
    (listing s parent name).head? = some page
  later : ∀ s parent name i page token next, (listing s parent name)[i]? = some page →
    page.next = some token →
    (h.call (.list parent (.folderNamed name) (some token)) s).1 = .ok next →
    (listing s parent name)[i + 1]? = some next

section Hosts

variable {σ : Type} {h : Host StoreCall StoreCall.Answer σ}
  {listing : σ → Option String → String → List Page}

/-- What one name under a parent comes to where no call fails, by the calls that are made for it. -/
inductive Entered (listing : σ → Option String → String → List Page) (path : String)
    (name : String) (parent : Option String) (s : σ) :
    (createMissing : Bool) → List (σ × StoreCall) → Except CopyError String → Prop where
  | found {createMissing t id} (ht : listing t = listing s)
    (hid : seen (listing s parent name) name = some id) :
    Entered listing path name parent s createMissing [(t, (lookup name parent).call)] (.ok id)
  | made {t t' id} (ht : listing t = listing s) (ht' : listing t' = listing s)
    (hn : seen (listing s parent name) name = none) :
    Entered listing path name parent s true
      [(t, (lookup name parent).call), (t', .create name parent)] (.ok id)
  | missed {t} (ht : listing t = listing s) (hn : seen (listing s parent name) name = none) :
    Entered listing path name parent s false [(t, (lookup name parent).call)]
      (.error (missing path name parent))

/-- What the calls that are made for names tell of them, and of the result. -/
structure Traced (listing : σ → Option String → String → List Page) (path : String)
    (names : List String) (createMissing : Bool) (cs : List (σ × StoreCall))
    (x : Except CopyError String) : Prop where
  listed : ∀ t parent filter token, (t, .list parent filter token) ∈ cs →
    token = none ∧ ∃ name ∈ names, filter = .folderNamed name
  created : ∀ t name parent, (t, .create name parent) ∈ cs → createMissing = true ∧
    ∃ t', (t', (lookup name parent).call) ∈ cs ∧ listing t' = listing t ∧
      ¬ Holds ((listing t parent name).take 1) name
  unseen : ∀ t name parent, (t, (lookup name parent).call) ∈ cs →
    ¬ Holds ((listing t parent name).take 1) name →
    if createMissing then ∃ t', (t', .create name parent) ∈ cs ∧ listing t' = listing t
    else x = .error (missing path name parent) ∧ cs.getLast? = some (t, (lookup name parent).call)
  ended : (∃ id, x = .ok id) ∨ ∃ t name parent, x = .error (missing path name parent) ∧
    (t, (lookup name parent).call) ∈ cs ∧ ¬ Holds ((listing t parent name).take 1) name

section Traces

variable {path : String} {names names' : List String} {createMissing : Bool}
  {cs cs' : List (σ × StoreCall)} {x : Except CopyError String}

/-- Names that were all entered come before other names. -/
lemma Traced.append {id : String} (h : Traced listing path names createMissing cs (.ok id))
    (h' : Traced listing path names' createMissing cs' x) :
    Traced listing path (names ++ names') createMissing (cs ++ cs') x := by
  constructor
  · intro t parent filter token hm
    rcases List.mem_append.1 hm with hm | hm
    · obtain ⟨htoken, name, hname, hfilter⟩ := h.listed t parent filter token hm
      exact ⟨htoken, name, List.mem_append_left _ hname, hfilter⟩
    · obtain ⟨htoken, name, hname, hfilter⟩ := h'.listed t parent filter token hm
      exact ⟨htoken, name, List.mem_append_right _ hname, hfilter⟩
  · intro t name parent hm
    rcases List.mem_append.1 hm with hm | hm
    · obtain ⟨hcreate, t', hm', ht, hn⟩ := h.created t name parent hm
      exact ⟨hcreate, t', List.mem_append_left _ hm', ht, hn⟩
    · obtain ⟨hcreate, t', hm', ht, hn⟩ := h'.created t name parent hm
      exact ⟨hcreate, t', List.mem_append_right _ hm', ht, hn⟩
  · intro t name parent hm hn
    rcases List.mem_append.1 hm with hm | hm
    · have hunseen := h.unseen t name parent hm hn
      cases createMissing with
      | true =>
        obtain ⟨t', hm', ht⟩ := hunseen
        exact ⟨t', List.mem_append_left _ hm', ht⟩
      | false => cases hunseen.1
    · have hunseen := h'.unseen t name parent hm hn
      cases createMissing with
      | true =>
        obtain ⟨t', hm', ht⟩ := hunseen
        exact ⟨t', List.mem_append_right _ hm', ht⟩
      | false =>
        refine ⟨hunseen.1, ?_⟩
        rw [List.getLast?_append, hunseen.2]
        rfl
  · refine h'.ended.imp_right ?_
    rintro ⟨t, name, parent, hx, hm, hn⟩
    exact ⟨t, name, parent, hx, List.mem_append_right _ hm, hn⟩

/-- Names that are not come to change nothing. -/
lemma Traced.givenUp (h : Traced listing path names createMissing cs x)
    (hsub : names ⊆ names') : Traced listing path names' createMissing cs x where
  listed t parent filter token hm := by
    obtain ⟨htoken, name, hname, hfilter⟩ := h.listed t parent filter token hm
    exact ⟨htoken, name, hsub hname, hfilter⟩
  created := h.created
  unseen := h.unseen
  ended := h.ended

/-- What happens to one name is a trail of its own. -/
lemma Entered.traced {name : String} {parent : Option String} {s : σ}
    (h : Entered listing path name parent s createMissing cs x) :
    Traced listing path [name] createMissing cs x := by
  cases h with
  | @found _ t id ht hid =>
    have hseen : Holds ((listing t parent name).take 1) name := by
      refine Classical.byContradiction fun hn => ?_
      rw [ht, ← seen_eq_none, hid] at hn
      cases hn
    refine ⟨?_, ?_, ?_, .inl ⟨id, rfl⟩⟩
    · intro t' parent' filter token hm
      cases List.mem_singleton.1 hm
      exact ⟨rfl, name, List.mem_singleton_self _, rfl⟩
    · intro t' name' parent' hm
      cases List.mem_singleton.1 hm
    · intro t' name' parent' hm hn
      cases List.mem_singleton.1 hm
      exact absurd hseen hn
  | @made t t' id ht ht' hn =>
    rw [seen_eq_none] at hn
    refine ⟨?_, ?_, ?_, .inl ⟨id, rfl⟩⟩
    · intro u parent' filter token hm
      simp only [List.mem_cons, List.not_mem_nil, or_false] at hm
      rcases hm with hm | hm
      · cases hm
        exact ⟨rfl, name, List.mem_singleton_self _, rfl⟩
      · cases hm
    · intro u name' parent' hm
      simp only [List.mem_cons, List.not_mem_nil, or_false] at hm
      rcases hm with hm | hm
      · cases hm
      · cases hm
        refine ⟨rfl, t, List.mem_cons_self, ht.trans ht'.symm, ?_⟩
        rwa [ht']
    · intro u name' parent' hm _
      simp only [List.mem_cons, List.not_mem_nil, or_false] at hm
      rcases hm with hm | hm
      · cases hm
        exact ⟨t', List.mem_cons_of_mem _ List.mem_cons_self, ht'.trans ht.symm⟩
      · cases hm
  | @missed t ht hn =>
    rw [seen_eq_none, ← ht] at hn
    refine ⟨?_, ?_, ?_, .inr ⟨t, name, parent, rfl, List.mem_cons_self, hn⟩⟩
    · intro u parent' filter token hm
      cases List.mem_singleton.1 hm
      exact ⟨rfl, name, List.mem_singleton_self _, rfl⟩
    · intro u name' parent' hm
      cases List.mem_singleton.1 hm
    · intro u name' parent' hm _
      cases List.mem_singleton.1 hm
      exact ⟨rfl, rfl⟩

end Traces

variable (hp : Paged h listing) (p : Policy) (path name : String) (createMissing : Bool)

include hp

/-- A name is looked for on the first page. -/
lemma find_of_success (parent : Option String) {s : σ}
    (hs : ∀ x ∈ (find p name parent).exchanges h s, x.isSuccess) :
    ∃ t s', (find p name parent).run h s = (.ok (seen (listing s parent name) name), s') ∧
      (find p name parent).trail h s = [(t, (lookup name parent).call)] ∧
      listing t = listing s ∧ listing s' = listing s := by
  have hfind : find p name parent =
      (p.run (A := StoreCall.Answer) name (lookup name parent).call).andThen fun (page : Page) =>
        .done (.ok (idOf? name page.entries)) := rfl
  rw [hfind, Dialogue.andThen] at hs ⊢
  rw [Dialogue.exchanges_bind] at hs
  obtain ⟨page, hpage, hr, ht⟩ := Policy.run_of_success fun x hx => hs x (List.mem_append_left _ hx)
  have hlisted : listing (h.acquire s).2 = listing s := hp.keeps.acquire s
  have hseen : idOf? name page.entries = seen (listing s parent name) name := by
    rw [seen, ← hlisted, hp.first _ _ _ _ hpage]
    rfl
  refine ⟨(h.acquire s).2, h.release (h.call (lookup name parent).call (h.acquire s).2).2, ?_, ?_,
    hlisted, ?_⟩
  · rw [Dialogue.run_bind, hr, ← hseen]
    rfl
  · rw [Dialogue.trail_bind, ht, hr]
    rfl
  · rw [hp.keeps.release, hp.keeps.call _ ⟨name, parent, rfl⟩, hlisted]

/-- A name is entered by what the first page shows. -/
lemma enter_of_success (parent : Option String) {s : σ}
    (hs : ∀ x ∈ (enter p path createMissing name parent).exchanges h s, x.isSuccess) :
    Entered listing path name parent s createMissing
      ((enter p path createMissing name parent).trail h s)
      ((enter p path createMissing name parent).run h s).1 := by
  have hfind : ∀ x ∈ (find p name parent).exchanges h s, x.isSuccess := by
    intro x hx
    apply hs
    rw [enter, Dialogue.andThen, Dialogue.exchanges_bind, Dialogue.mapError,
      Dialogue.exchanges_bind]
    exact List.mem_append_left _ (List.mem_append_left _ hx)
  obtain ⟨t, s', hr, ht, hlisted, hlisted'⟩ := find_of_success hp p name parent hfind
  simp only [enter, Dialogue.andThen, Dialogue.mapError, Dialogue.exchanges_bind,
    Dialogue.run_bind, Dialogue.trail_bind, hr, ht] at hs ⊢
  cases hid : seen (listing s parent name) name with
  | some id => exact .found hlisted hid
  | none =>
    cases createMissing with
    | false => exact .missed hlisted hid
    | true =>
      have hmissing : Except.mapError (CopyError.withPath path) (.ok (none : Option String)) =
          .ok none := rfl
      simp only [hid, hmissing, create, Dialogue.andThen, Dialogue.exchanges_bind,
        Dialogue.run_bind, Dialogue.trail_bind, Dialogue.run, if_true] at hs ⊢
      have hcreate :
          ∀ x ∈ (p.run (A := StoreCall.Answer) name (.create name parent)).exchanges h s',
            x.isSuccess := by
        intro x hx
        apply hs
        exact List.mem_append_right _ (List.mem_append_left _ (List.mem_append_left _ hx))
      obtain ⟨id, -, hr', ht'⟩ := Policy.run_of_success hcreate
      rw [hr', ht']
      exact .made hlisted ((hp.keeps.acquire s').trans hlisted') hid

/-- The calls for the names of a path tell of all of them. -/
lemma descend_of_success (rest : List String) (parent : Option String) {s : σ}
    (hs : ∀ x ∈ (descend p path createMissing name rest parent).exchanges h s, x.isSuccess) :
    Traced listing path (name :: rest) createMissing
      ((descend p path createMissing name rest parent).trail h s)
      ((descend p path createMissing name rest parent).run h s).1 := by
  induction rest generalizing name parent s with
  | nil => exact (enter_of_success hp p path name createMissing parent hs).traced
  | cons next rest ih =>
    simp only [descend, Dialogue.andThen, Dialogue.exchanges_bind, Dialogue.run_bind,
      Dialogue.trail_bind] at hs ⊢
    have henter := (enter_of_success hp p path name createMissing parent fun x hx =>
      hs x (List.mem_append_left _ hx)).traced
    cases hx : ((enter p path createMissing name parent).run h s).1 with
    | error e =>
      rw [hx] at henter
      rw [Dialogue.trail, List.append_nil]
      exact henter.givenUp (by simp)
    | ok id =>
      rw [hx] at henter
      simp only [hx] at hs
      exact henter.append (ih next (some id) fun x hx => hs x (List.mem_append_right _ hx))

/-- Where no call fails, the trail of a resolution is that of all the names of its path. -/
lemma resolve_traced (path : FolderPath) {s : σ}
    (hs : ∀ x ∈ (resolve p path createMissing).exchanges h s, x.isSuccess) :
    Traced listing path.display path.segments createMissing
      ((resolve p path createMissing).trail h s) ((resolve p path createMissing).run h s).1 := by
  obtain ⟨segments, nonempty, clean⟩ := path
  cases segments with
  | nil => exact absurd rfl nonempty
  | cons name rest =>
    simp only [resolve, Dialogue.within, Dialogue.exchanges, Dialogue.run, Dialogue.trail,
      Dialogue.exchanges_bind, Dialogue.run_bind, Dialogue.trail_bind, List.append_nil] at hs ⊢
    exact descend_of_success hp p _ name createMissing rest none hs

/-- A resolution sees the first page of every listing and no more. Where no call fails, it tells of
a missing name only if one has no folder, and makes no folder where there is one of that name,
exactly if it overlooks no name. A name that it overlooks is reported as missing, or gets a second
folder. -/
theorem sees_whole_listings_iff (path : FolderPath) {s : σ}
    (hs : ∀ x ∈ (resolve p path createMissing).exchanges h s, x.isSuccess) :
    let calls := (resolve p path createMissing).trail h s
    let x := ((resolve p path createMissing).run h s).1
    (∀ t parent filter token, (t, .list parent filter token) ∈ calls →
      token = none ∧ ∃ name ∈ path.segments, filter = .folderNamed name) ∧
    ((∀ resource reason, x = .error (.notFound resource reason) →
        ∃ t name parent, (t, (lookup name parent).call) ∈ calls ∧
          ¬ Holds (listing t parent name) name) ∧
      (∀ t name parent, (t, .create name parent) ∈ calls → ¬ Holds (listing t parent name) name) ↔
      ∀ t name parent, (t, (lookup name parent).call) ∈ calls →
        ¬ Overlooked (listing t parent name) name) ∧
    ∀ t name parent, (t, (lookup name parent).call) ∈ calls →
      Overlooked (listing t parent name) name →
        if createMissing then
          ∃ t', (t', .create name parent) ∈ calls ∧ Holds (listing t' parent name) name
        else x = .error (missing path.display name parent) := by
  intro calls x
  have htraced := resolve_traced hp p createMissing path hs
  have hbeyond {t : σ} {name : String} {parent : Option String}
      (hn : ¬ Holds (listing t parent name) name) : ¬ Holds ((listing t parent name).take 1) name :=
    fun ⟨page, hpage, hshown⟩ => hn ⟨page, List.mem_of_mem_take hpage, hshown⟩
  refine ⟨htraced.listed, ⟨?_, ?_⟩, ?_⟩
  · rintro ⟨hmissing, hcreated⟩ t name parent hm ⟨hholds, hn⟩
    have hunseen := htraced.unseen t name parent hm hn
    cases createMissing with
    | true =>
      obtain ⟨t', hm', ht⟩ := hunseen
      exact hcreated t' name parent hm' (ht ▸ hholds)
    | false =>
      obtain ⟨hx, hlast⟩ := hunseen
      rw [missing_eq] at hx
      obtain ⟨t', name', parent', hm', hn'⟩ := hmissing _ _ hx
      -- The name that has no folder is the one that was looked up last, as this one is.
      obtain ⟨-, hlast'⟩ := htraced.unseen t' name' parent' hm' (hbeyond hn')
      rw [hlast] at hlast'
      cases hlast'
      exact hn' hholds
  · intro hseen
    constructor
    · intro resource reason hx
      rcases htraced.ended with ⟨id, hid⟩ | ⟨t, name, parent, -, hm, hn⟩
      · cases hid.symm.trans hx
      · exact ⟨t, name, parent, hm, fun hholds => hseen t name parent hm ⟨hholds, hn⟩⟩
    · intro t name parent hm hholds
      obtain ⟨-, t', hm', ht, hn⟩ := htraced.created t name parent hm
      rw [← ht] at hholds hn
      exact hseen t' name parent hm' ⟨hholds, hn⟩
  · rintro t name parent hm ⟨hholds, hn⟩
    have hunseen := htraced.unseen t name parent hm hn
    cases createMissing with
    | true =>
      obtain ⟨t', hm', ht⟩ := hunseen
      exact ⟨t', hm', ht ▸ hholds⟩
    | false => exact hunseen.1

end Hosts

/-- Folders of which some are on the first page of their listing and the others on the second. -/
structure Shelves where
  early : List Folder
  late : List Folder

def page (fs : List Folder) (parent : Option String) (filter : Filter) (next : Option String) :
    Page :=
  ⟨(fs.filter fun f => f.parent == parent && filter.name.all (· == f.name)).map fun f =>
    ⟨f.id, f.name, none⟩, next⟩

/-- A store that lists every name in two pages, and puts what is made on the second. -/
def shelved : Host StoreCall StoreCall.Answer Shelves where
  acquire d := (.ok (), d)
  release := id
  call q d :=
    match q with
    | .list parent filter none => (.ok (page d.early parent filter (some "late")), d)
    | .list parent filter (some _) => (.ok (page d.late parent filter none), d)
    | .create name parent =>
      let id := s!"new-{d.late.length}"
      (.ok id, { d with late := d.late ++ [⟨id, name, parent⟩] })
    | .delete _ | .download _ => (.error (.unavailable "folders only"), d)
  note _ d := d
  enter _ d := d
  leave d := d

def shelfPages (d : Shelves) (parent : Option String) (name : String) : List Page :=
  [page d.early parent (.folderNamed name) (some "late"),
    page d.late parent (.folderNamed name) none]

/-- The store gives out the listings that are on its shelves. -/
lemma shelved_paged : Paged shelved shelfPages := by
  refine ⟨⟨fun _ => rfl, fun _ => rfl, ?_, fun _ _ => rfl, fun _ _ => rfl, fun _ => rfl⟩,
    ?_, ?_, ?_⟩
  · rintro _ ⟨name, parent, rfl⟩ d
    rfl
  · exact fun d parent name => .more rfl (.last rfl)
  · intro d name parent first hfirst
    exact congrArg some (Except.ok.inj hfirst)
  · intro d name parent i before token next hi htoken hnext
    rcases i with _ | _ | i
    · exact congrArg some (Except.ok.inj hnext)
    · cases hi
      cases htoken
    · cases hi

/-- The second folder of the path is on the second page of its listing. -/
theorem sees_whole_listings_iff_two_names :
    let d : Shelves := ⟨[⟨"1", "a", none⟩], [⟨"2", "b", some "1"⟩]⟩
    let path : FolderPath := ⟨["a", "b"], by decide, by simp⟩
    let calls := (resolve .standard path true).trail shelved d
    (∀ x ∈ (resolve .standard path true).exchanges shelved d, x.isSuccess) ∧
      calls.map (·.2) = [(lookup "a" none).call, (lookup "b" (some "1")).call,
        .create "b" (some "1")] ∧
      ∃ t, (t, .create "b" (some "1")) ∈ calls ∧ Holds (shelfPages t (some "1") "b") "b" := by
  intro d path calls
  have hs : ∀ x ∈ (resolve .standard path true).exchanges shelved d, x.isSuccess := by
    rw [← List.all_eq_true]
    rfl
  have hm : (d, (lookup "b" (some "1")).call) ∈ calls := List.mem_of_getElem? (i := 1) rfl
  obtain ⟨-, -, hoverlooked⟩ := sees_whole_listings_iff shelved_paged .standard true path hs
  refine ⟨hs, rfl, hoverlooked d "b" (some "1") hm ⟨?_, ?_⟩⟩
  · exact ⟨_, List.mem_cons_of_mem _ List.mem_cons_self, ⟨"2", "b", none⟩, by decide, rfl⟩
  · rw [← seen_eq_none]
    rfl

/-- The only folder is on the second page. It is reported as missing, and is made again. -/
theorem second_page_unseen :
    let d : Shelves := ⟨[], [⟨"1", "a", none⟩]⟩
    let path : FolderPath := ⟨["a"], by decide, by simp⟩
    let tries (createMissing : Bool) := resolve .standard path createMissing
    (∀ createMissing, ∀ x ∈ (tries createMissing).exchanges shelved d, x.isSuccess) ∧
      Holds (shelfPages d none "a") "a" ∧
      ((tries false).run shelved d).1 = .error (.notFound "a" "Directory \"a\" not found") ∧
      (tries false).trail shelved d = [(d, (lookup "a" none).call)] ∧
      (tries true).trail shelved d = [(d, (lookup "a" none).call), (d, .create "a" none)] := by
  intro d path tries
  refine ⟨?_, ?_, rfl, rfl, rfl⟩
  · intro createMissing
    rw [← List.all_eq_true]
    cases createMissing <;> rfl
  · exact ⟨_, List.mem_cons_of_mem _ List.mem_cons_self, ⟨"1", "a", none⟩, by decide, rfl⟩

end Resolution

end FolderCopy
