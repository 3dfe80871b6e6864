import FolderCopy.Enumeration
import FolderCopy.Proofs.Listings

/-!
# Readings of a listing

A store lists a folder as a chain of pages, each naming a token for the next one (`Linked`). To read
it is to ask for one page after the other, each with the token that the last page named, until a
page names none or one is given up. What the store does when it is asked for a page is all that is
known of it (`Lists`). The page at the head of a chain is dealt with in `exists_reading_page`, a
whole chain by induction in `exists_reading`.
-/

namespace FolderCopy.Enumeration

open Retry Listing

/-- Pages each of which names a token for the next one, the last one none. The tokens are any, two
pages may name the same one. -/
inductive Linked : List Page → Prop where
  | last {page} (h : page.next = none) : Linked [page]
  | more {page next ps} (h : page.next = some next) (rest : Linked ps) : Linked (page :: ps)

/-- The page of a folder that a token names. -/
def ask (folder : String) (filter : Filter) (t : Option String) : Ask :=
  ⟨folder, some folder, filter, t⟩

/-- What pages are asked for with: the first of them with a given token, every other one with the
token that the page before it names. -/
def asks (folder : String) (filter : Filter) : Option String → List Page → List Ask
  | _, [] => []
  | t, page :: ps => ask folder filter t :: asks folder filter page.next ps

/-- How many pages have to be read for the entries that are wanted, or for all of them. -/
def needed : Option Nat → List Page → Nat
  | some 0, _ => 0
  | _, [] => 0
  | want, page :: ps => needed (want.map (· - page.entries.length)) ps + 1

/-- The entries that are wanted of those there are. -/
def wanted (want : Option Nat) (es : List Entry) : List Entry :=
  match want with
  | some n => es.take n
  | none => es

/-- The error that ended a reading of pages. -/
def Ending.error? : Ending → Option CopyError
  | .failed e => some e
  | .finished | .stopped _ => none

/-- One request is made for each page. -/
lemma length_asks (folder : String) (filter : Filter) (t : Option String) (ps : List Page) :
    (asks folder filter t ps).length = ps.length := by
  induction ps generalizing t with
  | nil => rfl
  | cons page ps ih => exact congrArg Nat.succ (ih page.next)

section Hosts

variable {σ : Type} (h : Host StoreCall StoreCall.Answer σ) (p : Policy) (folder : String)
  (filter : Filter)

/-- Whether a store lists a folder page by page. In a state some pages may be `coming` for a token.
They stay so until a request with this token is answered: with the first of them, after which the
others are coming for the token that it names. -/
structure Lists (coming : σ → Option String → List Page → Prop) : Prop where
  acquire : ∀ s t ps, coming s t ps → coming (h.acquire s).2 t ps
  release : ∀ s t ps, coming s t ps → coming (h.release s) t ps
  note : ∀ e s t ps, coming s t ps → coming (h.note e s) t ps
  failed : ∀ s t ps e, coming s t ps → (h.call (ask folder filter t).call s).1 = .error e →
    coming (h.call (ask folder filter t).call s).2 t ps
  answered : ∀ s t ps page, coming s t ps → (h.call (ask folder filter t).call s).1 = .ok page →
    ∃ rest, ps = page :: rest ∧ ∀ next, page.next = some next →
      coming (h.call (ask folder filter t).call s).2 (some next) rest

/-- Whether the pages and the entries that are read from a place on are those of a reading. Who
stops after some pages, or has the entries that are wanted, asks for nothing more. -/
structure Serves (ps : List Page) (c : Cursor) (s : σ) (R : Reading) : Prop where
  pages : ∀ limit, ∃ ending,
    (pages p folder filter limit c).Yields h s (R.upTo limit).exchanges
      ((R.upTo limit).pages, ending) ∧
    ending.error? = (R.upTo limit).error? ∧
    (ps.length ≤ limit → R.failed = none → ending = .finished)
  entries : filter = .files → ∀ limit want, ps.length ≤ limit →
    (entries p folder limit want c).Yields h s (R.upTo (needed want ps)).exchanges
      (wanted want (entriesOf (R.upTo (needed want ps)).pages), (R.upTo (needed want ps)).error?)

variable {h p folder filter} {coming : σ → Option String → List Page → Prop}

/-- A store that lists page by page answers a request for what is coming with the first of it. -/
lemma Lists.answers (hl : Lists h folder filter coming) (t : Option String) (ps : List Page) :
    h.Answers (ask folder filter t).call (coming · t ps) fun (page : Page) s =>
      ∃ rest, ps = page :: rest ∧ ∀ next, page.next = some next → coming s (some next) rest where
  acquire s := hl.acquire s t ps
  release s := hl.release s t ps
  note e s := hl.note e s t ps
  failed s := hl.failed s t ps
  answered s := hl.answered s t ps
  released _ s hs := by
    obtain ⟨rest, hps, hrest⟩ := hs
    exact ⟨rest, hps, fun next hn => hl.release s _ _ (hrest next hn)⟩
  noted _ e s hs := by
    obtain ⟨rest, hps, hrest⟩ := hs
    exact ⟨rest, hps, fun next hn => hl.note e s _ _ (hrest next hn)⟩

/-- A page that is asked for is the first of those that are coming, or is given up. -/
lemma fetch_outcome (hl : Lists h folder filter coming) {t : Option String} {s : σ} {page : Page}
    {ps : List Page} (hs : coming s t (page :: ps)) :
    (∃ r : Answered, r.ask = ask folder filter t ∧ r.page = page ∧
      (∀ e ∈ r.failures, e.isRetryable) ∧ r.failures.length < p.maxAttempts ∧
      (fetch p folder filter t).Yields h s r.exchanges (.ok r.page) ∧
      ∀ next, page.next = some next →
        coming ((fetch p folder filter t).run h s).2 (some next) ps) ∨
    ∃ f : GivenUp, f.ask = ask folder filter t ∧ f.attempts.Fits p.maxAttempts ∧
      f.attempts.result folder = .error f.error ∧
      (fetch p folder filter t).Yields h s f.exchanges (.error f.error) := by
  have hA := hl.answers t (page :: ps)
  rcases Ask.outcome (a := ask folder filter t) hA p hs with
    ⟨r, hask, hpassing, hlength, hyields, hrest⟩ | ⟨f, hask, hfits, hr, hyields⟩
  · have hnoted := hA.noted r.page (fetched folder r.page) _ hrest
    obtain ⟨_, heq, hcoming⟩ := hnoted
    cases heq
    refine .inl ⟨r, hask, rfl, hpassing, hlength, ?_, ?_⟩
    · rw [← List.append_nil r.exchanges]
      exact hyields.andThen ⟨rfl, rfl⟩
    · have hrun := congrArg Prod.snd (hyields.run_andThen fun page : Page =>
        .note (fetched folder page) (.done (.ok page)))
      exact hrun ▸ hcoming
  · exact .inr ⟨f, hask, hfits, hr, hyields.andThen_error _⟩

section Pages

variable {c : Cursor} {limit : Nat}

/-- With no page left to read, reading stops where it stands. -/
lemma pages_zero (hc : c ≠ .finished) :
    pages p folder filter 0 c = .done ([], .stopped c) := by
  cases c with
  | finished => exact absurd rfl hc
  | start | page t => rfl

/-- Reading pages begins with fetching one, and goes on after it. -/
lemma pages_succ (hc : c ≠ .finished) :
    pages p folder filter (limit + 1) c = (fetch p folder filter c.token).bind fun
      | .error e => .done ([], .failed e)
      | .ok page => (pages p folder filter limit (.after page)).bind fun r =>
        .done (page :: r.1, r.2) := by
  cases c with
  | finished => exact absurd rfl hc
  | start | page t => rfl

/-- Where no entry is wanted, none is read. -/
lemma entries_none_wanted : entries p folder limit (some 0) c = .done ([], none) := by
  cases limit <;> cases c <;> rfl

/-- Reading entries begins with fetching a page, and goes on after it with what is still wanted. -/
lemma entries_succ {want : Option Nat} (hw : want ≠ some 0) (hc : c ≠ .finished) :
    entries p folder (limit + 1) want c = (fetch p folder .files c.token).bind fun
      | .error e => .done ([], some e)
      | .ok page =>
        (entries p folder limit (want.map (· - page.entries.length)) (.after page)).bind fun r =>
          .done (wanted want page.entries ++ r.1, r.2) := by
  have htaken (n : Nat) (es : List Entry) : n - (es.take n).length = n - es.length := by
    rw [List.length_take]
    omega
  rcases want with _ | _ | n
  · cases c with
    | finished => exact absurd rfl hc
    | start | page t => rfl
  · exact absurd rfl hw
  · have hrest (page : Page) : (some (n + 1)).map (· - (page.entries.take (n + 1)).length) =
        (some (n + 1)).map (· - page.entries.length) :=
      congrArg some (htaken (n + 1) page.entries)
    cases c with
    | finished => exact absurd rfl hc
    | start | page t =>
      refine congrArg (Dialogue.bind _) (funext fun r => ?_)
      cases r with
      | error e => rfl
      | ok page =>
        simp only [hrest]
        rfl

/-- One page is needed for its entries, and others for what is still wanted. -/
lemma needed_cons {want : Option Nat} (hw : want ≠ some 0) (page : Page) (ps : List Page) :
    needed want (page :: ps) = needed (want.map (· - page.entries.length)) ps + 1 := by
  rcases want with _ | _ | n
  · rfl
  · exact absurd rfl hw
  · rfl

/-- Of no entries none is wanted. -/
lemma wanted_nil (want : Option Nat) : wanted want [] = [] := by
  cases want with
  | none => rfl
  | some n => exact List.take_nil

/-- Of entries in two parts, those of the second part are wanted that the first one has left. -/
lemma wanted_append (want : Option Nat) (es fs : List Entry) :
    wanted want (es ++ fs) = wanted want es ++ wanted (want.map (· - es.length)) fs := by
  cases want with
  | none => rfl
  | some n => exact List.take_append

end Pages

/-- Nothing is read after the last page. -/
lemma serves_finished (s : σ) : Serves h p folder filter [] .finished s ⟨[], none⟩ := by
  have hupTo (limit : Nat) : (⟨[], none⟩ : Reading).upTo limit = ⟨[], none⟩ := by
    simp [Reading.upTo]
  constructor
  · intro limit
    rw [hupTo]
    cases limit <;> exact ⟨.finished, ⟨rfl, rfl⟩, rfl, fun _ _ => rfl⟩
  · intro _ limit want _
    rw [hupTo]
    change Dialogue.Yields h s _ _ (wanted want [], none)
    rw [wanted_nil]
    cases limit <;> rcases want with _ | _ | n <;> exact ⟨rfl, rfl⟩

section Page

variable {c : Cursor} {s : σ} {page : Page} {ps : List Page}

/-- Whoever wants nothing more of a listing asks for nothing. -/
lemma yields_none_wanted {R : Reading} {limit : Nat} :
    (entries p folder limit (some 0) c).Yields h s (R.upTo (needed (some 0) ps)).exchanges
      (wanted (some 0) (entriesOf (R.upTo (needed (some 0) ps)).pages),
        (R.upTo (needed (some 0) ps)).error?) := by
  rw [entries_none_wanted, show needed (some 0) ps = 0 by cases ps <;> rfl, Reading.upTo_zero]
  exact ⟨rfl, rfl⟩

/-- The page at the head of a chain is given up. -/
lemma serves_failed (hc : c ≠ .finished) {f : GivenUp}
    (hf : (fetch p folder filter c.token).Yields h s f.exchanges (.error f.error)) :
    Serves h p folder filter (page :: ps) c s ⟨[], some f⟩ := by
  have hexchanges : (⟨[], some f⟩ : Reading).exchanges = f.exchanges := rfl
  constructor
  · intro limit
    cases limit with
    | zero =>
      rw [pages_zero hc, Reading.upTo_zero]
      exact ⟨.stopped c, ⟨rfl, rfl⟩, rfl, nofun⟩
    | succ limit =>
      rw [pages_succ hc, Reading.upTo_failed, hexchanges]
      exact ⟨.failed f.error, hf.bind_done rfl, rfl, nofun⟩
  · rintro rfl limit want hlimit
    by_cases hw : want = some 0
    · subst hw
      exact yields_none_wanted
    · obtain ⟨limit, rfl⟩ := Nat.exists_eq_add_one_of_ne_zero (Nat.ne_zero_of_lt hlimit)
      rw [entries_succ hw hc, needed_cons hw, Reading.upTo_failed, hexchanges]
      change Dialogue.Yields h s _ _ (wanted want [], some f.error)
      rw [wanted_nil]
      exact hf.bind_done rfl

/-- The page at the head of a chain is given, and the pages after it are those of a reading. -/
lemma serves_page (hc : c ≠ .finished) {r : Answered} {R : Reading}
    (hr : (fetch p folder filter c.token).Yields h s r.exchanges (.ok r.page))
    (hrest : Serves h p folder filter ps (.after r.page)
      ((fetch p folder filter c.token).run h s).2 R) :
    Serves h p folder filter (r.page :: ps) c s (R.prepend r) := by
  constructor
  · intro limit
    cases limit with
    | zero =>
      rw [pages_zero hc, Reading.upTo_zero]
      exact ⟨.stopped c, ⟨rfl, rfl⟩, rfl, nofun⟩
    | succ limit =>
      obtain ⟨ending, hyields, he, hfinished⟩ := hrest.pages limit
      rw [pages_succ hc, Reading.upTo_prepend, Reading.exchanges_prepend]
      refine ⟨ending, hr.bind (hyields.bind_done rfl), he, fun hlimit hn => ?_⟩
      exact hfinished (Nat.le_of_succ_le_succ hlimit) hn
  · intro hfilter limit want hlimit
    by_cases hw : want = some 0
    · subst hw
      exact yields_none_wanted
    · subst hfilter
      obtain ⟨limit, rfl⟩ := Nat.exists_eq_add_one_of_ne_zero (Nat.ne_zero_of_lt hlimit)
      have hyields := hrest.entries rfl limit (want.map (· - r.page.entries.length))
        (Nat.le_of_succ_le_succ hlimit)
      rw [entries_succ hw hc, needed_cons hw, Reading.upTo_prepend, Reading.exchanges_prepend]
      refine hr.bind (hyields.bind_done ?_)
      simp only [Reading.pages, Reading.prepend, List.map_cons, entriesOf, List.flatMap_cons,
        wanted_append]
      rfl

/-- The reading of a chain, given one of the pages after its first. -/
lemma exists_reading_page (hl : Lists h folder filter coming) (hc : c ≠ .finished)
    (hs : coming s c.token (page :: ps))
    (ih : ∀ s', (∀ next, page.next = some next → coming s' (some next) ps) →
      ∃ R : Reading, R.Follows p (asks folder filter page.next ps) ∧
        R.pages = ps.take R.answered.length ∧ Serves h p folder filter ps (.after page) s' R) :
    ∃ R : Reading, R.Follows p (asks folder filter c.token (page :: ps)) ∧
      R.pages = (page :: ps).take R.answered.length ∧
      Serves h p folder filter (page :: ps) c s R := by
  unfold asks
  rcases fetch_outcome (p := p) hl hs with
    ⟨r, hask, rfl, hpassing, hlength, hr, hrest⟩ | ⟨f, hask, hfits, herror, hf⟩
  · obtain ⟨R, hfollows, hpages, hserves⟩ := ih _ hrest
    exact ⟨R.prepend r, hfollows.prepend hask hpassing hlength, congrArg (r.page :: ·) hpages,
      serves_page hc hr hserves⟩
  · exact ⟨⟨[], some f⟩, Reading.follows_failed hask hfits herror, rfl, serves_failed hc hf⟩

end Page

/-- Every chain of pages has a reading, which the pages and entries that are read come from. -/
theorem exists_reading (hl : Lists h folder filter coming) {c : Cursor} (hc : c ≠ .finished)
    {s : σ} {ps : List Page} (hps : Linked ps) (hs : coming s c.token ps) :
    ∃ R : Reading, R.Follows p (asks folder filter c.token ps) ∧
      R.pages = ps.take R.answered.length ∧ Serves h p folder filter ps c s R := by
  induction hps generalizing c s with
  | @last page hlast =>
    refine exists_reading_page hl hc hs fun s' _ => ?_
    rw [show Cursor.after page = .finished by simp only [Cursor.after, hlast]]
    exact ⟨⟨[], none⟩, Reading.follows_nil, rfl, serves_finished s'⟩
  | @more page next _ hnext _ ih =>
    refine exists_reading_page hl hc hs fun s' hs' => ?_
    rw [show Cursor.after page = .page next by simp only [Cursor.after, hnext], hnext]
    exact ih (c := .page next) nofun (hs' next hnext)

end Hosts

end FolderCopy.Enumeration
