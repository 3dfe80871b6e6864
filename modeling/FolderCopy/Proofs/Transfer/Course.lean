import Mathlib.Data.List.TakeWhile
import FolderCopy.Proofs.Transfer.Standing

/-!
# The course of a transfer

How far a transfer has come by the answers that it got from outside: whether the destination was
created, how many listings were read to their end and what they held, and whether the remote folder
was deleted. Where the main loop stands says all of this as long as the transfer is not over.
-/

namespace FolderCopy.Transfer

/-- Whether an event is the last page of a listing. -/
def Event.endsListing : Event → Bool
  | .page (.ok p) => p.next.isNone
  | _ => false

/-- How many listings have been read to their end without an error. -/
def listingsRead (es : List Event) : Nat :=
  es.countP Event.endsListing

/-- A listing is read to its end by the event that ends it, and by no other. -/
@[simp]
lemma listingsRead_snoc (es : List Event) (e : Event) :
    listingsRead (es ++ [e]) = listingsRead es + if e.endsListing then 1 else 0 := by
  simp [listingsRead, List.countP_singleton]

/-- The answers that a transfer has got when its main loop stands at a stage. -/
def Course (j : Job) (es : List Event) (s : State) : Stage → Prop
  | .creating =>
    .directory (.ok ()) ∉ es ∧ listingsRead es = 0 ∧ .removal (.ok ()) ∉ es
  | .counting .. =>
    .directory (.ok ()) ∈ es ∧ listingsRead es = 0 ∧ .removal (.ok ()) ∉ es
  | .looping | .paging _ | .sending _ .begin_ | .sending _ .loop | .sending _ .cleanUp =>
    .directory (.ok ()) ∈ es ∧ listingsRead es = (if s.cursor.isFinished then 2 else 1) ∧
      .removal (.ok ()) ∉ es
  | .cleaning _ =>
    .directory (.ok ()) ∈ es ∧ listingsRead es = 2 ∧ .removal (.ok ()) ∉ es ∧ j.deleteAfter
  | .sending _ .stop | .ended => True

/-- Whether an event brings a transfer further: the destination was created, a page was read, or the
remote folder was deleted. -/
def Event.advances : Event → Bool
  | .directory (.ok ()) | .page (.ok _) | .removal (.ok ()) => true
  | _ => false

/-- The events of downloads bring none of these answers. -/
lemma Event.not_advances {e : Event} {i : Nat} (h : e.download? = some i) :
    e.advances = false := by
  cases e with
  | directory | page | removal => cases h
  | _ => rfl

section Steps

variable {j : Job} {es : List Event} {s s' : State} {e : Event}

/-- No listing ends with an event that brings a transfer no further. -/
lemma listingsRead_of_not_advances (es : List Event) (he : e.advances = false) :
    listingsRead (es ++ [e]) = listingsRead es := by
  rw [listingsRead_snoc]
  cases e with
  | page r =>
    cases r with
    | ok p => cases he
    | error c => rfl
  | _ => rfl

/-- An answer that brings a transfer further is not among other events. -/
lemma mem_snoc_of_not_advances {e' : Event} (he : e.advances = false) (he' : e'.advances) :
    e' ∈ es ++ [e] ↔ e' ∈ es := by
  have hne : e' ≠ e := by
    rintro rfl
    rw [he] at he'
    cases he'
  simp [List.mem_append, hne]

/-- The course stays as it is where nothing brings the transfer further. -/
lemma Course.quiet {st : Stage} (h : Course j es s st) (he : e.advances = false)
    (hc : s'.cursor = s.cursor) : Course j (es ++ [e]) s' st := by
  unfold Course at h ⊢
  rw [listingsRead_of_not_advances es he, hc, mem_snoc_of_not_advances he rfl,
    mem_snoc_of_not_advances he rfl]
  exact h

/-- The course is the same wherever a call with retries stands. -/
lemma Course.task {k : Task} {r r' : Retry.Stage} (h : Course j es s (k.stage r)) :
    Course j es s (k.stage r') := by
  cases k <;> exact h

/-- To hand out entries leaves the course of the answers. -/
lemma Course.supply {entries : List Entry} (h : Course j es s .looping) :
    Course j es (s.supply entries) (s.supply entries).stage := by
  cases entries with
  | cons e rest => exact h
  | nil => by_cases hc : s.cursor.isFinished <;> simpa [State.supply, hc, Course] using h

/-- The remote folder is seen to after both listings. -/
lemma Course.cleanUp (h : Course j es s .looping) (hc : s.cursor.isFinished) :
    Course j es (s.cleanUp j) (s.cleanUp j).stage := by
  obtain ⟨hd, hl, hr⟩ := h
  rw [if_pos hc] at hl
  by_cases ha : j.deleteAfter
  · simp only [State.cleanUp, ha, if_true]
    exact ⟨hd, hl, hr, ha⟩
  · simp only [State.cleanUp, ha]
    trivial

/-- The last page of the first listing brings the transfer to the second one. -/
lemma Course.countPage {c : Cursor} {t : Totals} {r : Retry.Stage} {p : Page}
    (h : Course j es s (.counting c t r)) (hc : s.cursor.isFinished = false) :
    Course j (es ++ [.page (.ok p)]) (s.countPage t p) (s.countPage t p).stage := by
  obtain ⟨hd, hl, hr⟩ := h
  cases hn : p.next with
  | none =>
    simp only [State.countPage, Cursor.after, hn]
    refine ⟨List.mem_append_left _ hd, ?_, by simpa using hr⟩
    simp [Event.endsListing, hn, hl, hc]
  | some token =>
    simp only [State.countPage, Cursor.after, hn]
    exact ⟨List.mem_append_left _ hd, by simp [Event.endsListing, hn, hl], by simpa using hr⟩

/-- The last page of the second listing ends it. -/
lemma Course.nextPage {r : Retry.Stage} {p : Page} {listed : List Entry}
    (h : Course j es s (.paging r)) (hc : s.cursor.isFinished = false) :
    Course j (es ++ [.page (.ok p)]) { s with cursor := .after p, listed } .looping := by
  obtain ⟨hd, hl, hr⟩ := h
  rw [hc] at hl
  refine ⟨List.mem_append_left _ hd, ?_, by simpa using hr⟩
  cases hn : p.next <;> simp [Event.endsListing, Cursor.after, Cursor.isFinished, hn, hl]

/-- With both listings read, settling the counters leaves the course of the answers. -/
lemma Course.settle (h : Course j es s .looping) (hc : s.cursor.isFinished) :
    Course j es (s.settle j) (s.settle j).stage := by
  unfold State.settle
  cases s.progress.settle? with
  | some p => exact h
  | none => exact h.cleanUp hc

/-- The transfer goes on after a record where it has been. -/
lemma Course.resume {r : Status} {next : Next} (h : Course j es s (.sending r next))
    (hc : next = .cleanUp → s.cursor.isFinished) :
    Course j es (s.resume j next) (s.resume j next).stage := by
  cases next with
  | begin_ =>
    show Course j es _ (if j.slots ≤ slotLimit then .looping else .ended)
    split
    · exact h
    · trivial
  | loop => exact h
  | cleanUp => exact Course.cleanUp h (hc rfl)
  | stop => trivial

/-- A turn keeps the course. -/
lemma Course.turn (h : Course j es s s.stage) (hs : s.Sound) (ht : Turn j s e s') :
    Course j (es ++ [e]) s' s'.stage := by
  have hst := hs.standing
  cases ht with
  | created hs =>
    rw [hs] at h
    obtain ⟨hd, hl, hr⟩ := h
    exact ⟨by simp, by simp [Event.endsListing, hl], by simpa using hr⟩
  | notCreated | refused | deletionRefused | notListed | deleted | notDeleted | failed | unheard
  | cancelled => trivial
  | granted hs | started hs | listedAgain hs =>
    rw [hs] at h
    exact h.task.quiet rfl rfl
  | deletedAgain hs =>
    rw [hs] at h
    exact h.quiet rfl rfl
  | counted hs =>
    rw [hs] at h hst
    exact h.countPage (by rw [hst.1.cursor]; rfl)
  | supplied hs =>
    rw [hs] at h hst
    exact (h.nextPage hst.2.2).supply
  | joined hs => exact h.quiet rfl rfl
  | acquired hs =>
    rw [hs] at h
    exact .supply (h.quiet rfl rfl)
  | folded hs =>
    rw [hs] at h
    exact h.quiet rfl rfl
  | drained hl hd =>
    -- The listing that the loop knows to be exhausted is the second one.
    have hx := (hs.drained hl hd).exhausted
    rw [hl] at h
    have hq : Course j (es ++ [.drain]) s .looping := h.quiet rfl rfl
    exact hq.settle (hs.exhausted hx).1
  | sent hl =>
    rw [hl] at h hst
    refine Course.resume (h.quiet rfl rfl) ?_
    rintro rfl
    exact (hs.exhausted (hst : s.Drained).exhausted).1
  | took | hungUp => exact h.quiet rfl rfl

end Steps

/-- Where the main loop stands says how far the transfer has come. -/
theorem Run.course {j : Job} {disk : Disk} {es : List Event} {s : State} (h : Run j disk es s) :
    Course j es s s.stage := by
  induction h with
  | start => exact ⟨List.not_mem_nil, rfl, List.not_mem_nil⟩
  | step hr h ih =>
    cases h with
    | turn ht => exact ih.turn hr.sound ht
    | move hi hd hp hm => exact ih.quiet (Event.not_advances hi) rfl

/-! ## The entries of the listings -/

/-- The page that an event brings. -/
def Event.page? : Event → Option Page
  | .page (.ok p) => some p
  | _ => none

/-- The pages that were read, in order. -/
def pagesRead (es : List Event) : List Page :=
  es.filterMap Event.page?

/-- The entries of the listing that counts the files: those up to the first last page. -/
def entriesCounted (es : List Event) : List Entry :=
  ((pagesRead es).takeWhile (·.next.isSome) ++
    ((pagesRead es).dropWhile (·.next.isSome)).head?.toList).flatMap (·.entries)

/-- The totals of these. -/
def totalsCounted (es : List Event) : Totals :=
  Enumeration.totalsOf (entriesCounted es)

/-- The entries of the listing of the files to download: those behind the first last page. -/
def entriesListed (es : List Event) : List Entry :=
  ((pagesRead es).dropWhile (·.next.isSome)).tail.flatMap (·.entries)

section Listings

variable {j : Job} {es : List Event} {s s' : State} {e : Event}

/-- An event that gives no page leaves the pages that were read. -/
lemma pagesRead_snoc_of_none (es : List Event) (h : e.page? = none) :
    pagesRead (es ++ [e]) = pagesRead es := by
  simp [pagesRead, h]

/-- A page that is given comes after those that were read. -/
lemma pagesRead_snoc_page (es : List Event) (p : Page) :
    pagesRead (es ++ [.page (.ok p)]) = pagesRead es ++ [p] := by
  simp [pagesRead, Event.page?]

/-- A listing is read to its end with its last page. -/
lemma listingsRead_eq_countP (es : List Event) :
    listingsRead es = (pagesRead es).countP (·.next.isNone) := by
  rw [listingsRead, pagesRead, List.countP_filterMap]
  apply List.countP_congr
  intro e _
  cases e with
  | page r => cases r <;> simp [Event.endsListing, Event.page?]
  | _ => simp [Event.endsListing, Event.page?]

/-- No page that was read is a last one as long as no listing has been read to its end. -/
lemma listingsRead_eq_zero_iff :
    listingsRead es = 0 ↔ ∀ p ∈ pagesRead es, p.next.isSome := by
  rw [listingsRead_eq_countP, List.countP_eq_zero]
  simp [Option.isSome_iff_ne_none]

/-- A page of the first listing goes with those that were counted. -/
lemma entriesCounted_snoc (p : Page) (h : listingsRead es = 0) :
    entriesCounted (es ++ [.page (.ok p)]) = entriesCounted es ++ p.entries ∧
      entriesListed (es ++ [.page (.ok p)]) = entriesListed es := by
  have hall := listingsRead_eq_zero_iff.1 h
  have hdrop := List.dropWhile_eq_nil_iff.2 hall
  rw [entriesCounted, entriesCounted, entriesListed, entriesListed, pagesRead_snoc_page,
    List.takeWhile_append_of_pos hall, List.dropWhile_append_of_pos hall, hdrop,
    List.takeWhile_eq_self_iff.2 hall]
  cases hn : p.next <;> simp [hn]

/-- A page of the second listing goes with those that were listed. -/
lemma entriesListed_snoc (p : Page) (h : listingsRead es ≠ 0) :
    entriesCounted (es ++ [.page (.ok p)]) = entriesCounted es ∧
      entriesListed (es ++ [.page (.ok p)]) = entriesListed es ++ p.entries := by
  -- A last page has been read before, so neither list function gets as far as this one.
  have hdrop : (pagesRead es).dropWhile (·.next.isSome) ≠ [] := fun hnil =>
    h (listingsRead_eq_zero_iff.2 (List.dropWhile_eq_nil_iff.1 hnil))
  obtain ⟨last, rest, hrest⟩ := List.exists_cons_of_ne_nil hdrop
  have htake : ((pagesRead es).takeWhile (·.next.isSome)).length ≠ (pagesRead es).length := by
    intro hlen
    have hsum : ((pagesRead es).takeWhile (·.next.isSome) ++
        (pagesRead es).dropWhile (·.next.isSome)).length = (pagesRead es).length := by
      rw [List.takeWhile_append_dropWhile]
    rw [List.length_append, hrest, List.length_cons] at hsum
    omega
  rw [entriesCounted, entriesCounted, entriesListed, entriesListed, pagesRead_snoc_page,
    List.takeWhile_append, List.dropWhile_append, if_neg htake, hrest]
  simp

/-- The state knows the entries of both listings. -/
def Listed (es : List Event) (s : State) : Prop :=
  s.counted = entriesCounted es ∧ s.listed = entriesListed es

/-- An event that brings no page changes the entries of no listing. -/
lemma Listed.quiet (h : Listed es s) (he : e.page? = none) (hc : s'.counted = s.counted)
    (hl : s'.listed = s.listed) : Listed (es ++ [e]) s' := by
  rw [Listed, entriesCounted, entriesListed, pagesRead_snoc_of_none es he, hc, hl]
  exact h

/-- A turn takes in the entries of the page that it brings. -/
lemma Listed.turn (h : Listed es s) (hc : Course j es s s.stage) (ht : Turn j s e s') :
    Listed (es ++ [e]) s' := by
  cases ht with
  | counted hs =>
    rw [hs] at hc
    obtain ⟨hcount, hlist⟩ := entriesCounted_snoc _ hc.2.1
    rw [State.countPage_eq, Listed, hcount, hlist, ← h.1, ← h.2]
    exact ⟨rfl, rfl⟩
  | supplied hs =>
    rw [hs] at hc
    have hne : listingsRead es ≠ 0 := by
      rw [hc.2.1]
      split <;> simp
    obtain ⟨hcount, hlist⟩ := entriesListed_snoc _ hne
    rw [State.supply_eq, Listed, hcount, hlist, ← h.1, ← h.2]
    exact ⟨rfl, rfl⟩
  | acquired =>
    rw [State.supply_eq]
    exact h.quiet rfl rfl rfl
  | drained =>
    rw [State.settle_eq]
    exact h.quiet rfl rfl rfl
  | sent =>
    rw [State.resume_eq]
    exact h.quiet rfl rfl rfl
  | _ => exact h.quiet rfl rfl rfl

end Listings

/-- No event of a download brings a page. -/
lemma Event.page?_eq_none {e : Event} {i : Nat} (h : e.download? = some i) : e.page? = none := by
  cases e with
  | page => cases h
  | _ => rfl

/-- The entries that a run has counted and listed are those of the pages that it has read. -/
theorem Run.listed {j : Job} {disk : Disk} {es : List Event} {s : State} (h : Run j disk es s) :
    Listed es s := by
  induction h with
  | start => exact ⟨rfl, rfl⟩
  | step hr h ih =>
    cases h with
    | turn ht => exact ih.turn hr.course ht
    | move hi hd hp hm => exact ih.quiet (Event.page?_eq_none hi) rfl rfl

end FolderCopy.Transfer
