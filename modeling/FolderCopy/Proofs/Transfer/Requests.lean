import FolderCopy.Proofs.Transfer.Deletion

/-!
# Listing calls

Which page a transfer asks for is fixed by the answers that it has got: after a page the next one,
after the last page of a listing the first one of the other listing, and after a failed attempt the
same page once more. The listing calls of a run are these, in order, and all that it calls stands in
phases: the destination, the first listing, the second listing together with the downloads, and the
deletion.
-/

namespace FolderCopy.Transfer

/-! ## What is due -/

/-- The answer to a listing call. -/
def Event.answer? : Event → Option (Except CallError Page)
  | .page r => some r
  | _ => none

/-- The answers to listing calls, in order. -/
def answers (es : List Event) : List (Except CallError Page) :=
  es.filterMap Event.answer?

/-- A listing call. -/
structure Request where
  /-- How many listings were read to their end before. -/
  listing : Nat := 0
  token : Option String := none
  /-- The number of the attempt; attempts count from one. -/
  attempt : Nat := 1
  deriving DecidableEq, Repr

namespace Request

/-- The listing call that follows on an answer. -/
def next (q : Request) : Except CallError Page → Request
  | .ok p => { listing := q.listing + if p.next.isNone then 1 else 0, token := p.next }
  | .error _ => { q with attempt := q.attempt + 1 }

/-- The call itself. -/
def call (j : Job) (q : Request) : Call :=
  .store (.list (some j.folder) .files q.token)

end Request

/-- The listing call that is due after some answers. -/
def requestAfter (rs : List (Except CallError Page)) : Request :=
  rs.foldl Request.next {}

/-- The listing calls that have become due in a run: the first one, and one more with each
answer. -/
def requests (es : List Event) : List Request :=
  (answers es).scanl Request.next {}

section Requests

variable {es : List Event} {e : Event}

/-- An answer comes after those before it. -/
lemma answers_snoc (es : List Event) (e : Event) :
    answers (es ++ [e]) = answers es ++ e.answer?.toList := by
  cases h : e.answer? <;> simp [answers, h]

/-- Events that answer no listing leave the answers there were. -/
lemma answers_snoc_of_none (es : List Event) (he : e.answer? = none) :
    answers (es ++ [e]) = answers es := by
  rw [answers_snoc, he, Option.toList_none, List.append_nil]

/-- The call that is due moves on with an answer to a listing, and with nothing else. -/
lemma requestAfter_snoc (es : List Event) (e : Event) :
    requestAfter (answers (es ++ [e])) =
      e.answer?.toList.foldl Request.next (requestAfter (answers es)) := by
  rw [answers_snoc, requestAfter, List.foldl_append]
  rfl

/-- Events of downloads answer no listing. -/
lemma Event.answer?_eq_none {i : Nat} (h : e.download? = some i) : e.answer? = none := by
  cases e with
  | page => cases h
  | _ => rfl

/-- The calls that have become due only get more. -/
lemma requests_grow (es : List Event) (e : Event) : requests es <+: requests (es ++ [e]) := by
  rw [requests, requests, answers_snoc, List.scanl_append]
  exact List.prefix_append _ _

/-- One call is due before any answer, and one more after each. -/
lemma length_requests (es : List Event) : (requests es).length = (answers es).length + 1 :=
  List.length_scanl

/-- The calls that were due up to some answers are followed by the one that is due after these. -/
lemma getElem?_requests {n : Nat} (hn : n ≤ (answers es).length) :
    (requests es)[n]? = some (requestAfter ((answers es).take n)) := by
  rw [requests, List.getElem?_scanl, if_pos hn]
  rfl

/-- With every answer taken in, the next call is the one that is due. -/
lemma concat_due_of_length_eq {qs : List Request} (h : qs <+: requests es)
    (hn : qs.length = (answers es).length) : qs ++ [requestAfter (answers es)] <+: requests es := by
  have hlast := getElem?_requests (Nat.le_refl (answers es).length)
  rw [List.take_length, ← hn] at hlast
  rw [List.prefix_iff_eq_take] at h ⊢
  rw [List.length_append, List.length_singleton, List.take_add_one, ← h, hlast]
  rfl

/-- The call that is due belongs to the listing that has not been read to its end. -/
lemma listing_requestAfter (es : List Event) :
    (requestAfter (answers es)).listing = listingsRead es := by
  induction es using List.reverseRecOn with
  | nil => rfl
  | append_singleton es e ih =>
    rw [requestAfter_snoc, listingsRead_snoc, ← ih]
    cases e with
    | page r => cases r <;> rfl
    | _ => rfl

/-- Every call but the first has become due with the answer to the one before. -/
lemma exists_next_of_concat {qs : List Request} {q q' : Request}
    (h : qs ++ [q, q'] <+: requests es) : ∃ r ∈ answers es, q' = q.next r := by
  obtain ⟨rest, hrest⟩ := h
  have hq : (requests es)[qs.length]? = some q := by simp [← hrest]
  have hq' : (requests es)[qs.length + 1]? = some q' := by simp [← hrest]
  rw [requests, List.getElem?_succ_scanl, ← requests, hq] at hq'
  obtain ⟨r, hr, rfl⟩ := Option.map_eq_some_iff.1 hq'
  exact ⟨r, List.mem_of_getElem? hr, rfl⟩

/-- Every listing begins without a token. -/
lemma token_of_first {qs : List Request} {q : Request} (h : qs ++ [q] <+: requests es)
    (hq : ∀ q' ∈ qs, q'.listing ≠ q.listing) : q.token = none := by
  rcases List.eq_nil_or_concat qs with rfl | ⟨qs, q₀, rfl⟩
  · obtain ⟨rest, hrest⟩ := h
    cases hr : answers es <;> simp [requests, hr] at hrest
    all_goals rw [hrest.1]
  · obtain ⟨r, -, rfl⟩ := exists_next_of_concat (by simpa using h)
    have hne := hq q₀ (by simp)
    -- Within a listing the number of the listing stays, so `q` has followed on a last page.
    cases r with
    | error c => exact absurd rfl hne
    | ok p =>
      cases hn : p.next with
      | none => exact hn
      | some t => simp [Request.next, hn] at hne

end Requests

/-- The listing call that is due when the main loop stands at a stage. -/
def Due (q : Request) (s : State) : Stage → Prop
  | .creating | .sending _ .begin_ => q.token = none ∧ q.attempt = 1
  | .counting c _ r => q.token = c.token ∧ q.attempt = r.number
  | .looping | .sending _ .loop => q.token = s.cursor.token ∧ q.attempt = 1
  | .paging r => q.token = s.cursor.token ∧ q.attempt = r.number
  | .sending _ .cleanUp | .cleaning _ | .sending _ .stop | .ended => True

section Steps

variable {j : Job} {q : Request} {s s' : State} {e : Event}

/-- To hand out entries leaves the call that is due. -/
lemma Due.supply {entries : List Entry} (h : Due q s .looping) :
    Due q (s.supply entries) (s.supply entries).stage := by
  cases entries with
  | cons e rest => exact h
  | nil =>
    rw [State.supply]
    split <;> exact h

/-- No listing call is due when cleaning up begins. -/
lemma Due.cleanUp : Due q (s.cleanUp j) (s.cleanUp j).stage := by
  unfold State.cleanUp
  split <;> trivial

/-- No listing call is due when the counters are settled. -/
lemma Due.settle : Due q (s.settle j) (s.settle j).stage := by
  unfold State.settle
  split
  · trivial
  · exact .cleanUp

/-- A page is followed by the next one, be it of the same listing or of the other. -/
lemma Due.countPage {t : Totals} {p : Page} :
    Due (q.next (.ok p)) (s.countPage t p) (s.countPage t p).stage := by
  cases hn : p.next <;> simp [State.countPage, Cursor.after, hn, Due, Request.next, Cursor.token,
    Retry.Stage.first, Retry.Stage.number]

/-- After a page, the call for the next one is due. -/
lemma Due.nextPage {p : Page} {listed : List Entry} :
    Due (q.next (.ok p)) { s with cursor := .after p, listed } .looping := by
  cases hn : p.next <;> simp [Cursor.after, hn, Due, Request.next, Cursor.token]

/-- To go on after a record leaves the call that is due. -/
lemma Due.resume {r : Status} {next : Next} (h : Due q s (.sending r next))
    (hc : next = .begin_ → s.cursor = .start) :
    Due q (s.resume j next) (s.resume j next).stage := by
  cases next with
  | begin_ =>
    show Due q _ (if j.slots ≤ slotLimit then .looping else .ended)
    split
    · show q.token = s.cursor.token ∧ _
      rw [hc rfl]
      exact h
    · trivial
  | loop => exact h
  | cleanUp => exact .cleanUp
  | stop => trivial

/-- A turn takes an answer in, and goes on to the call that is due after it. -/
lemma Due.turn (h : Due q s s.stage) (hs : s.Sound) (ht : Turn j s e s') :
    Due (e.answer?.toList.foldl Request.next q) s' s'.stage := by
  cases ht with
  | created hl =>
    rw [hl] at h
    exact h
  | @granted k n hl | @started k n hl =>
    rw [hl] at h
    cases k <;> exact h
  | @listedAgain k n c hl =>
    rw [hl] at h
    cases k with
    | counting | paging => exact ⟨h.1, congrArg (· + 1) h.2⟩
    | cleaning => trivial
  | counted => exact .countPage
  | supplied => exact Due.supply .nextPage
  | acquired hl =>
    rw [hl] at h
    exact Due.supply h
  | joined | took | hungUp => exact h
  | folded hl =>
    rw [hl] at h
    exact h
  | drained => exact .settle
  | sent hl =>
    have hst := hs.standing
    rw [hl] at h hst
    -- Behind the baseline comes the first page of the second listing.
    refine Due.resume h ?_
    rintro rfl
    exact hst.1.cursor
  | notCreated | refused | deletionRefused | notListed | deleted | notDeleted | deletedAgain
  | failed | unheard | cancelled => trivial

end Steps

/-- Where the main loop stands says which listing call is due. -/
lemma Run.due {j : Job} {disk : Disk} {es : List Event} {s : State} (h : Run j disk es s) :
    Due (requestAfter (answers es)) s s.stage := by
  induction h with
  | start => exact ⟨rfl, rfl⟩
  | step hr h ih =>
    rw [requestAfter_snoc]
    cases h with
    | turn ht => exact ih.turn hr.sound ht
    | move hi hd hp hm =>
      rw [Event.answer?_eq_none hi]
      exact ih

end FolderCopy.Transfer
