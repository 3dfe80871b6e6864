import FolderCopy.Proofs.Transfer.Requests
import FolderCopy.Proofs.Transfer.Slots
import FolderCopy.Proofs.Transfer.StatusStream

/-!
# The phases of a transfer

What a transfer calls stands in phases: the destination, the first listing, the second listing
together with the downloads, and the deletion. The listing calls of a run are those that have become
due, in order, and no phase begins before the one before it has come to its end.
-/

namespace FolderCopy.Transfer

/-- Whether a call asks for a page of a listing. -/
def Call.lists : Call → Bool
  | .store (.list ..) => true
  | _ => false

/-- Whether a call belongs to a download: it asks for content, or opens or closes a local file. -/
def Call.copies : Call → Bool
  | .store (.download _) | .openFile _ | .closeFile _ => true
  | _ => false

/-! ## What comes before downloads -/

/-- The destination was created, the first listing read to its end, and the baseline told. -/
structure Begun (es : List Event) (s : State) : Prop where
  created : .directory (.ok ()) ∈ es
  counted : listingsRead es ≠ 0
  told : s.sent ≠ []

section Runs

variable {j : Job} {disk : Disk} {es : List Event} {s s' : State} {e : Event}

/-- What has begun stays so with every turn. -/
lemma Begun.turn (h : Begun es s) (ht : Turn j s e s') : Begun (es ++ [e]) s' := by
  refine ⟨List.mem_append_left _ h.created, ?_, ?_⟩
  · rw [listingsRead_snoc]
    exact Nat.ne_of_gt (Nat.add_pos_left (Nat.pos_of_ne_zero h.counted) _)
  · cases ht.onRecords with
    | same hs | took _ hs | hungUp hs => exact hs ▸ h.told
    | sent _ _ hs => simp [hs]

/-- What has begun stays so with every move of a download. -/
lemma Begun.move (h : Begun es s) {i : Nat} {d : Download} {fs : List Effect}
    (hi : e.download? = some i) : Begun (es ++ [e]) (s.advance j i d fs) := by
  refine ⟨List.mem_append_left _ h.created, ?_, h.told⟩
  rw [listingsRead_of_not_advances es (Event.not_advances hi)]
  exact h.counted

/-- The loop and the second listing come after the baseline. -/
lemma Run.begun_of_stage (h : Run j disk es s)
    (hl : s.stage = .looping ∨ ∃ r, s.stage = .paging r) : Begun es s := by
  have hc := h.course
  have ht := h.told
  have hloop : s.loopRecords ≠ [] := by simp [State.loopRecords]
  rcases hl with hl | ⟨r, hl⟩ <;> rw [hl] at hc ht
  all_goals
    refine ⟨hc.1, ?_, ?_⟩
    · rw [hc.2.1]
      split <;> simp
    · rw [show s.sent = s.loopRecords from ht]
      exact hloop

/-- Downloads are scheduled by the loop and with the pages of the second listing only. -/
lemma Turn.length_eq (h : Turn j s e s') (hl : s.stage ≠ .looping) (hp : ∀ r, s.stage ≠ .paging r) :
    s'.downloads.length = s.downloads.length := by
  cases h with
  | supplied h => exact absurd h (hp _)
  | acquired h | joined h | failed h => exact absurd h hl
  | counted => rw [State.countPage_eq]
  | drained => rw [State.settle_eq]
  | sent => rw [State.resume_eq]
  | _ => rfl

/-- No download is scheduled before the baseline is told. -/
lemma Run.begun (h : Run j disk es s) (hd : s.downloads ≠ []) : Begun es s := by
  induction h with
  | start => exact absurd rfl hd
  | @step es s e s' hr h ih =>
    cases h with
    | move hi hd' => exact (ih (List.ne_nil_of_mem (List.mem_of_getElem? hd'))).move hi
    | turn ht =>
      by_cases hl : s.stage = .looping ∨ ∃ r, s.stage = .paging r
      · exact (hr.begun_of_stage hl).turn ht
      · obtain ⟨hl, hp⟩ := not_or.1 hl
        have hlen := ht.length_eq hl fun r hr => hp ⟨r, hr⟩
        refine (ih ?_).turn ht
        intro hnil
        rw [hnil] at hlen
        exact hd (List.length_eq_zero_iff.1 hlen)

/-! ## Nothing without a destination -/

/-- A transfer is over when its destination cannot be created, and has not created it before. -/
lemma Run.directory_error (h : Run j disk es s) {c : CallError} (hc : .directory (.error c) ∈ es) :
    s.stage.isOver ∧ .directory (.ok ()) ∉ es := by
  induction h with
  | start => cases hc
  | @step es s e s' hr h ih =>
    rcases List.mem_append.1 hc with hc | hc
    · obtain ⟨ho, hno⟩ := ih hc
      cases h with
      | turn ht =>
        refine ⟨ht.isOver ho, ?_⟩
        rw [List.mem_append, not_or]
        refine ⟨hno, ?_⟩
        intro he
        cases List.mem_singleton.1 he
        cases ht with
        | created hl =>
          rw [hl] at ho
          cases ho
      | move hi => exact ⟨ho, (mem_snoc_of_not_advances (Event.not_advances hi) rfl).not.2 hno⟩
    · cases List.mem_singleton.1 hc
      cases h with
      | move hi => cases hi
      | turn ht =>
        cases ht with
        | notCreated hl =>
          have hcourse := hr.course
          rw [hl] at hcourse
          exact ⟨rfl, by simpa using hcourse.1⟩

/-- The main loop calls nothing but by starting a call. -/
lemma Turn.calls_eq (h : Turn j s e s') (he : e ≠ .start .main) : s'.calls = s.calls := by
  cases h with
  | started => exact absurd rfl he
  | counted => rw [State.countPage_eq]
  | supplied | acquired => rw [State.supply_eq]
  | drained => rw [State.settle_eq]
  | sent => rw [State.resume_eq]
  | _ => rfl

/-- Without a destination nothing else is called. -/
lemma Run.uncalled (h : Run j disk es s) (hd : .directory (.ok ()) ∉ es) :
    s.calls = [.createDirectory j.destination] := by
  induction h with
  | start => rfl
  | @step es s e s' hr h ih =>
    have hd' : .directory (.ok ()) ∉ es := fun hmem => hd (List.mem_append_left _ hmem)
    cases h with
    | move hi hdl =>
      exact absurd (hr.begun (List.ne_nil_of_mem (List.mem_of_getElem? hdl))).created hd'
    | turn ht =>
      rw [ht.calls_eq ?_, ih hd']
      rintro rfl
      have hc := hr.course
      cases ht with
      | @started k n hl =>
        rw [hl] at hc
        cases k <;> exact hd' hc.1

/-! ## The calls -/

/-- How many listing calls have been made for the answers that were taken in, when the main loop
stands at a stage. -/
def Made (answered n : Nat) : Stage → Prop
  | .counting _ _ (.calling _) | .paging (.calling _) => n = answered + 1
  | .sending _ .stop | .ended => answered ≤ n
  | _ => n = answered

/-- There are no fewer calls than answers. -/
lemma Made.le {a n : Nat} {st : Stage} (h : Made a n st) : a ≤ n := by
  unfold Made at h
  split at h <;> omega

/-- No call is under way when entries are handed out. -/
lemma Made.supply (n : Nat) (entries : List Entry) : Made n n (s.supply entries).stage := by
  cases entries with
  | cons e rest => rfl
  | nil =>
    rw [State.supply]
    split <;> rfl

/-- No call is under way when cleaning up begins. -/
lemma Made.cleanUp (n : Nat) : Made n n (s.cleanUp j).stage := by
  unfold State.cleanUp
  split
  · rfl
  · exact Nat.le_refl n

/-- No call is under way when the counters are settled. -/
lemma Made.settle (n : Nat) : Made n n (s.settle j).stage := by
  unfold State.settle
  split
  · rfl
  · exact .cleanUp n

/-- No call is under way when a page has been counted. -/
lemma Made.countPage (n : Nat) (t : Totals) (p : Page) : Made n n (s.countPage t p).stage := by
  unfold State.countPage
  split <;> rfl

/-- To go on after a record makes no call. -/
lemma Made.resume {a n : Nat} {r : Status} {next : Next} (h : Made a n (.sending r next)) :
    Made a n (s.resume j next).stage := by
  cases next with
  | begin_ =>
    cases h
    show Made a a (if j.slots ≤ slotLimit then .looping else .ended)
    split
    · rfl
    · exact Nat.le_refl a
  | loop => exact h
  | cleanUp =>
    cases h
    exact .cleanUp a
  | stop => exact h

/-- Every turn but the start of a call keeps count of the listing calls. -/
lemma Made.turn {a n : Nat} (h : Made a n s.stage) (ht : Turn j s e s') (he : e ≠ .start .main) :
    Made (a + e.answer?.toList.length) n s'.stage := by
  cases ht with
  | created hl | folded hl | deletedAgain hl =>
    rw [hl] at h
    exact h
  | notCreated | deletionRefused | deleted | notDeleted | failed | unheard | cancelled => exact h.le
  | @granted k m hl =>
    rw [hl] at h
    cases k <;> exact h
  | @refused k m c hl hk =>
    rw [hl] at h
    cases k with
    | counting | paging => exact Nat.le_of_eq h.symm
    | cleaning => cases hk
  | started => exact absurd rfl he
  | counted hl =>
    rw [hl] at h
    cases h
    exact .countPage _ _ _
  | supplied hl =>
    rw [hl] at h
    cases h
    exact .supply _ _
  | @notListed k m c err hl hk =>
    rw [hl] at h
    cases k with
    | counting | paging => exact Nat.le_of_eq h.symm
    | cleaning => cases hk
  | @listedAgain k m c hl hk =>
    rw [hl] at h
    cases k with
    | counting | paging => exact h
    | cleaning => cases hk
  | acquired hl =>
    rw [hl] at h
    cases h
    exact .supply _ _
  | drained hl =>
    rw [hl] at h
    cases h
    exact .settle _
  | sent hl =>
    rw [hl] at h
    exact .resume h
  | joined | took | hungUp => exact h

/-- The calls of a run in their phases: the destination, the listing calls of the first listing
(`first`), those of the second one (`later`) in their order among what downloads call (`copying`),
and the deletions. -/
structure Phases (j : Job) (es : List Event) (s : State) (first later : List Request)
    (copying : List Call) : Prop where
  calls : s.calls.filter (fun c => !c.deletes) =
    .createDirectory j.destination :: first.map (·.call j) ++ copying
  due : first ++ later <+: requests es
  made : Made (answers es).length (first ++ later).length s.stage
  ofFirst : ∀ q ∈ first, q.listing = 0
  ofLater : ∀ q ∈ later, q.listing = 1
  listed : copying.filter Call.lists = later.map (·.call j)
  kinds : ∀ c ∈ copying, c.lists ∨ c.copies
  begun : copying ≠ [] → Begun es s

section Phases

variable {first later : List Request} {copying : List Call}

/-- The phases stay as they are where no call is started. -/
lemma Phases.kept (h : Phases j es s first later copying) (ht : Turn j s e s')
    (he : e ≠ .start .main) : Phases j (es ++ [e]) s' first later copying := by
  refine ⟨?_, h.due.trans (requests_grow es e), ?_, h.ofFirst, h.ofLater, h.listed, h.kinds,
    fun hne => (h.begun hne).turn ht⟩
  · rw [ht.calls_eq he]
    exact h.calls
  · rw [answers_snoc, List.length_append]
    exact h.made.turn ht he

/-- When the main loop starts a listing call, it is the one that is due. -/
lemma Phases.concat_due (h : Phases j es s first later copying)
    (hm : (first ++ later).length = (answers es).length) :
    first ++ later ++ [requestAfter (answers es)] <+: requests (es ++ [.start .main]) :=
  (concat_due_of_length_eq h.due hm).trans (requests_grow _ _)

/-- A call that the main loop starts goes to the end of its phase. -/
lemma Phases.started (h : Phases j es s first later copying) (hr : Run j disk es s)
    (ht : Turn j s (.start .main) s') :
    ∃ first later copying, Phases j (es ++ [.start .main]) s' first later copying := by
  have hdue := hr.due
  have hcourse := hr.course
  have hmade := h.made
  have hlisting := listing_requestAfter es
  have hanswers : answers (es ++ [.start .main]) = answers es := answers_snoc_of_none es rfl
  cases ht with
  | @started k n hl =>
  rw [hl] at hmade hdue hcourse
  have hpref := h.concat_due
  generalize requestAfter (answers es) = q at hdue hlisting hpref
  cases k with
  | counting c t =>
    -- Nothing is copied as long as the files are counted.
    obtain rfl : copying = [] := by
      by_contra hne
      exact (h.begun hne).counted hcourse.2.1
    obtain rfl : later = [] := by simpa using h.listed.symm
    refine ⟨first ++ [q], [], [], ?_, ?_, ?_, ?_, h.ofLater, rfl, nofun, nofun⟩
    · show (s.calls ++ _).filter _ = _
      rw [List.filter_append, h.calls]
      simp [Call.deletes, Task.call, Request.call, hdue.1]
    · simpa using hpref hmade
    · rw [hanswers]
      have hmade : (first ++ [] : List Request).length = (answers es).length := hmade
      show (first ++ [q] ++ []).length = _ + 1
      simp [← hmade]
    · intro q' hq'
      rcases List.mem_append.1 hq' with hq' | hq'
      · exact h.ofFirst q' hq'
      · rw [List.mem_singleton.1 hq', hlisting, hcourse.2.1]
  | paging =>
    -- The call comes behind all that has been copied, and goes with the second listing.
    have hst := hr.sound.standing
    rw [hl] at hst
    refine ⟨first, later ++ [q], copying ++ [q.call j], ?_, ?_, ?_, h.ofFirst, ?_, ?_, ?_, ?_⟩
    · show (s.calls ++ _).filter _ = _
      rw [List.filter_append, h.calls]
      simp [Call.deletes, Task.call, Request.call, hdue.1]
    · simpa using hpref hmade
    · rw [hanswers]
      have hmade : (first ++ later).length = (answers es).length := hmade
      show (first ++ (later ++ [q])).length = _ + 1
      simp [← hmade, Nat.add_assoc]
    · intro q' hq'
      rcases List.mem_append.1 hq' with hq' | hq'
      · exact h.ofLater q' hq'
      · rw [List.mem_singleton.1 hq', hlisting, hcourse.2.1, hst.2.2]
        rfl
    · rw [List.filter_append, h.listed]
      simp [Call.lists, Request.call]
    · intro c hc
      rcases List.mem_append.1 hc with hc | hc
      · exact h.kinds c hc
      · rw [List.mem_singleton.1 hc]
        exact .inl rfl
    · intro _
      exact (hr.begun_of_stage (.inr ⟨_, hl⟩)).turn (.started (k := .paging) hl)
  | cleaning =>
    -- Deletions are kept out of these phases.
    refine ⟨first, later, copying, ?_, h.due.trans (requests_grow _ _), ?_, h.ofFirst, h.ofLater,
      h.listed, h.kinds, fun hne => (h.begun hne).turn (.started (k := .cleaning) hl)⟩
    · show (s.calls ++ _).filter _ = _
      rw [List.filter_append, h.calls]
      simp [Call.deletes, Task.call]
    · rw [hanswers]
      exact hmade

/-- What downloads call goes with the second listing. -/
lemma Phases.move (h : Phases j es s first later copying) (hr : Run j disk es s) {i : Nat}
    {d d' : Download} {fs : List Effect} (hi : e.download? = some i)
    (hd : s.downloads[i]? = some d) (hm : Download.Move j d e d' fs) :
    Phases j (es ++ [e]) (s.advance j i d' fs) first later
      (copying ++ fs.filterMap Effect.call?) := by
  have hcopies : ∀ c ∈ fs.filterMap Effect.call?, c.copies ∧ ¬ c.lists ∧ ¬ c.deletes := by
    cases hm <;> simp [Effect.call?, Call.copies, Call.lists, Call.deletes]
  have hbegun := hr.begun (List.ne_nil_of_mem (List.mem_of_getElem? hd))
  refine ⟨?_, h.due.trans (requests_grow es e), ?_, h.ofFirst, h.ofLater, ?_, ?_,
    fun _ => hbegun.move hi⟩
  · show (s.calls ++ _).filter _ = _
    rw [List.filter_append, h.calls, List.filter_eq_self.2]
    · simp
    · intro c hc
      simpa using (hcopies c hc).2.2
  · rw [answers_snoc_of_none es (Event.answer?_eq_none hi)]
    exact h.made
  · rw [List.filter_append, h.listed, List.filter_eq_nil_iff.2 fun c hc => (hcopies c hc).2.1]
    exact List.append_nil _
  · intro c hc
    rcases List.mem_append.1 hc with hc | hc
    · exact h.kinds c hc
    · exact .inr (hcopies c hc).1

/-- The listing calls of a run. -/
lemma Phases.lists_eq (h : Phases j es s first later copying) :
    s.calls.filter Call.lists = (first ++ later).map (·.call j) := by
  have hkeep : s.calls.filter Call.lists =
      (s.calls.filter fun c => !c.deletes).filter Call.lists := by
    rw [List.filter_filter]
    apply List.filter_congr
    intro c _
    cases c with
    | store q => cases q <;> rfl
    | _ => rfl
  have hfirst : (first.map (·.call j)).filter Call.lists = first.map (·.call j) := by
    apply List.filter_eq_self.2
    intro c hc
    obtain ⟨q, -, rfl⟩ := List.mem_map.1 hc
    rfl
  rw [hkeep, h.calls, List.filter_append, h.listed, List.map_append]
  show List.filter Call.lists (first.map (·.call j)) ++ _ = _
  rw [hfirst]

end Phases

/-- The calls of a run stand in phases. -/
theorem Run.phases (h : Run j disk es s) :
    ∃ first later copying, Phases j es s first later copying := by
  induction h with
  | start => exact ⟨[], [], [], rfl, List.nil_prefix, rfl, nofun, nofun, rfl, nofun, nofun⟩
  | @step es s e s' hr h ih =>
    obtain ⟨first, later, copying, h'⟩ := ih
    cases h with
    | move hi hd hp hm => exact ⟨first, later, _, h'.move hr hi hd hm⟩
    | turn ht =>
      by_cases he : e = .start .main
      · subst he
        exact h'.started hr ht
      · exact ⟨first, later, copying, h'.kept ht he⟩

end Runs

end FolderCopy.Transfer
