import FolderCopy.Proofs.Transfer.Records

/-!
# What a transfer comes to

Why a transfer ends as it does: it is complete if all of its parts succeeded, it fails with an error
that one of its own steps gave rise to, and after a complete one the answers about the remote folder
say what became of that.
-/

namespace FolderCopy.Transfer

/-- What the download of an entry fails with at an event. -/
inductive Download.Failure (j : Job) (entry : Entry) : Event → CopyError → Prop where
  | refused {a c} : Failure j entry (.admission a (.error c)) (Retry.refused c)
  | fetch {i n c e}
    (h : j.policy.after (α := Unit) entry.name n (.error c) = .inl (.error e)) :
    Failure j entry (.stream i (.error c)) e
  | openFile {i c} :
    Failure j entry (.opened i (.error c)) (.localFailure "open" (j.target entry) c.message)
  | read {i m} :
    Failure j entry (.read i (.error m))
      (.transient 1 (entry.name ++ ": download interrupted: " ++ m))
  | write {i n m} :
    Failure j entry (.written i (.error (n, m))) (.localFailure "write" (j.target entry) m)
  | close {i m} :
    Failure j entry (.closed i (.error m)) (.localFailure "close" (j.target entry) m)

/-- What a transfer fails with at an event, be it one of the main loop or of a download. -/
inductive Failure (j : Job) (ds : List Download) : Event → CopyError → Prop where
  | directory {c} :
    Failure j ds (.directory (.error c)) (.localFailure "create" j.destination c.message)
  | refused {c} : Failure j ds (.admission .main (.error c)) (Retry.refused c)
  | listing {n c e}
    (h : j.policy.after (α := Page) j.folder n (.error c) = .inl (.error e)) :
    Failure j ds (.page (.error c)) e
  | download {i d ev e} (hd : ds[i]? = some d) (hi : ev.download? = some i)
    (h : Download.Failure j d.entry ev e) : Failure j ds ev e

/-- What the deletion of the remote folder fails with at an event. -/
inductive DeletionFailure (j : Job) : Event → CopyError → Prop where
  | refused {c} : DeletionFailure j (.admission .main (.error c)) (Retry.refused c)
  | removal {n c e}
    (h : j.policy.after (α := Unit) j.folder n (.error c) = .inl (.error e)) :
    DeletionFailure j (.removal (.error c)) e

/-- No download fails by being cancelled. -/
lemma Download.Failure.ne_cancelled {j : Job} {entry : Entry} {ev : Event} {e : CopyError}
    (h : Download.Failure j entry ev e) : e ≠ .cancelled := by
  cases h with
  | fetch h => exact (Retry.Policy.after_inl_error h).2
  | _ => exact nofun

/-- No transfer fails by being cancelled. -/
lemma Failure.ne_cancelled {j : Job} {ds : List Download} {ev : Event} {e : CopyError}
    (h : Failure j ds ev e) : e ≠ .cancelled := by
  cases h with
  | listing h => exact (Retry.Policy.after_inl_error h).2
  | download hd hi h => exact h.ne_cancelled
  | _ => exact nofun

/-- A download that has failed did so at one of its events. -/
lemma Download.History.failure {j : Job} {i : Nat} {entry : Entry} {es : List Event}
    {d : Download} {fs : List Effect} {e : CopyError} (h : History j i entry es d fs)
    (he : d.stage = .finished (.error e)) :
    ∃ ev ∈ es, ev.download? = some i ∧ Download.Failure j entry ev e := by
  induction h with
  | scheduled => cases he
  | joined hh ih => exact ih he
  | @move es d fs ev d' fs' hh hi h ih =>
    refine ⟨ev, by simp, hi, ?_⟩
    cases hh.entry_eq
    cases h with
    | refused =>
      cases he
      exact .refused
    | notFetched hs h =>
      cases he
      exact .fetch h
    | notOpened =>
      cases he
      exact .openFile
    | brokeOff =>
      cases he
      exact .read
    | notWritten =>
      cases he
      exact .write
    | notClosed =>
      cases he
      exact .close
    | _ => cases he

/-- All parts of a transfer succeeded. -/
structure Succeeded (es : List Event) (ds : List Download) : Prop where
  directory : .directory (.ok ()) ∈ es
  listings : listingsRead es = 2
  downloads : ∀ d ∈ ds, d.stage = .finished (.ok ())

/-- A part of a transfer did not succeed, for good. -/
def Spoiled (es : List Event) (ds : List Download) : Prop :=
  .directory (.ok ()) ∉ es ∨ listingsRead es < 2 ∨ ∃ d ∈ ds, ∃ e, d.stage = .finished (.error e)

/-- A transfer that is spoiled has not succeeded. -/
lemma Spoiled.not_succeeded {es : List Event} {ds : List Download} (h : Spoiled es ds) :
    ¬ Succeeded es ds := by
  rintro ⟨hd, hl, hok⟩
  rcases h with h | h | ⟨d, hmem, e, he⟩
  · exact h hd
  · omega
  · rw [hok d hmem] at he
    cases he

/-- The answers about the remote folder that go with what became of it. -/
def CleanedUp (j : Job) (es : List Event) : Cleanup → Prop
  | .notRequested => j.deleteAfter = false ∧ .removal (.ok ()) ∉ es
  | .deleted => j.deleteAfter ∧ .removal (.ok ()) ∈ es
  | .failed m => j.deleteAfter ∧ .removal (.ok ()) ∉ es ∧
      ∃ ev ∈ es, ∃ e, DeletionFailure j ev e ∧ m = e.statusMessage

/-- What has happened in a transfer that comes to a terminal record. -/
def Reason (j : Job) (es : List Event) (ds : List Download) : Status → Prop
  | .progress _ => True
  | .completed c => Succeeded es ds ∧ CleanedUp j es c
  | .failed e => Spoiled es ds ∧ ∃ ev ∈ es, Failure j ds ev e

/-- What has happened when the main loop stands at a stage where the transfer is over. -/
def Settled (j : Job) (es : List Event) (s : State) : Stage → Prop
  | .sending r .stop => Reason j es s.downloads r
  | .ended => ∀ r ∈ s.sent, Reason j es s.downloads r
  | _ => True

/-! ## What stays when a transfer is over -/

/-- Only downloads that still run go on, and none is scheduled. -/
structure Quiet (ds ds' : List Download) : Prop where
  length : ds'.length = ds.length
  kept : ∀ (i : Nat) (d : Download), ds[i]? = some d →
    ∃ d' : Download, ds'[i]? = some d' ∧ d'.entry = d.entry ∧
      ∀ r, d.stage = .finished r → d'.stage = .finished r

/-- Nothing happens to downloads that stay as they are. -/
lemma Quiet.rfl {ds : List Download} : Quiet ds ds :=
  ⟨Eq.refl _, fun _ d hd => ⟨d, hd, Eq.refl _, fun _ hr => hr⟩⟩

/-- A download that goes on was running. -/
lemma Quiet.of_move {j : Job} {e : Event} {ds : List Download} {i : Nat} {d d' : Download}
    {fs : List Effect} (hd : ds[i]? = some d) (hm : Download.Move j d e d' fs) :
    Quiet ds (ds.set i d') := by
  refine ⟨List.length_set, ?_⟩
  intro k d₁ hd₁
  rcases eq_or_ne i k with heq | hne
  · cases heq
    rw [hd] at hd₁
    cases hd₁
    refine ⟨d', List.getElem?_set_self (List.getElem?_eq_some_iff.1 hd).1, hm.entry_eq, ?_⟩
    intro r hr
    have hrun := hm.isRunning
    rw [Download.isRunning, hr] at hrun
    cases hrun
  · exact ⟨d₁, (List.getElem?_set_ne hne).trans hd₁, Eq.refl _, fun _ hr => hr⟩

section Later

variable {j : Job} {es : List Event} {ds ds' : List Download} {e : Event}

/-- A transfer that has succeeded has done so whatever happens later. -/
lemma Succeeded.quiet (h : Succeeded es ds) (he : e.advances = false) (hq : Quiet ds ds') :
    Succeeded (es ++ [e]) ds' := by
  refine ⟨List.mem_append_left _ h.directory, ?_, ?_⟩
  · rw [listingsRead_of_not_advances es he, h.listings]
  · intro d' hmem
    obtain ⟨i, hi, rfl⟩ := List.mem_iff_getElem.1 hmem
    have hd := List.getElem?_eq_getElem (hq.length ▸ hi)
    obtain ⟨d', hd', -, hs⟩ := hq.kept i _ hd
    rw [List.getElem?_eq_getElem hi] at hd'
    cases hd'
    exact hs _ (h.downloads _ (List.mem_of_getElem? hd))

/-- A transfer that is spoiled stays so. -/
lemma Spoiled.quiet (h : Spoiled es ds) (he : e.advances = false) (hq : Quiet ds ds') :
    Spoiled (es ++ [e]) ds' := by
  rcases h with h | h | ⟨d, hmem, err, hr⟩
  · exact .inl ((mem_snoc_of_not_advances he rfl).not.2 h)
  · exact .inr (.inl (by rwa [listingsRead_of_not_advances es he]))
  · obtain ⟨i, hi, rfl⟩ := List.mem_iff_getElem.1 hmem
    obtain ⟨d', hd', -, hs⟩ := hq.kept i _ (List.getElem?_eq_getElem hi)
    exact .inr (.inr ⟨d', List.mem_of_getElem? hd', err, hs _ hr⟩)

/-- What became of the remote folder does not change later. -/
lemma CleanedUp.quiet {c : Cleanup} (h : CleanedUp j es c) (he : e.advances = false) :
    CleanedUp j (es ++ [e]) c := by
  cases c with
  | notRequested => exact ⟨h.1, (mem_snoc_of_not_advances he rfl).not.2 h.2⟩
  | deleted => exact ⟨h.1, List.mem_append_left _ h.2⟩
  | failed m =>
    obtain ⟨ha, hr, ev, hmem, h⟩ := h
    exact ⟨ha, (mem_snoc_of_not_advances he rfl).not.2 hr, ev, List.mem_append_left _ hmem, h⟩

/-- A failure stays one of the transfer. -/
lemma Failure.quiet {ev : Event} {err : CopyError} (h : Failure j ds ev err)
    (hq : Quiet ds ds') : Failure j ds' ev err := by
  cases h with
  | directory => exact .directory
  | refused => exact .refused
  | listing h => exact .listing h
  | download hd hi h =>
    obtain ⟨d', hd', hentry, -⟩ := hq.kept _ _ hd
    exact .download hd' hi (hentry ▸ h)

/-- The reason of a terminal record does not change later. -/
lemma Reason.quiet {r : Status} (h : Reason j es ds r) (he : e.advances = false)
    (hq : Quiet ds ds') : Reason j (es ++ [e]) ds' r := by
  cases r with
  | progress u => trivial
  | completed c => exact ⟨h.1.quiet he hq, h.2.quiet he⟩
  | failed err =>
    obtain ⟨hsp, ev, hmem, hf⟩ := h
    exact ⟨hsp.quiet he hq, ev, List.mem_append_left _ hmem, hf.quiet hq⟩

/-- A record that tells of progress needs no reason. -/
lemma Reason.of_progress {r : Status} (h : r.isTerminal = false) : Reason j es ds r := by
  cases r with
  | progress u => trivial
  | completed | failed => cases h

end Later

/-! ## What a turn comes to -/

section Steps

variable {j : Job} {es : List Event} {s s' : State} {e : Event}

/-- A record that waits for the channel is a terminal one at the end only. -/
lemma State.Told.waiting {r : Status} {next : Next} (h : s.Told j es (.sending r next))
    (hn : next ≠ .stop) : r.isTerminal = false := by
  cases next with
  | begin_ =>
    rw [h.2]
    rfl
  | loop =>
    have hmem : r ∈ s.loopRecords := by
      rw [← (show s.sent ++ [r] = s.loopRecords from h)]
      simp
    exact State.isTerminal_eq_false (List.mem_append_left _ hmem)
  | cleanUp =>
    have hmem : r ∈ s.settling := by simp [h.2]
    exact State.isTerminal_eq_false (List.mem_append_right _ hmem)
  | stop => exact absurd rfl hn

/-- The second listing has not come to its end while the main loop asks for pages. -/
lemma Course.listing {k : Task} {r : Retry.Stage} (h : Course j es s (k.stage r))
    (hk : k.lists) (hst : s.Standing (k.stage r)) : listingsRead es < 2 := by
  cases k with
  | counting c t =>
    have hl : listingsRead es = 0 := h.2.1
    omega
  | paging =>
    have hl : listingsRead es = if s.cursor.isFinished then 2 else 1 := h.2.1
    rw [hst.2.2] at hl
    simp only [Bool.false_eq_true, if_false] at hl
    omega
  | cleaning => cases hk

/-- What has happened in a listing that ends the transfer. -/
lemma Settled.of_listing {k : Task} {r : Retry.Stage} {err : CopyError}
    (h : Course j es s (k.stage r)) (hk : k.lists) (hst : s.Standing (k.stage r))
    (he : e.advances = false) (hf : Failure j s.downloads e err) :
    Settled j (es ++ [e]) (s.fail err) (s.fail err).stage := by
  refine ⟨.inr (.inl ?_), e, by simp, hf⟩
  rw [listingsRead_of_not_advances es he]
  exact h.listing hk hst

/-- What has happened in a deletion that ends the transfer. -/
lemma Settled.of_cleaning {r : Retry.Stage} {c : Cleanup}
    (h : Course j es s (.cleaning r)) (hd : s.Drained) (he : e.endsListing = false)
    (hc : CleanedUp j (es ++ [e]) c) :
    Settled j (es ++ [e]) (s.complete c) (s.complete c).stage := by
  obtain ⟨hdir, hl, -, -⟩ := h
  refine ⟨⟨List.mem_append_left _ hdir, ?_, hd.copied⟩, hc⟩
  rw [listingsRead_snoc, he, hl]
  rfl

/-- What has happened in a transfer that sees to the remote folder. -/
lemma Settled.cleanUp (h : Course j es s .looping) (hc : s.cursor.isFinished)
    (hd : s.Drained) : Settled j es (s.cleanUp j) (s.cleanUp j).stage := by
  obtain ⟨hdir, hl, hr⟩ := h
  rw [if_pos hc] at hl
  unfold State.cleanUp
  split
  case isTrue => trivial
  case isFalse ha => exact ⟨⟨hdir, hl, hd.copied⟩, by simpa using ha, hr⟩

/-- With all downloads drained, settling the counters settles what has happened. -/
lemma Settled.settle (h : Course j es s .looping) (hc : s.cursor.isFinished)
    (hd : s.Drained) : Settled j es (s.settle j) (s.settle j).stage := by
  unfold State.settle
  split
  · trivial
  · exact .cleanUp h hc hd

/-- A transfer that hands out entries is not over. -/
lemma Settled.supply (entries : List Entry) :
    Settled j es (s.supply entries) (s.supply entries).stage := by
  cases entries with
  | cons e rest => trivial
  | nil =>
    rw [State.supply]
    split <;> trivial

/-- A transfer that has counted a page is not over. -/
lemma Settled.countPage (t : Totals) (p : Page) :
    Settled j es (s.countPage t p) (s.countPage t p).stage := by
  unfold State.countPage
  split <;> trivial

/-- A transfer that has a task before it is not over. -/
lemma Settled.task (k : Task) (r : Retry.Stage) : Settled j es s (k.stage r) := by
  cases k <;> trivial

/-- What has happened in a transfer that goes on after a record. -/
lemma Settled.resume {r : Status} {next : Next} {channel : List Status}
    (h : Settled j es s (.sending r next)) (hc : Course j es s (.sending r next)) (hs : s.Sound)
    (hst : s.Standing (.sending r next)) (ht : s.Told j es (.sending r next)) :
    Settled j es (({ s with channel, sent := s.sent ++ [r] } : State).resume j next)
      (({ s with channel, sent := s.sent ++ [r] } : State).resume j next).stage := by
  -- Only the record that was waiting can be a terminal one.
  have hend (hr : Reason j es s.downloads r) :
      ∀ r' ∈ s.sent ++ [r], Reason j es s.downloads r' := by
    intro r' hr'
    rcases List.mem_append.1 hr' with hr' | hr'
    · exact .of_progress (ht.progress hst (by simp) hr')
    · cases List.mem_singleton.1 hr'
      exact hr
  cases next with
  | begin_ =>
    show Settled j es _ (if j.slots ≤ slotLimit then .looping else .ended)
    split
    · trivial
    · exact hend (.of_progress (ht.waiting nofun))
  | loop => trivial
  | cleanUp =>
    have hdr : s.Drained := hst
    exact .cleanUp hc (hs.exhausted hdr.exhausted).1 hdr.kept
  | stop => exact hend h

/-- What has happened stays what it is where nothing goes on but what still runs. -/
lemma Settled.quiet {st : Stage} (h : Settled j es s st) (he : e.advances = false)
    (hq : Quiet s.downloads s'.downloads) (hsent : s'.sent = s.sent) :
    Settled j (es ++ [e]) s' st := by
  unfold Settled at h ⊢
  split at h
  · exact h.quiet he hq
  · rw [hsent]
    exact fun r hr => (h r hr).quiet he hq
  · trivial

/-- A turn keeps what has happened. -/
lemma Settled.turn {disk : Disk} (h : Settled j es s s.stage) (hr : Run j disk es s)
    (ht : Turn j s e s') : Settled j (es ++ [e]) s' s'.stage := by
  have hs := hr.sound
  have hst := hs.standing
  have hc := hr.course
  have htold := hr.told
  -- A transfer that is cut short has told of progress only, which needs no reason.
  have hcut (hne : s.stage ≠ .ended) : ∀ r ∈ s.sent, Reason j (es ++ [e]) s.downloads r :=
    fun r hmem => .of_progress (htold.progress hst hne hmem)
  cases ht with
  | created | deletedAgain | folded => trivial
  | granted | started | listedAgain => exact .task _ _
  | counted => exact .countPage _ _
  | supplied | acquired => exact .supply _
  | notCreated hl =>
    rw [hl] at hc
    exact ⟨.inl (by simpa using hc.1), _, by simp, .directory⟩
  | refused hl hk =>
    rw [hl] at hc hst
    exact .of_listing hc hk hst rfl .refused
  | notListed hl hk he =>
    rw [hl] at hc hst
    exact .of_listing hc hk hst rfl (.listing he)
  | deletionRefused hl =>
    rw [hl] at hc hst
    exact .of_cleaning hc hst rfl
      ⟨hc.2.2.2, by simpa using hc.2.2.1, _, by simp, _, .refused, rfl⟩
  | deleted hl =>
    rw [hl] at hc hst
    exact .of_cleaning hc hst rfl ⟨hc.2.2.2, by simp⟩
  | notDeleted hl he =>
    rw [hl] at hc hst
    exact .of_cleaning hc hst rfl
      ⟨hc.2.2.2, by simpa using hc.2.2.1, _, by simp, _, .removal he, rfl⟩
  | joined hl =>
    show Settled j _ _ s.stage
    rw [hl]
    trivial
  | @failed i d err hl hd hj hf =>
    -- The error that the main loop takes arose at an event of the download itself.
    obtain ⟨fs, hrec⟩ := hr.chronicle.recorded i d hd
    obtain ⟨ev, hev, hi, hfail⟩ := hrec.history.failure hf
    have hd' := List.getElem?_set_self (a := { d with joined := true })
      (List.getElem?_eq_some_iff.1 hd).1
    refine ⟨.inr (.inr ⟨_, List.mem_of_getElem? hd', err, hf⟩), ev, ?_, .download hd' hi hfail⟩
    exact List.mem_append_left _ ((mem_eventsOf hi).1 hev)
  | drained hl hd =>
    rw [hl] at hc
    have hdr := hs.drained hl hd
    exact .settle (hc.quiet rfl rfl) (hs.exhausted hdr.exhausted).1 hdr
  | sent hl =>
    rw [hl] at h hc hst htold
    exact .resume (h.quiet rfl .rfl rfl) (hc.quiet rfl rfl) hs hst
      (htold.congr (listingsRead_of_not_advances es rfl) id rfl rfl rfl id)
  | unheard hl => exact hcut (by simp [hl])
  | took | hungUp => exact h.quiet rfl .rfl rfl
  | cancelled hl ho =>
    apply hcut
    intro hend
    rw [hend] at ho
    cases ho

end Steps

/-- Every terminal record that is told has its reason. -/
theorem Run.reason {j : Job} {disk : Disk} {es : List Event} {s : State} (h : Run j disk es s)
    {r : Status} (hr : r ∈ s.sent) : Reason j es s.downloads r := by
  have hset : Settled j es s s.stage := by
    clear hr
    induction h with
    | start => trivial
    | step hr h ih =>
      cases h with
      | turn ht => exact ih.turn hr ht
      | move hi hd hp hm => exact ih.quiet (Event.not_advances hi) (.of_move hd hm) rfl
  by_cases hend : s.stage = .ended
  · rw [hend] at hset
    exact hset r hr
  · exact .of_progress (h.told.progress h.sound.standing hend hr)

end FolderCopy.Transfer
