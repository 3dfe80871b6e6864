import FolderCopy.Proofs.Transfer.Termination
import FolderCopy.Proofs.Transfer.World

/-!
# Surplus slots

With more slots than entries one is free whenever the main loop looks for one, so it makes no
difference how many more there are: a transfer goes through the same states, event for event, as
with one slot more than entries. This holds as far as the slots can be kept count of. Beyond, the
main loop never begins, and the consumer is told the baseline and nothing else. Main statement:
`surplus_harmless_iff`.
-/

namespace FolderCopy.Transfer

/-! ## More free slots -/

/-- How many downloads may run is nothing to one of them. -/
lemma Download.step_concurrency (j : Job) (n : Nat) (d : Download) (e : Event) :
    d.step { j with concurrency := n } e = d.step j e := by
  cases e <;> rfl

namespace State

/-- A state with more free slots. -/
def addFree (s : State) (k : Nat) : State :=
  { s with free := s.free + k }

variable (s : State) (j : Job) (k n : Nat)

/-- More free slots leave the stage. -/
@[simp]
lemma stage_addFree : (s.addFree k).stage = s.stage := rfl

/-- More free slots leave the downloads. -/
@[simp]
lemma downloads_addFree : (s.addFree k).downloads = s.downloads := rfl

/-- More free slots leave the progress. -/
@[simp]
lemma progress_addFree : (s.addFree k).progress = s.progress := rfl

/-- More free slots leave whether anybody listens. -/
@[simp]
lemma listening_addFree : (s.addFree k).listening = s.listening := rfl

/-- More free slots leave the channel. -/
@[simp]
lemma channel_addFree : (s.addFree k).channel = s.channel := rfl

/-- More free slots leave the deltas. -/
@[simp]
lemma deltas_addFree : (s.addFree k).deltas = s.deltas := rfl

/-- More free slots leave how many deltas were folded. -/
@[simp]
lemma folded_addFree : (s.addFree k).folded = s.folded := rfl

/-- An admission is taken alike with more free slots. -/
lemma takeAdmission_addFree (r : Except CallError Unit) :
    (s.addFree k).takeAdmission r = (s.takeAdmission r).map (·.addFree k) := by
  unfold takeAdmission
  rw [stage_addFree]
  split <;> rfl

/-- A call is started alike with more free slots. -/
lemma startCall_addFree :
    (s.addFree k).startCall { j with concurrency := n } = (s.startCall j).map (·.addFree k) := by
  rw [startCall, startCall, stage_addFree]
  split <;> rfl

/-- A page is counted alike with more free slots. -/
lemma countPage_addFree (t : Totals) (p : Page) :
    (s.addFree k).countPage t p = (s.countPage t p).addFree k := by
  rw [countPage, countPage]
  split <;> rfl

/-- A slot in hand is given to the same entry, or back. -/
lemma supply_addFree (entries : List Entry) :
    (s.addFree k).supply entries = (s.supply entries).addFree k := by
  cases entries with
  | cons e rest => rfl
  | nil => cases hc : s.cursor.isFinished <;> simp [supply, addFree, hc, Nat.add_right_comm]

/-- A page is taken alike with more free slots. -/
lemma takePage_addFree (r : Except CallError Page) :
    (s.addFree k).takePage { j with concurrency := n } r = (s.takePage j r).map (·.addFree k) := by
  rw [takePage, takePage, stage_addFree]
  split
  case h_1 c t a hs =>
    dsimp only
    split
    · simp only [countPage_addFree, Option.map_some]
    · rfl
    · rfl
  case h_2 a hs =>
    dsimp only
    split
    · exact congrArg some (supply_addFree { s with cursor := _, listed := _ } k _)
    · rfl
    · rfl
  case h_3 => rfl

/-- The answer to a deletion is taken alike with more free slots. -/
lemma takeRemoval_addFree (r : Except CallError Unit) :
    (s.addFree k).takeRemoval { j with concurrency := n } r =
      (s.takeRemoval j r).map (·.addFree k) := by
  rw [takeRemoval, takeRemoval, stage_addFree]
  split
  · dsimp only
    split <;> rfl
  · rfl

/-- A download is joined alike with more free slots. -/
lemma join_addFree (i : Nat) : (s.addFree k).join i = (s.join i).map (·.addFree k) := by
  rw [join, join, stage_addFree, downloads_addFree]
  split
  · dsimp only
    split
    · split
      · rfl
      · split <;> rfl
    · rfl
  · rfl

/-- Where a slot is free one is taken, however many more there are. -/
lemma acquire_addFree (hf : s.stage = .looping → s.free ≠ 0) :
    (s.addFree k).acquire = s.acquire.map (·.addFree k) := by
  rw [acquire, acquire, stage_addFree]
  split
  case h_1 hs =>
    have hf := hf hs
    have hfree : s.free + k ≠ 0 := by omega
    have hless : s.free + k - 1 = s.free - 1 + k := by omega
    have htaken : ({ s with free := s.free + k - 1 } : State).supply s.page =
        (({ s with free := s.free - 1 } : State).supply s.page).addFree k := by
      rw [hless, ← supply_addFree]
      rfl
    show (if s.exhausted || decide (s.free + k = 0) then none
      else some (({ s with free := s.free + k - 1 } : State).supply s.page)) = _
    rw [htaken, decide_eq_false hf, decide_eq_false hfree]
    split <;> rfl
  case h_2 => rfl

/-- A delta is folded alike with more free slots. -/
lemma fold_addFree : (s.addFree k).fold = s.fold.map (·.addFree k) := by
  unfold fold
  rw [stage_addFree, deltas_addFree, folded_addFree]
  split <;> rfl

/-- Cleaning up begins alike with more free slots. -/
lemma cleanUp_addFree :
    (s.addFree k).cleanUp { j with concurrency := n } = (s.cleanUp j).addFree k := by
  unfold cleanUp
  split <;> rfl

/-- The counters are settled alike with more free slots. -/
lemma settle_addFree :
    (s.addFree k).settle { j with concurrency := n } = (s.settle j).addFree k := by
  rw [settle, settle, progress_addFree]
  split
  · rfl
  · exact s.cleanUp_addFree j k n

/-- A finished loop is left alike with more free slots. -/
lemma drain_addFree :
    (s.addFree k).drain { j with concurrency := n } = (s.drain j).map (·.addFree k) := by
  have hd : (s.addFree k).isDrained = s.isDrained := rfl
  rw [drain, drain, stage_addFree, hd, settle_addFree]
  split
  · split <;> rfl
  · rfl

/-- The loop begins with more slots where it begins at all. -/
lemma resume_addFree (hn : max 1 n ≤ slotLimit ↔ j.slots ≤ slotLimit) (next : Next) :
    (s.addFree k).resume { j with concurrency := n } next = (s.resume j next).addFree k := by
  cases next with
  | begin_ =>
    have hslots : Job.slots { j with concurrency := n } ≤ slotLimit ↔ j.slots ≤ slotLimit := hn
    simp only [resume, hslots]
    rfl
  | cleanUp => exact s.cleanUp_addFree j k n
  | loop | stop => rfl

/-- A record is sent alike with more free slots, if both numbers of slots can be kept count of. -/
lemma send_addFree (hn : max 1 n ≤ slotLimit ↔ j.slots ≤ slotLimit) :
    (s.addFree k).send { j with concurrency := n } = (s.send j).map (·.addFree k) := by
  rw [send, send, stage_addFree, listening_addFree, channel_addFree]
  split
  case h_1 r next hs =>
    split
    · rfl
    · split
      · exact congrArg some (resume_addFree
          { s with channel := s.channel ++ [r], sent := s.sent ++ [r] } j k n hn next)
      · rfl
  case h_2 => rfl

/-- A record is taken out of the channel alike with more free slots. -/
lemma take_addFree : (s.addFree k).take = s.take.map (·.addFree k) := by
  rw [take, take, channel_addFree]
  split <;> rfl

/-- The consumer hangs up alike with more free slots. -/
lemma hangUp_addFree : (s.addFree k).hangUp = s.hangUp.map (·.addFree k) := by
  rw [hangUp, hangUp, listening_addFree]
  split <;> rfl

/-- Downloads are cancelled alike with more free slots. -/
lemma cancel_addFree : (s.addFree k).cancel = s.cancel.map (·.addFree k) := by
  rw [cancel, cancel, listening_addFree, stage_addFree]
  split <;> rfl

/-- A download advances alike with more free slots. -/
lemma advance_addFree (i : Nat) (d : Download) (fs : List Effect) :
    (s.addFree k).advance { j with concurrency := n } i d fs = (s.advance j i d fs).addFree k := by
  cases hd : d.isRunning <;>
    simp [advance, setDownload, addFree, hd, Nat.add_right_comm, Job.target]

/-- A download goes on as it does with fewer slots. -/
lemma download_addFree (i : Nat) (e : Event) :
    (s.addFree k).download { j with concurrency := n } i e =
      (s.download j i e).map (·.addFree k) := by
  have hp : (s.addFree k).permits e = s.permits e := rfl
  rw [download, download, downloads_addFree, hp]
  split
  · rfl
  · split
    · rw [Download.step_concurrency]
      cases Download.step j _ e with
      | none => rfl
      | some r => exact congrArg some (s.advance_addFree j k n i r.1 r.2)
    · rfl

end State

/-- A step with more slots is the step with fewer, as long as the loop finds a free one. -/
lemma step_addFree {j : Job} {s : State} {k n : Nat}
    (hn : max 1 n ≤ slotLimit ↔ j.slots ≤ slotLimit) (hf : s.stage = .looping → s.free ≠ 0)
    (e : Event) :
    step { j with concurrency := n } (s.addFree k) e = (step j s e).map (·.addFree k) := by
  cases e with
  | directory r =>
    unfold step
    dsimp only
    rw [State.stage_addFree]
    split <;> rfl
  | admission a r =>
    cases a with
    | main => exact s.takeAdmission_addFree k r
    | download i => exact s.download_addFree j k n i _
  | start a =>
    cases a with
    | main => exact s.startCall_addFree j k n
    | download i => exact s.download_addFree j k n i _
  | page r => exact s.takePage_addFree j k n r
  | removal r => exact s.takeRemoval_addFree j k n r
  | join i => exact s.join_addFree k i
  | acquire => exact s.acquire_addFree k hf
  | fold => exact s.fold_addFree k
  | drain => exact s.drain_addFree j k n
  | send => exact s.send_addFree j k n hn
  | take => exact s.take_addFree k
  | hangUp => exact s.hangUp_addFree k
  | cancel => exact s.cancel_addFree k
  | stream i | opened i | read i | stored i | written i | closed i | abandon i =>
    exact s.download_addFree j k n i _

/-- With more slots than entries one is free whenever the loop looks for something to do. -/
lemma Run.free_ne_zero {j : Job} {disk : Disk} {es : List Event} {s : State}
    (h : Run j disk es s) (hF : (entriesListed es).length < j.slots) (hs : s.stage = .looping) :
    s.free ≠ 0 := by
  have hslots := h.slots.2 (by rw [hs]; rfl)
  have hrunning : s.running ≤ (entriesListed es).length :=
    Nat.le_trans List.countP_le_length h.length_downloads_le
  rw [State.slots, hs] at hslots
  have hslots : s.free + s.running + 0 = j.slots := hslots
  omega

/-- A run with one more event is the run and then the event. -/
lemma run_snoc (j : Job) (s : State) (es : List Event) (e : Event) :
    run j s (es ++ [e]) = (run j s es).bind fun s' => step j s' e := by
  rw [run, List.foldlM_append]
  exact bind_congr fun s' => bind_pure (step j s' e)

/-- A run with more slots is the run with fewer, event for event, where these are already more than
there are entries. -/
theorem run_addFree {j : Job} {disk : Disk} {n : Nat} (hle : j.slots ≤ n)
    (hn : n ≤ slotLimit ∨ slotLimit < j.slots) {es : List Event}
    (hF : (entriesListed es).length < j.slots) :
    run { j with concurrency := n } (.start { j with concurrency := n } disk) es =
      (run j (.start j disk) es).map (·.addFree (n - j.slots)) := by
  have hpos : 1 ≤ j.slots := Nat.le_max_left _ _
  have hmax : max 1 n = n := Nat.max_eq_right (Nat.le_trans hpos hle)
  induction es using List.reverseRecOn with
  | nil =>
    show some _ = some _
    congr 1
    show ({ State.start j disk with free := max 1 n } : State) =
      { State.start j disk with free := j.slots + (n - j.slots) }
    rw [hmax, Nat.add_sub_cancel' hle]
  | append_singleton es e ih =>
    have hmono := (entriesListed_mono (pagesRead_grow es e)).length_le
    have ih := ih (Nat.lt_of_le_of_lt hmono hF)
    rw [run_snoc, run_snoc, ih]
    cases hr : run j (.start j disk) es with
    | none => rfl
    | some s =>
      have hfree := (Run.of_run hr).free_ne_zero (Nat.lt_of_le_of_lt hmono hF)
      exact step_addFree (by omega) hfree e

/-! ## More slots than can be kept count of -/

/-- Where a transfer stands whose slots cannot be kept count of: its loop never begins, so either it
fails before the files are counted or it tells the baseline at most. -/
def Unbegun (es : List Event) (s : State) : Stage → Prop
  | .creating | .counting .. | .sending _ .begin_ => True
  | .sending _ .stop => listingsRead es = 0
  | .ended => listingsRead es = 0 ∨ s.sent.length ≤ 1
  | _ => False

section Steps

variable {j : Job} {es : List Event} {s s' : State} {e : Event}

/-- What is said of a transfer that has not begun its loop stays so where nothing is sent and no
listing ends. -/
lemma Unbegun.quiet {st : Stage} (h : Unbegun es s st) (he : e.advances = false)
    (hs : s'.sent = s.sent) : Unbegun (es ++ [e]) s' st := by
  unfold Unbegun at h ⊢
  rw [listingsRead_of_not_advances es he, hs]
  exact h

/-- Nothing has been told before the loop as long as the transfer is not over. -/
lemma Unbegun.sent_eq_nil {st : Stage} (h : Unbegun es s st) (ht : s.Told j es st)
    (ho : st.isOver = false) : s.sent = [] := by
  cases st with
  | creating | counting => exact ht
  | sending r next =>
    cases next with
    | begin_ => exact ht.1
    | loop | cleanUp => exact h.elim
    | stop => cases ho
  | looping | paging | cleaning => exact h.elim
  | ended => cases ho

/-- A transfer that has counted a page has not begun its loop. -/
lemma Unbegun.countPage (es : List Event) (s : State) (t : Totals) (p : Page) :
    Unbegun es (s.countPage t p) (s.countPage t p).stage := by
  unfold State.countPage
  split <;> trivial

/-- A turn does not begin the loop. -/
lemma Unbegun.turn (h : Unbegun es s s.stage) (hj : slotLimit < j.slots)
    (hc : Course j es s s.stage) (ht : s.Told j es s.stage) (hturn : Turn j s e s') :
    Unbegun (es ++ [e]) s' s'.stage := by
  cases hturn with
  | created => trivial
  | notCreated hs =>
    rw [hs] at hc
    exact (listingsRead_of_not_advances es rfl).trans hc.2.1
  | @granted k n hs | @started k n hs | @listedAgain k n c hs =>
    rw [hs] at h
    cases k with
    | counting => trivial
    | paging | cleaning => exact h.elim
  | @refused k n c hs | @notListed k n c err hs =>
    rw [hs] at h hc
    cases k with
    | counting => exact (listingsRead_of_not_advances es rfl).trans hc.2.1
    | paging | cleaning => exact h.elim
  | counted => exact .countPage _ _ _ _
  | @sent r next hs =>
    rw [hs] at h ht
    cases next with
    | begin_ =>
      -- This is where the loop would begin.
      show Unbegun _ _ (if j.slots ≤ slotLimit then .looping else .ended)
      rw [if_neg (Nat.not_le.2 hj)]
      refine .inr ?_
      show (s.sent ++ [_]).length ≤ 1
      rw [ht.1]
      exact Nat.le_refl _
    | stop => exact .inl ((listingsRead_of_not_advances es rfl).trans h)
    | loop | cleanUp => exact h.elim
  | @unheard r next hs =>
    cases ho : s.stage.isOver with
    | false => exact .inr (by rw [h.sent_eq_nil ht ho]; exact Nat.zero_le _)
    | true =>
      rw [hs] at h ho
      cases next with
      | stop => exact .inl ((listingsRead_of_not_advances es rfl).trans h)
      | begin_ | loop | cleanUp => cases ho
  | cancelled hl ho => exact .inr (by rw [h.sent_eq_nil ht ho]; exact Nat.zero_le _)
  | took | hungUp => exact h.quiet rfl rfl
  | deletionRefused hs | supplied hs | deleted hs | notDeleted hs | deletedAgain hs | joined hs
  | failed hs | acquired hs | folded hs | drained hs =>
    rw [hs] at h
    exact h.elim

/-- Without the loop no download is scheduled. -/
lemma Unbegun.downloads_eq_nil (h : Unbegun es s s.stage) (hturn : Turn j s e s')
    (hd : s.downloads = []) : s'.downloads = [] := by
  cases hturn with
  | counted =>
    rw [State.countPage_eq]
    exact hd
  | sent =>
    rw [State.resume_eq]
    exact hd
  | supplied hs | joined hs | failed hs | acquired hs | drained hs =>
    rw [hs] at h
    exact h.elim
  | _ => exact hd

end Steps

section Runs

variable {j : Job} {disk : Disk} {es : List Event} {s : State}

/-- A transfer whose slots cannot be kept count of never begins its loop. -/
lemma Run.unbegun (h : Run j disk es s) (hj : slotLimit < j.slots) :
    s.downloads = [] ∧ Unbegun es s s.stage := by
  induction h with
  | start => exact ⟨rfl, trivial⟩
  | step hr h ih =>
    obtain ⟨hd, hu⟩ := ih
    cases h with
    | turn ht => exact ⟨hu.downloads_eq_nil ht hd, hu.turn hj hr.course hr.told ht⟩
    | move hi hdi hp hm =>
      rw [hd] at hdi
      cases hdi

/-- When the files have been counted it tells the baseline and nothing else. -/
lemma Run.sent_of_unbegun (h : Run j disk es s) (hj : slotLimit < j.slots)
    (hl : listingsRead es ≠ 0) : s.sent <+: [.ofSnapshot (.ofTotals (totalsCounted es))] := by
  have hu := (h.unbegun hj).2
  have hone : s.sent.length ≤ 1 := by
    cases ho : s.stage.isOver with
    | false =>
      rw [hu.sent_eq_nil h.told ho]
      exact Nat.zero_le _
    | true =>
      generalize s.stage = st at hu ho
      cases st with
      | ended => exact hu.resolve_left hl
      | sending r next =>
        cases next with
        | stop => exact absurd hu hl
        | begin_ | loop | cleanUp => cases ho
      | _ => cases ho
  cases hs : s.sent with
  | nil => exact List.nil_prefix
  | cons r rest =>
    rw [hs] at hone
    have hrest : rest = [] :=
      List.length_eq_zero_iff.1 (Nat.le_zero.1 (Nat.le_of_succ_le_succ hone))
    have hbaseline := h.head?_sent hl (by rw [hs]; rfl)
    rw [hrest, hbaseline, totalsCounted, ← h.listed.1]
    exact List.prefix_rfl

end Runs

/-! ## What is seen of a transfer -/

/-- What can be seen of a transfer: its calls, the records that its consumer has taken, and the
local files. -/
structure Sight where
  calls : List Call
  received : List Status
  disk : Disk

/-- What can be seen of a transfer in a state. -/
def State.sight (s : State) : Sight :=
  ⟨s.calls, s.received, s.disk⟩

/-- What can be seen in the runs of a job as long as its second listing has given no more entries
than a number. -/
def sights (j : Job) (disk : Disk) (entries : Nat) : Set Sight :=
  {o | ∃ es s, (entriesListed es).length ≤ entries ∧ run j (.start j disk) es = some s ∧
    s.sight = o}

/-- The events of a transfer of an empty folder up to where the baseline has been taken. -/
def baselineEvents : List Event :=
  [.directory (.ok ()), .admission .main (.ok ()), .start .main, .page (.ok ⟨[], none⟩), .send,
    .take]

/-- Further events, in which the listing is refused. -/
def refusalEvents : List Event :=
  [.acquire, .admission .main (.error (.unavailable "limiter")), .send, .take]

/-- Whether the loop begins after the baseline hangs on the number of slots alone. -/
lemma run_baseline (j : Job) (disk : Disk) :
    ∃ s, run j (.start j disk) baselineEvents = some s ∧ s.listening ∧ s.channel = [] ∧
      s.downloads = [] ∧ s.received = [.ofSnapshot .zero] ∧
      s.stage = if j.slots ≤ slotLimit then .looping else .ended :=
  ⟨_, rfl, rfl, rfl, rfl, rfl, rfl⟩

/-- This run goes on to the refusal with any number of slots that can be kept count of. -/
lemma run_refusal {j : Job} (disk : Disk) (hpos : 1 ≤ j.concurrency)
    (hj : j.concurrency ≤ slotLimit) :
    ∃ s, run j (.start j disk) (baselineEvents ++ refusalEvents) = some s ∧
      s.received = [.ofSnapshot .zero, .failed (Retry.refused (.unavailable "limiter"))] := by
  -- One slot is enough, since there is no entry.
  have hone : ∃ s, run { j with concurrency := 1 } (.start { j with concurrency := 1 } disk)
      (baselineEvents ++ refusalEvents) = some s ∧
      s.received = [.ofSnapshot .zero, .failed (Retry.refused (.unavailable "limiter"))] :=
    ⟨_, rfl, rfl⟩
  obtain ⟨s, hs, hr⟩ := hone
  have hmore : run j (.start j disk) (baselineEvents ++ refusalEvents) = _ :=
    run_addFree (j := { j with concurrency := 1 }) (n := j.concurrency) hpos (.inl hj)
      (Nat.le_refl 1)
  rw [hs] at hmore
  exact ⟨_, hmore, hr⟩

/-- A consumer that listens until nothing can happen any more, although nothing is held back, has
been given one terminal record, after all others. -/
lemma Run.received_of_stuck {j : Job} {disk : Disk} {es : List Event} {s : State}
    (h : Run j disk es s) (hj : j.slots ≤ slotLimit) (hl : s.listening) {possible : Event → Prop}
    (hp : s.Served j possible) (hstuck : ∀ e, possible e → Transfer.step j s e = none) :
    ∃ ps r, s.received = ps ++ [r] ∧ (∀ p ∈ ps, p.isTerminal = false) ∧ r.isTerminal := by
  obtain ⟨r, hr, ht⟩ := h.delivered_of_stuck hj hl hp hstuck
  have hstream := h.isStream.of_prefix ((List.prefix_append _ _).trans h.delivered.order)
  obtain ⟨ps, hps, heq | ⟨r', hr', heq⟩⟩ := hstream
  · rw [heq] at hr
    rw [hps r hr] at ht
    cases ht
  · exact ⟨ps, r', heq, hps, hr'⟩

section Surplus

variable {j : Job} {disk : Disk} {F : Nat}

/-- A run with surplus slots is the run with one slot more than entries, event for event. -/
lemma run_surplus (hF : F < j.concurrency) (hc : j.concurrency ≤ slotLimit ∨ slotLimit ≤ F)
    {es : List Event} (hes : (entriesListed es).length ≤ F) :
    run j (.start j disk) es =
      (run { j with concurrency := F + 1 } (.start { j with concurrency := F + 1 } disk) es).map
        (·.addFree (j.concurrency - (F + 1))) := by
  have hslots : Job.slots { j with concurrency := F + 1 } = F + 1 :=
    Nat.max_eq_right (Nat.le_add_left 1 F)
  have h : run j (.start j disk) es = _ :=
    run_addFree (j := { j with concurrency := F + 1 }) (n := j.concurrency) (by omega) (by omega)
      (by omega)
  rwa [hslots] at h

/-- A slot beyond the number of entries shows nothing, unless it is the one that cannot be kept
count of. -/
lemma sights_surplus (hF : F < j.concurrency) (hc : j.concurrency ≤ slotLimit ∨ slotLimit ≤ F) :
    sights j disk F = sights { j with concurrency := F + 1 } disk F := by
  ext o
  constructor
  · rintro ⟨es, s, hes, hs, rfl⟩
    rw [run_surplus hF hc hes] at hs
    obtain ⟨s₀, hs₀, rfl⟩ := Option.map_eq_some_iff.1 hs
    exact ⟨es, s₀, hes, hs₀, rfl⟩
  · rintro ⟨es, s₀, hes, hs₀, rfl⟩
    refine ⟨es, s₀.addFree (j.concurrency - (F + 1)), hes, ?_, rfl⟩
    rw [run_surplus hF hc hes, hs₀]
    rfl

/-- Where the slots can be kept count of no more, no consumer is told of a failure after the
baseline. -/
lemma Run.received_of_unbegun {es : List Event} {s : State} (h : Run j disk es s)
    (hj : slotLimit < j.slots) {p r : Status} (hp : p.isTerminal = false) :
    s.received ≠ [p, r] := by
  intro hr
  have hpart := (List.prefix_append s.received s.channel).trans h.delivered.order
  by_cases hl : listingsRead es = 0
  · have hsent : p ∈ s.sent := hpart.subset (by simp [hr])
    rw [h.terminal_of_not_listed hl hsent] at hp
    cases hp
  · have hle := (hpart.trans (h.sent_of_unbegun hj hl)).length_le
    rw [hr] at hle
    exact Nat.not_succ_le_self 1 hle

/-- The slot that cannot be kept count of shows. -/
lemma sights_ne (hc : slotLimit < j.concurrency) (hF : F < slotLimit) :
    sights j disk F ≠ sights { j with concurrency := F + 1 } disk F := by
  intro heq
  obtain ⟨s₀, hs₀, hr₀⟩ := run_refusal (j := { j with concurrency := F + 1 }) disk
    (Nat.le_add_left 1 F) hF
  have hmem : s₀.sight ∈ sights { j with concurrency := F + 1 } disk F :=
    ⟨baselineEvents ++ refusalEvents, s₀, Nat.zero_le F, hs₀, rfl⟩
  rw [← heq] at hmem
  obtain ⟨es, s, -, hs, hsight⟩ := hmem
  have hreceived : s.received = s₀.received := congrArg Sight.received hsight
  exact (Run.of_run hs).received_of_unbegun (Nat.lt_of_lt_of_le hc (Nat.le_max_right 1 _)) rfl
    (hreceived.trans hr₀)

end Surplus

/-- More slots than entries are as good as one more than entries: the runs are the same, event for
event, and differ in nothing but the free slots. This ends where the slots can be kept count of no
more. From there on the loop never begins, so a consumer that listens to the end is given the
baseline and no terminal record. -/
theorem surplus_harmless_iff {j : Job} {F : Nat} (hF : F < j.concurrency) (disk : Disk) :
    (j.concurrency ≤ slotLimit ∨ slotLimit ≤ F → ∀ es, (entriesListed es).length ≤ F →
      run j (.start j disk) es =
        (run { j with concurrency := F + 1 } (.start { j with concurrency := F + 1 } disk) es).map
          (·.addFree (j.concurrency - (F + 1)))) ∧
    (sights j disk F = sights { j with concurrency := F + 1 } disk F ↔
      j.concurrency ≤ slotLimit ∨ slotLimit ≤ F) ∧
    ((∀ es s, run j (.start j disk) es = some s → s.listening →
        ∀ possible : Event → Prop, s.Served j possible →
          (∀ e, possible e → step j s e = none) →
          ∃ ps r, s.received = ps ++ [r] ∧ (∀ p ∈ ps, p.isTerminal = false) ∧ r.isTerminal) ↔
      j.concurrency ≤ slotLimit) ∧
    (slotLimit < j.concurrency → ∀ es s, run j (.start j disk) es = some s →
      s.downloads = [] ∧
        (listingsRead es ≠ 0 → s.sent <+: [.ofSnapshot (.ofTotals (totalsCounted es))])) := by
  have hslots : j.slots = j.concurrency := Nat.max_eq_right (Nat.zero_lt_of_lt hF)
  refine ⟨fun hc es hes => run_surplus hF hc hes, ⟨?_, sights_surplus hF⟩, ⟨?_, ?_⟩, ?_⟩
  · intro heq
    by_contra hno
    exact sights_ne (by omega) (by omega) heq
  · intro htold
    by_contra hlarge
    obtain ⟨s, hs, hl, hc, hd, hr, hst⟩ := run_baseline j disk
    rw [hslots, if_neg hlarge] at hst
    have hdone : s.Done := ⟨hst, hc, by rw [State.running, hd]; rfl⟩
    obtain ⟨ps, r, hps, -, ht⟩ :=
      htold _ s hs hl _ (s.served_of_ne_hangUp j) fun e he => hdone.step_eq_none he
    rw [hr] at hps
    have happ : [] ++ [.ofSnapshot .zero] = ps ++ [r] := hps
    obtain ⟨-, hlast⟩ := List.append_inj' happ rfl
    cases hlast
    cases ht
  · intro hj es s hs hl possible hp hstuck
    exact (Run.of_run hs).received_of_stuck (hslots ▸ hj) hl hp hstuck
  · intro hj es s hs
    have h := Run.of_run hs
    exact ⟨(h.unbegun (hslots ▸ hj)).1, fun hl => h.sent_of_unbegun (hslots ▸ hj) hl⟩

/-- A job that copies a folder with five downloads at a time. -/
def roomyJob : Job where
  folder := "f"
  destination := "d"
  concurrency := 5
  deleteAfter := false
  policy := .standard

/-- A run of this job with two files, up to where both of them are read. -/
def roomyRun : List Event :=
  let entries : List Entry := [⟨"a", "x", some 0⟩, ⟨"b", "y", none⟩]
  let listing : List Event :=
    [.admission .main (.ok ()), .start .main, .page (.ok ⟨entries, none⟩)]
  let fetching (i : Nat) : List Event :=
    [.admission (.download i) (.ok ()), .start (.download i), .stream i (.ok ()),
      .opened i (.ok ())]
  List.flatten
    [[.directory (.ok ())], listing, [.send, .acquire], listing, [.acquire, .acquire],
      fetching 0, fetching 1]

/-- This run is one of the same job with three downloads at a time, with two free slots less. -/
theorem surplus_harmless_iff_two_files :
    2 < roomyJob.concurrency ∧ (entriesListed roomyRun).length = 2 ∧
    (∃ s, run { roomyJob with concurrency := 3 } (.start { roomyJob with concurrency := 3 } {})
        roomyRun = some s ∧ s.free = 1 ∧ s.running = 2 ∧
      run roomyJob (.start roomyJob {}) roomyRun = some (s.addFree 2)) ∧
    sights roomyJob {} 2 = sights { roomyJob with concurrency := 3 } {} 2 := by
  have hlimit : roomyJob.concurrency ≤ slotLimit := by decide
  obtain ⟨hrun, hsights, -, -⟩ := surplus_harmless_iff (j := roomyJob) (F := 2) (by decide) {}
  have hmore := hrun (.inl hlimit) roomyRun (Nat.le_refl 2)
  obtain ⟨s, hs, hfree, hrunning⟩ : ∃ s, run { roomyJob with concurrency := 3 }
      (.start { roomyJob with concurrency := 3 } {}) roomyRun = some s ∧ s.free = 1 ∧
      s.running = 2 :=
    ⟨_, rfl, rfl, rfl⟩
  rw [hs] at hmore
  exact ⟨by decide, rfl, ⟨s, hs, hfree, hrunning, hmore⟩, hsights.2 (.inl hlimit)⟩

/-- A job that copies a folder without a limit to the downloads at a time. -/
def unlimitedJob : Job where
  folder := "f"
  destination := "/out"
  concurrency := maxCount
  deleteAfter := false
  policy := .standard

/-- The listing of a folder with one file. -/
def oneFileListing : List Event :=
  [.admission .main (.ok ()), .start .main, .page (.ok ⟨[⟨"1", "x", some 1⟩], none⟩)]

/-- A run of this job with one file, up to where the baseline has been taken. -/
def oneFileBeginning : List Event :=
  .directory (.ok ()) :: oneFileListing ++ [.send, .take]

/-- The rest of a run with one file. -/
def oneFileRest : List Event :=
  .acquire :: oneFileListing ++
    [.admission (.download 0) (.ok ()), .start (.download 0), .stream 0 (.ok ()),
      .opened 0 (.ok ()), .read 0 (.ok [1]), .written 0 (.ok ()), .read 0 (.ok []),
      .closed 0 (.ok ()), .join 0, .acquire, .fold, .send, .take, .fold, .send, .take, .drain,
      .send, .take]

/-- Nothing can happen after the baseline, and no terminal record is given. With two downloads at a
time the same run goes on, and the consumer is told that the file has been copied. -/
theorem unlimited_transfer_untold :
    1 < unlimitedJob.concurrency ∧ unlimitedJob.concurrency ≤ maxCount ∧
    (∃ s, run unlimitedJob (.start unlimitedJob {}) oneFileBeginning = some s ∧ s.listening ∧
      (∀ e, e ≠ .hangUp → step unlimitedJob s e = none) ∧ s.received = [.ofSnapshot ⟨1, 1⟩]) ∧
    run unlimitedJob (.start unlimitedJob {}) (oneFileBeginning ++ oneFileRest) = none ∧
    (∃ s, run { unlimitedJob with concurrency := 2 }
        (.start { unlimitedJob with concurrency := 2 } {}) (oneFileBeginning ++ oneFileRest) =
          some s ∧
      (entriesListed (oneFileBeginning ++ oneFileRest)).length = 1 ∧
      s.received.getLast? = some (.completed .notRequested)) ∧
    sights unlimitedJob {} 1 ≠ sights { unlimitedJob with concurrency := 2 } {} 1 := by
  refine ⟨by decide, Nat.le_refl _, ?_, rfl, ⟨_, rfl, rfl, rfl⟩, sights_ne (by decide) (by decide)⟩
  obtain ⟨s, hs, hl, hdone, hr⟩ : ∃ s,
      run unlimitedJob (.start unlimitedJob {}) oneFileBeginning = some s ∧ s.listening ∧ s.Done ∧
        s.received = [.ofSnapshot ⟨1, 1⟩] :=
    ⟨_, rfl, rfl, ⟨rfl, rfl, rfl⟩, rfl⟩
  exact ⟨s, hs, hl, fun e he => hdone.step_eq_none he, hr⟩

end FolderCopy.Transfer
