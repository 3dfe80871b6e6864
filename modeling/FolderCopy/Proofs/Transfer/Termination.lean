import FolderCopy.Proofs.Counting
import FolderCopy.Proofs.Transfer.Account
import FolderCopy.Proofs.Transfer.Liveness

/-!
# Termination

A transfer takes no more steps than what it is given pays for. Every state has a number of steps
that it can still take if nothing more is read; each step uses up one of them, and only a page or a
chunk that comes in adds some. So a transfer whose listings and contents come to an end does so too.
-/

namespace FolderCopy

namespace Retry

/-- The steps of a call: every attempt is admitted, started and answered. -/
def Policy.steps (p : Policy) : Nat :=
  3 * p.maxAttempts

/-- The steps that a call can still take. -/
def Stage.steps (p : Policy) : Stage → Nat
  | .asking n => 3 * (p.maxAttempts - n) + 3
  | .admitted n => 3 * (p.maxAttempts - n) + 2
  | .calling n => 3 * (p.maxAttempts - n) + 1

/-- The first attempt can take all the steps of a call. -/
lemma Stage.steps_first (p : Policy) : Stage.first.steps p = p.steps := by
  have := p.pos
  simp only [Stage.first, Stage.steps, Policy.steps]
  omega

/-- A further attempt is paid for by the one that failed. -/
lemma Stage.steps_again {α : Type} {p : Policy} {resource : String} {n : Nat} {c : CallError}
    (h : p.after (α := α) resource n (.error c) = .inr (.asking (n + 1))) :
    Stage.steps p (.asking (n + 1)) < Stage.steps p (.calling n) := by
  obtain ⟨_, -, hlt, -⟩ := Policy.after_inr h
  simp only [Stage.steps]
  omega

/-- A call that is not over can take a step. -/
lemma Stage.steps_pos (p : Policy) (r : Stage) : 0 < r.steps p := by
  cases r <;> exact Nat.succ_pos _

end Retry

namespace Transfer

/-! ## Steps that are left -/

/-- The steps that a download can still take if it reads nothing more, with those that the main loop
and the consumer take for what it reports. -/
def Download.steps (p : Retry.Policy) (d : Download) : Nat :=
  match d.stage with
  | .fetching r => r.steps p + 7
  | .opening => 7
  | .reading => 6
  | .writing _ left => left.length + 10
  | .closing => 5
  | .finished _ => 1 - d.joined.toNat
  | .abandoned => 0

/-- The steps that the main loop can still take if no more pages come in; `more` are those that it
takes to find that there are none. -/
def Stage.steps (p : Retry.Policy) (more : Nat) : Stage → Nat
  | .creating => 2 * p.steps + more + 8
  | .counting _ _ r => r.steps p + p.steps + more + 7
  | .sending _ .begin_ | .sending _ .loop => p.steps + more + 7
  | .looping => p.steps + more + 5
  | .paging r => r.steps p + p.steps + 5
  | .sending _ .cleanUp => p.steps + 4
  | .cleaning r => r.steps p + 2
  | .sending _ .stop => 2
  | .ended => 0

/-- The steps that scheduled downloads, changes that have been reported and records that wait can
still give rise to. A change is applied, told and taken. -/
def State.pending (p : Retry.Policy) (s : State) : Nat :=
  (s.downloads.map (Download.steps p)).sum + 3 * (s.deltas.length - s.folded) + s.channel.length +
    s.listening.toNat

/-- The steps that a transfer can still take if no more pages and chunks come in. -/
def State.steps (p : Retry.Policy) (s : State) : Nat :=
  s.stage.steps p (if s.exhausted then 0 else p.steps + 1) + (p.steps + 8) * s.page.length +
    s.pending p

/-- The steps that an event makes possible: with a page those of its entries, with a chunk those
that store it. -/
def Event.gain (p : Retry.Policy) (e : Event) : Nat :=
  (e.page?.elim 0 fun page => (p.steps + 8) * page.entries.length + p.steps + 1) +
    e.chunk?.elim 0 fun chunk => chunk.length + 5

section Steps

variable {j : Job} {s s' : State} {e : Event} {p : Retry.Policy}

/-- A page brings the steps of its entries and those of a further call. -/
lemma Event.gain_page (page : Page) :
    Event.gain p (.page (.ok page)) = (p.steps + 8) * page.entries.length + p.steps + 1 := rfl

/-- A scheduled download can take the steps of its call and of its file. -/
lemma Download.steps_scheduled (entry : Entry) :
    ({ entry } : Download).steps p = p.steps + 7 :=
  congrArg (· + 7) (Retry.Stage.steps_first p)

/-- A slot in hand is used for the next entry or the next page. -/
lemma State.steps_supply_le (entries : List Entry) :
    (s.supply entries).steps p ≤
      2 * p.steps + 5 + (p.steps + 8) * entries.length + s.pending p := by
  cases entries with
  | cons e rest =>
    have hpending : (s.supply (e :: rest)).pending p = s.pending p + p.steps + 7 := by
      simp only [State.pending, State.supply, List.map_append, List.sum_append, List.map_cons,
        List.map_nil, List.sum_singleton, Download.steps_scheduled]
      omega
    have hmore : (if s.exhausted then 0 else p.steps + 1) ≤ p.steps + 1 := by split <;> omega
    show p.steps + (if s.exhausted then 0 else p.steps + 1) + 5 + (p.steps + 8) * rest.length +
      (s.supply (e :: rest)).pending p ≤ _
    rw [hpending, List.length_cons, Nat.mul_succ]
    omega
  | nil =>
    rw [State.supply]
    split
    · show p.steps + 0 + 5 + (p.steps + 8) * 0 + s.pending p ≤ _
      omega
    · show Retry.Stage.first.steps p + p.steps + 5 + (p.steps + 8) * 0 + s.pending p ≤ _
      rw [Retry.Stage.steps_first]
      omega

/-- Cleaning up takes the steps of one call and two more. -/
lemma State.steps_cleanUp_le (more : Nat) : (s.cleanUp j).stage.steps p more ≤ p.steps + 2 := by
  unfold State.cleanUp
  split
  · show Retry.Stage.first.steps p + 2 ≤ _
    rw [Retry.Stage.steps_first]
  · show 2 ≤ _
    omega

/-- Settling the counters takes the steps of one call and four more. -/
lemma State.steps_settle_le (more : Nat) : (s.settle j).stage.steps p more ≤ p.steps + 4 := by
  unfold State.settle
  split
  · exact Nat.le_refl _
  · exact Nat.le_trans (s.steps_cleanUp_le more) (by omega)

/-- What follows on a record is paid for by the stage at which it waits, and so is the record. -/
lemma State.steps_resume_le (more : Nat) (r : Status) (next : Next) :
    (s.resume j next).stage.steps p more + 2 ≤ (Stage.sending r next).steps p more := by
  cases next with
  | begin_ =>
    show Stage.steps p more (if j.slots ≤ slotLimit then .looping else .ended) + 2 ≤ _
    split <;> simp only [Stage.steps] <;> omega
  | loop => exact Nat.le_refl _
  | cleanUp => exact Nat.add_le_add_right (s.steps_cleanUp_le more) 2
  | stop => exact Nat.le_refl _

/-- After a page has been counted, there are the steps of two calls left and what more there was. -/
lemma State.steps_countPage_le (more : Nat) (t : Totals) (page : Page) :
    (s.countPage t page).stage.steps p more ≤ 2 * p.steps + more + 7 := by
  unfold State.countPage
  split
  · simp only [Stage.steps]
    omega
  · simp only [Stage.steps, Retry.Stage.steps_first]
    omega

/-- A stage at which the transfer is not over can take a step. -/
lemma Stage.steps_pos (more : Nat) {st : Stage} (h : st.isOver = false) : 0 < st.steps p more := by
  cases st with
  | sending r next => cases next <;> simp_all [Stage.steps, Stage.isOver]
  | ended => cases h
  | _ => simp [Stage.steps]

/-- A step that leaves the listing alone is paid for by the stages and by what is pending. -/
lemma State.steps_le_of_pending {g : Nat} (hx : s'.exhausted = s.exhausted)
    (hpage : s'.page = s.page)
    (h : ∀ more, s'.stage.steps p more + s'.pending p + 1 ≤
      s.stage.steps p more + s.pending p + g) :
    s'.steps p + 1 ≤ s.steps p + g := by
  have := h (if s.exhausted then 0 else p.steps + 1)
  rw [State.steps, State.steps, hx, hpage]
  omega

/-- A step that only moves the main loop on is paid for by its stages. -/
lemma State.steps_le_of_stage {g : Nat} (hx : s'.exhausted = s.exhausted)
    (hpage : s'.page = s.page) (hpending : s'.pending p = s.pending p)
    (h : ∀ more, s'.stage.steps p more + 1 ≤ s.stage.steps p more + g) :
    s'.steps p + 1 ≤ s.steps p + g := by
  refine State.steps_le_of_pending hx hpage ?_
  intro more
  have := h more
  omega

/-- Taking the result of a download uses one of its steps up. -/
lemma State.pending_joined {i : Nat} {d : Download} {r : Except CopyError Unit}
    (hd : s.downloads[i]? = some d) (hf : d.stage = .finished r) (hj : d.joined = false) :
    (s.setDownload i { d with joined := true }).pending p + 1 = s.pending p := by
  have hsum := sum_map_set (Download.steps p) { d with joined := true } hd
  have hbefore : d.steps p = 1 := by simp [Download.steps, hf, hj]
  have hafter : ({ d with joined := true } : Download).steps p = 0 := by simp [Download.steps, hf]
  simp only [State.pending, State.setDownload]
  omega

/-- A turn uses up a step, and has those to spare that its event makes possible. -/
lemma Turn.steps_le (h : Turn j s e s') :
    s'.steps j.policy + 1 ≤ s.steps j.policy + e.gain j.policy := by
  cases h with
  | created hl =>
    refine State.steps_le_of_stage rfl rfl rfl ?_
    intro more
    simp only [hl, Stage.steps, Retry.Stage.steps_first]
    omega
  | notCreated hl | deletionRefused hl | deleted hl | notDeleted hl =>
    refine State.steps_le_of_stage rfl rfl rfl ?_
    intro more
    simp only [hl, State.fail, State.complete, Stage.steps, Retry.Stage.steps]
    omega
  -- An attempt goes from one of its steps to the next, or the transfer ends at it.
  | @granted k n hl | @refused k n c hl hk | @started k n hl | @notListed k n c err hl hk =>
    refine State.steps_le_of_stage rfl rfl rfl ?_
    intro more
    rw [hl]
    cases k <;> simp only [State.fail, State.calling, Task.stage, Stage.steps,
      Retry.Stage.steps] <;> omega
  | @counted c t n page hl =>
    rw [State.countPage_eq]
    refine State.steps_le_of_stage rfl rfl rfl ?_
    intro more
    have hle := s.steps_countPage_le (p := j.policy) more t page
    have hstage : s.stage.steps j.policy more =
        Retry.Stage.steps j.policy (.calling n) + j.policy.steps + more + 7 := by rw [hl]; rfl
    have hpos := (Retry.Stage.calling n).steps_pos j.policy
    rw [hstage, Event.gain_page]
    show (s.countPage t page).stage.steps j.policy more + 1 ≤ _
    omega
  | @supplied n page hl =>
    have hle := State.steps_supply_le (p := j.policy)
      (s := { s with cursor := .after page, listed := s.listed ++ page.entries }) page.entries
    have hpos := (Retry.Stage.calling n).steps_pos j.policy
    refine Nat.le_trans (Nat.add_le_add_right hle 1) ?_
    -- The entries of the page and the search for the next one are what the page has brought.
    show _ + s.pending j.policy + 1 ≤ _
    simp only [State.steps, hl, Stage.steps, Event.gain_page]
    omega
  | @listedAgain k n c hl hk hr =>
    refine State.steps_le_of_stage rfl rfl rfl ?_
    intro more
    have hlt := Retry.Stage.steps_again hr
    rw [hl]
    cases k <;> simp only [Task.stage, Stage.steps] <;> omega
  | deletedAgain hl hr =>
    refine State.steps_le_of_stage rfl rfl rfl ?_
    intro more
    have hlt := Retry.Stage.steps_again hr
    simp only [hl, Stage.steps]
    omega
  | joined hl hd hj hf =>
    have hpending := State.pending_joined (p := j.policy) hd hf hj
    refine State.steps_le_of_pending rfl rfl ?_
    intro more
    show s.stage.steps _ more + _ + 1 ≤ _
    omega
  | failed hl hd hj hf =>
    have hpending := State.pending_joined (p := j.policy) hd hf hj
    refine State.steps_le_of_pending rfl rfl ?_
    intro more
    simp only [hl, Stage.steps]
    show 2 + (s.setDownload _ _).pending _ + 1 ≤ _
    omega
  | acquired hl hx hf =>
    have hle := State.steps_supply_le (p := j.policy) (s := { s with free := s.free - 1 }) s.page
    refine Nat.le_trans (Nat.add_le_add_right hle 1) ?_
    show _ + s.pending j.policy + 1 ≤ _
    simp only [State.steps, hl, hx, Stage.steps, Bool.false_eq_true, if_false]
    omega
  | folded hl hc =>
    have hlt := (List.getElem?_eq_some_iff.1 hc).1
    refine State.steps_le_of_pending rfl rfl ?_
    intro more
    simp only [hl, Stage.steps, State.pending]
    omega
  | drained hl hd =>
    rw [State.settle_eq]
    refine State.steps_le_of_stage rfl rfl rfl ?_
    intro more
    have hle := s.steps_settle_le (j := j) (p := j.policy) more
    have hstage : s.stage.steps j.policy more = j.policy.steps + more + 5 := by rw [hl]; rfl
    show (s.settle j).stage.steps j.policy more + 1 ≤ _
    omega
  | @sent r next hl =>
    rw [State.resume_eq]
    refine State.steps_le_of_pending rfl rfl ?_
    intro more
    have hle := State.steps_resume_le (j := j) (p := j.policy)
      (s := { s with channel := s.channel ++ [r], sent := s.sent ++ [r] }) more r next
    rw [← hl] at hle
    simp only [State.pending, List.length_append, List.length_singleton]
    omega
  | @unheard r next hl =>
    refine State.steps_le_of_stage rfl rfl rfl ?_
    intro more
    rw [hl]
    cases next <;> simp only [Stage.steps] <;> omega
  | took hc =>
    refine State.steps_le_of_pending rfl rfl ?_
    intro more
    simp only [State.pending, hc, List.length_cons]
    omega
  | hungUp hl =>
    refine State.steps_le_of_pending rfl rfl ?_
    intro more
    simp only [State.pending, hl, List.length_nil, Bool.toNat_false, Bool.toNat_true]
    omega
  | cancelled hl ho =>
    refine State.steps_le_of_stage rfl rfl rfl ?_
    intro more
    exact Stage.steps_pos more ho

/-- A download that is running can take a step. -/
lemma Download.steps_pos {d : Download} (h : d.isRunning) : 0 < d.steps p := by
  cases hs : d.stage with
  | finished | abandoned => simp [Download.isRunning, hs] at h
  | _ => simp [Download.steps, hs]

/-- A download pays for its own steps and for those that its reports give rise to. -/
lemma Download.Move.steps_le {d d' : Download} {fs : List Effect} (h : Download.Move j d e d' fs) :
    d'.steps j.policy + 3 * (fs.filterMap Effect.delta?).length + 1 ≤
      d.steps j.policy + e.gain j.policy := by
  cases h with
  | granted hs | started hs | fetched hs | opened hs | ended hs =>
    simp only [Download.steps, Download.at_, hs, Retry.Stage.steps]
    show _ + 3 * 0 + 1 ≤ _
    omega
  | refused hs | notFetched hs | notOpened hs | brokeOff hs | notWritten hs | notClosed hs =>
    simp only [Download.steps, Download.fail, Download.at_, hs, Retry.Stage.steps]
    show _ + 3 * 0 + 1 ≤ _
    omega
  | retried hs hr =>
    have hlt := Retry.Stage.steps_again hr
    simp only [Download.steps, Download.at_, hs]
    show _ + 3 * 0 + 1 ≤ _
    omega
  | @gave i chunk hs hne hle =>
    obtain ⟨b, bs, rfl⟩ := List.exists_cons_of_ne_nil hne
    simp only [Download.steps, hs]
    show (b :: bs).length + 10 + 3 * 0 + 1 ≤ 6 + (0 + ((b :: bs).length + 5))
    omega
  | stored hs hn =>
    simp only [Download.steps, Download.at_, hs, List.length_drop]
    show _ + 3 * 0 + 1 ≤ _
    omega
  | written hs | closed hs =>
    simp only [Download.steps, Download.at_, hs]
    show _ + 3 * 1 + 1 ≤ _
    omega
  | abandoned hr =>
    have hpos := Download.steps_pos (p := j.policy) hr
    show 0 + 3 * 0 + 1 ≤ _
    omega

/-- A step uses up one of the steps that are left, and has those to spare that its event makes
possible. -/
lemma Step.steps_le (h : Step j s e s') :
    s'.steps j.policy + 1 ≤ s.steps j.policy + e.gain j.policy := by
  cases h with
  | turn ht => exact ht.steps_le
  | @move i d d' fs hi hd hp hm =>
    have hle := hm.steps_le
    have hsum := sum_map_set (Download.steps j.policy) d' hd
    refine State.steps_le_of_pending rfl rfl ?_
    intro more
    show s.stage.steps _ more + _ + 1 ≤ _
    simp only [State.pending, State.advance, State.setDownload, List.length_append, List.length_map]
    omega

end Steps

/-! ## Runs -/

/-- The steps that a transfer has to spare from its start on, with those that its events make
possible. -/
def allowance (j : Job) (es : List Event) : Nat :=
  3 * j.policy.steps + 10 + (es.map (Event.gain j.policy)).sum

section Runs

variable {j : Job} {disk : Disk} {es : List Event} {s : State}

/-- What a run has taken and what it can still take is paid for. -/
lemma Run.steps_le (h : Run j disk es s) :
    es.length + s.steps j.policy ≤ allowance j es := by
  induction h with
  | start =>
    show 0 + (2 * j.policy.steps + (j.policy.steps + 1) + 8 + (j.policy.steps + 8) * 0 +
      (0 + 3 * (0 - 0) + 0 + 1)) ≤ 3 * j.policy.steps + 10 + 0
    omega
  | @step es s e s' hr h ih =>
    have hle := h.steps_le
    simp only [allowance, List.map_append, List.sum_append, List.map_cons, List.map_nil,
      List.sum_singleton, List.length_append, List.length_singleton] at ih ⊢
    omega

/-- There are no more downloads than listed entries. -/
lemma Run.length_downloads_le (h : Run j disk es s) :
    s.downloads.length ≤ (entriesListed es).length := by
  rw [← h.listed.2, h.sound.schedule, List.length_append, List.length_map]
  exact Nat.le_add_right _ _

end Runs

section Infinite

variable {j : Job} {disk : Disk} {σ : Nat → Event}

/-- The first `n` events of an endless series. -/
def firstEvents (σ : Nat → Event) (n : Nat) : List Event :=
  (List.range n).map σ

/-- There are as many first events as are taken. -/
lemma length_firstEvents (n : Nat) : (firstEvents σ n).length = n := by
  simp [firstEvents]

/-- One more first event is the next one. -/
lemma firstEvents_succ (n : Nat) : firstEvents σ (n + 1) = firstEvents σ n ++ [σ n] := by
  rw [firstEvents, List.range_succ, List.map_append]
  rfl

/-- What is the case for each of a few numbers from some point on is so for all of them. -/
lemma exists_common {P : Nat → Nat → Prop} (h : ∀ i, ∃ N, ∀ n ≥ N, P i n) (m : Nat) :
    ∃ N, ∀ i < m, ∀ n ≥ N, P i n := by
  induction m with
  | zero => exact ⟨0, nofun⟩
  | succ m ih =>
    obtain ⟨N, hN⟩ := ih
    obtain ⟨N', hN'⟩ := h m
    refine ⟨max N N', ?_⟩
    intro i hi n hn
    rcases Nat.lt_succ_iff_lt_or_eq.1 hi with hi | rfl
    · exact hN i hi n (Nat.le_trans (Nat.le_max_left _ _) hn)
    · exact hN' n (Nat.le_trans (Nat.le_max_right _ _) hn)

/-- Where no more pages come, the pages that were read stay. -/
lemma pagesRead_firstEvents {N n : Nat} (h : ∀ n ≥ N, (σ n).page? = none) (hn : N ≤ n) :
    pagesRead (firstEvents σ n) = pagesRead (firstEvents σ N) := by
  induction n, hn using Nat.le_induction with
  | base => rfl
  | succ n hn ih => rw [firstEvents_succ, pagesRead_snoc_of_none _ (h n hn), ih]

/-- When nothing more comes in, the allowance stays as it is. -/
lemma allowance_firstEvents {N n : Nat} (h : ∀ n ≥ N, (σ n).gain j.policy = 0) (hn : N ≤ n) :
    allowance j (firstEvents σ n) = allowance j (firstEvents σ N) := by
  induction n, hn using Nat.le_induction with
  | base => rfl
  | succ n hn ih =>
    rw [firstEvents_succ, ← ih]
    simp [allowance, h n hn]

/-- Only a download reads a chunk. -/
lemma Event.download?_of_chunk? {e : Event} {chunk : Bytes} (h : e.chunk? = some chunk) :
    ∃ i, e.download? = some i := by
  unfold Event.chunk? at h
  split at h <;> cases h
  exact ⟨_, rfl⟩

/-- No run goes on for ever whose listings and contents come to an end. -/
lemma not_forall_run (hpages : ∃ N, ∀ n ≥ N, (σ n).page? = none)
    (hchunks : ∀ i, ∃ N, ∀ n ≥ N, (σ n).download? = some i → (σ n).chunk? = none) :
    ¬ ∀ n, ∃ s, Run j disk (firstEvents σ n) s := by
  intro hrun
  obtain ⟨N, hN⟩ := hpages
  -- From here on there are no further entries, so the downloads are among finitely many.
  obtain ⟨N', hN'⟩ := exists_common hchunks (entriesListed (firstEvents σ N)).length
  have hgain : ∀ n ≥ max N N', (σ n).gain j.policy = 0 := by
    intro n hn
    have hnN : N ≤ n := Nat.le_trans (Nat.le_max_left _ _) hn
    have hchunk : (σ n).chunk? = none := by
      cases hc : (σ n).chunk? with
      | none => rfl
      | some chunk =>
        obtain ⟨i, hi⟩ := Event.download?_of_chunk? hc
        obtain ⟨s, hs⟩ := hrun (n + 1)
        have hmem : σ n ∈ eventsOf i (firstEvents σ (n + 1)) := by
          rw [firstEvents_succ, eventsOf_snoc_self _ hi]
          simp
        obtain ⟨d, hd⟩ := hs.scheduled (.inl (List.ne_nil_of_mem hmem))
        have hle := hs.length_downloads_le
        rw [entriesListed, pagesRead_firstEvents hN (Nat.le_succ_of_le hnN), ← entriesListed] at hle
        have hlt := Nat.lt_of_lt_of_le (List.getElem?_eq_some_iff.1 hd).1 hle
        rw [← hc]
        exact hN' i hlt n (Nat.le_trans (Nat.le_max_right _ _) hn) hi
    simp [Event.gain, hN n hnN, hchunk]
  -- One event more than is allowed from there on.
  let n := max N N' + allowance j (firstEvents σ (max N N')) + 1
  have hallowed : allowance j (firstEvents σ n) = allowance j (firstEvents σ (max N N')) :=
    allowance_firstEvents hgain (by omega)
  obtain ⟨s, hs⟩ := hrun n
  have hle := hs.steps_le
  rw [hallowed, length_firstEvents] at hle
  omega

end Infinite

/-- A transfer whose consumer listens cannot hang. It takes no more steps than those that it is
allowed for the pages and chunks that come in, so no run goes on for ever whose listings and
contents come to an end. And as long as its terminal record has not been taken it can go on, by
itself or with any answer that it awaits; so when it gets no further although nothing is held back,
that record has been taken. -/
theorem transfer_ends {j : Job} {disk : Disk} (hj : j.slots ≤ slotLimit) :
    (∀ es s, run j (.start j disk) es = some s → es.length ≤ allowance j es) ∧
    (∀ σ : Nat → Event, (∃ N, ∀ n ≥ N, (σ n).page? = none) →
      (∀ i, ∃ N, ∀ n ≥ N, (σ n).download? = some i → (σ n).chunk? = none) →
      ∃ n, run j (.start j disk) ((List.range n).map σ) = none) ∧
    (∀ es s, run j (.start j disk) es = some s → s.listening →
      (∃ r ∈ s.received, r.isTerminal) ∨ CanGoOn j s) ∧
    (∀ es s, run j (.start j disk) es = some s → s.listening →
      ∀ possible : Event → Prop, s.Served j possible →
        (∀ e, possible e → step j s e = none) → ∃ r ∈ s.received, r.isTerminal) := by
  refine ⟨?_, ?_, ?_, ?_⟩
  · intro es s h
    have := (Run.of_run h).steps_le
    omega
  · intro σ hpages hchunks
    by_contra hno
    have hrun (n : Nat) : ∃ s, Run j disk (firstEvents σ n) s := by
      obtain ⟨s, hs⟩ := Option.ne_none_iff_exists'.1 fun hn => hno ⟨n, hn⟩
      exact ⟨s, .of_run hs⟩
    exact not_forall_run hpages hchunks hrun
  · intro es s h hl
    exact (Run.of_run h).canGoOn hj hl
  · intro es s h hl possible hp hstuck
    exact (Run.of_run h).delivered_of_stuck hj hl hp hstuck

/-- A job that copies a folder with one download at a time. -/
def endingJob : Job where
  folder := "f"
  destination := "d"
  concurrency := 0
  deleteAfter := false
  policy := .ofNat 1

/-- The beginning of a run of this job with two files, up to where the only slot is held and two
records wait for the consumer. -/
def endingBeginning : List Event :=
  let entries : List Entry := [⟨"a", "x", some 2⟩, ⟨"b", "y", none⟩]
  let listing : List Event :=
    [.admission .main (.ok ()), .start .main, .page (.ok ⟨entries, none⟩)]
  List.flatten
    [[.directory (.ok ())], listing, [.send, .acquire], listing,
      [.admission (.download 0) (.ok ()), .start (.download 0), .stream 0 (.ok ()),
        .opened 0 (.ok ()), .read 0 (.ok [1, 2]), .written 0 (.ok ()), .fold, .send]]

/-- The rest of that run, in which the second file cannot be had. -/
def endingRest : List Event :=
  [.take, .read 0 (.ok []), .closed 0 (.ok ()), .join 0, .acquire,
    .admission (.download 1) (.ok ()), .start (.download 1), .stream 1 (.error (.notFound "gone")),
    .take, .join 1, .send, .take]

/-- This run can go on where the slot is held, and has delivered its terminal record when it can do
so no more. -/
theorem transfer_ends_missing_file :
    ∃ s s', run endingJob (.start endingJob {}) endingBeginning = some s ∧ s.free = 0 ∧
      CanGoOn endingJob s ∧
      run endingJob (.start endingJob {}) (endingBeginning ++ endingRest) = some s' ∧
      (∀ e, e ≠ .hangUp → step endingJob s' e = none) ∧ (∃ r ∈ s'.received, r.isTerminal) := by
  obtain ⟨-, -, hgo, hstuck⟩ := @transfer_ends endingJob {} (by decide)
  obtain ⟨s, h, hfree, hl, hnone⟩ : ∃ s,
      run endingJob (.start endingJob {}) endingBeginning = some s ∧ s.free = 0 ∧ s.listening ∧
        s.received = [] :=
    ⟨_, rfl, rfl, rfl, rfl⟩
  obtain ⟨s', h', hl', hdone⟩ : ∃ s',
      run endingJob (.start endingJob {}) (endingBeginning ++ endingRest) = some s' ∧
        s'.listening ∧ s'.Done :=
    ⟨_, rfl, rfl, rfl, rfl, rfl⟩
  have hnext (e : Event) (he : e ≠ .hangUp) : step endingJob s' e = none := hdone.step_eq_none he
  refine ⟨s, s', h, hfree, (hgo _ s h hl).resolve_left ?_, h', hnext, ?_⟩
  · rw [hnone]
    rintro ⟨r, ⟨⟩, -⟩
  · exact hstuck _ s' h' hl' _ (s'.served_of_ne_hangUp endingJob) hnext

end Transfer

end FolderCopy
