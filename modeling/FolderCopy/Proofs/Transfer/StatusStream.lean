import FolderCopy.Proofs.Transfer.Outcome

/-!
# The status stream

What the consumer of a transfer is given: the baseline first, then progress, and at the end one
terminal record that says truly what the transfer came to. A consumer that stops listening gets the
beginning of this stream.
-/

namespace FolderCopy.Transfer

/-- Progress records and at most one terminal record, the last one. -/
def IsStream (rs : List Status) : Prop :=
  ∃ ps, (∀ p ∈ ps, p.isTerminal = false) ∧
    (rs = ps ∨ ∃ r, r.isTerminal ∧ rs = ps ++ [r])

/-- The beginning of a stream is one. -/
lemma IsStream.of_prefix {rs rs' : List Status} (h : IsStream rs) (hp : rs' <+: rs) :
    IsStream rs' := by
  obtain ⟨ps, hps, hrs⟩ := h
  have hsub {qs : List Status} (hq : qs <+: ps) : IsStream qs :=
    ⟨qs, fun q hmem => hps q (hq.subset hmem), .inl rfl⟩
  rcases hrs with rfl | ⟨r, hr, rfl⟩
  · exact hsub hp
  · rcases List.prefix_concat_iff.1 hp with rfl | hq
    · exact ⟨ps, hps, .inr ⟨r, hr, rfl⟩⟩
    · exact hsub hq

/-- What a terminal record says of the transfer that it ends. -/
structure Verdict (j : Job) (es : List Event) (ds : List Download) (r : Status) : Prop where
  completed : (∃ c, r = .completed c) ↔ Succeeded es ds
  notRequested : ∀ c, r = .completed c → (c = .notRequested ↔ j.deleteAfter = false)
  deleted : ∀ c, r = .completed c → (c = .deleted ↔ .removal (.ok ()) ∈ es)
  notDeleted : ∀ m, r = .completed (.failed m) →
    ∃ ev ∈ es, ∃ e, DeletionFailure j ev e ∧ m = e.statusMessage
  failed : ∀ e, r = .failed e → e ≠ .cancelled ∧ ∃ ev ∈ es, Failure j ds ev e

/-- A terminal record is true to what has happened. -/
lemma Reason.verdict {j : Job} {es : List Event} {ds : List Download} {r : Status}
    (h : Reason j es ds r) (hr : r.isTerminal) : Verdict j es ds r := by
  cases r with
  | progress u => cases hr
  | completed c =>
    obtain ⟨hs, hc⟩ := h
    refine ⟨⟨fun _ => hs, fun _ => ⟨c, rfl⟩⟩, ?_, ?_, ?_, nofun⟩
    · rintro c' ⟨⟩
      cases c with
      | notRequested => simp [hc.1]
      | deleted | failed => simp [hc.1]
    · rintro c' ⟨⟩
      cases c with
      | notRequested => simp [hc.2]
      | deleted => simp [hc.2]
      | failed m => simp [hc.2.1]
    · rintro m ⟨⟩
      exact hc.2.2
  | failed e =>
    obtain ⟨hs, ev, hev, hf⟩ := h
    refine ⟨⟨nofun, fun hok => (hs.not_succeeded hok).elim⟩, nofun, nofun, nofun, ?_⟩
    rintro e' ⟨⟩
    exact ⟨hf.ne_cancelled, ev, hev, hf⟩

section Runs

variable {j : Job} {disk : Disk} {es : List Event} {s : State}

/-- The consumer is given the records in the order in which they were sent, and all of them as long
as it listens. -/
structure Delivered (s : State) : Prop where
  order : s.received ++ s.channel <+: s.sent
  all : s.listening → s.received ++ s.channel = s.sent

/-- A turn keeps the order of the records. -/
lemma Delivered.turn {s' : State} {e : Event} (h : Delivered s) (ht : Turn j s e s') :
    Delivered s' := by
  obtain ⟨horder, hall⟩ := h
  cases ht.onRecords with
  | same hs hc hr hl =>
    refine ⟨?_, ?_⟩
    · rw [hr, hc, hs]
      exact horder
    · intro hlisten
      rw [hr, hc, hs]
      exact hall (hl ▸ hlisten)
  | sent _ hl hs hc hr =>
    have heq : s'.received ++ s'.channel = s'.sent := by
      rw [hr, hc, hs, ← List.append_assoc, hall hl]
    exact ⟨heq ▸ List.prefix_rfl, fun _ => heq⟩
  | took hc hs hr hl =>
    rw [hc] at horder hall
    refine ⟨?_, ?_⟩
    · rw [hr, hs, List.append_assoc]
      exact horder
    · intro hlisten
      rw [hr, hs, List.append_assoc]
      exact hall (hl ▸ hlisten)
  | hungUp hs hc hr hl =>
    refine ⟨?_, ?_⟩
    · rw [hr, hc, hs, List.append_nil]
      exact (List.prefix_append _ _).trans horder
    · intro hlisten
      rw [hl] at hlisten
      cases hlisten

/-- A run delivers its records in order. -/
lemma Run.delivered (h : Run j disk es s) : Delivered s := by
  induction h with
  | start => exact ⟨List.prefix_rfl, fun _ => rfl⟩
  | step hr h ih =>
    cases h with
    | turn ht => exact ih.turn ht
    | move hi hd hp hm => exact ⟨ih.order, ih.all⟩

/-- No progress is told before the files have been counted. -/
lemma Run.terminal_of_not_listed (h : Run j disk es s) (hl : listingsRead es = 0) {r : Status}
    (hr : r ∈ s.sent) : r.isTerminal := by
  induction h with
  | start => cases hr
  | @step es s e s' hrun h ih =>
    have hl₀ : listingsRead es = 0 := by
      rw [listingsRead_snoc] at hl
      omega
    have ih := ih hl₀
    cases h with
    | move hi hd hp hm => exact ih hr
    | turn ht =>
      cases ht.onRecords with
      | same hs | took _ hs | hungUp hs =>
        rw [hs] at hr
        exact ih hr
      | @sent r₀ next hstage _ hs =>
        rw [hs] at hr
        rcases List.mem_append.1 hr with hr | hr
        · exact ih hr
        · have hc := hrun.course
          have ht := hrun.told
          rw [hstage] at hc ht
          cases List.mem_singleton.1 hr
          -- Progress waits for the channel at stages behind the first listing only.
          cases next with
          | begin_ | loop | cleanUp =>
            have hne := hc.2.1
            rw [hl₀] at hne
            split at hne <;> cases hne
          | stop =>
            cases r with
            | progress u => exact ht.elim
            | completed | failed => rfl

/-- The records of a transfer that has ended are a stream, with a terminal record at its end unless
the transfer was stopped. -/
lemma State.Ending.isStream {rs : List Status} (h : State.Ending j es s rs) :
    IsStream rs ∧ (s.listening → j.slots ≤ slotLimit →
      ∃ ps r, rs = ps ++ [r] ∧ (∀ p ∈ ps, p.isTerminal = false) ∧ r.isTerminal) := by
  have hwhole {ps : List Status} {r : Status} (hps : ∀ p ∈ ps, p.isTerminal = false)
      (hr : r.isTerminal) : IsStream (ps ++ [r]) ∧ (s.listening → j.slots ≤ slotLimit →
        ∃ ps' r', ps ++ [r] = ps' ++ [r'] ∧ (∀ p ∈ ps', p.isTerminal = false) ∧ r'.isTerminal) :=
    ⟨⟨ps, hps, .inr ⟨r, hr, rfl⟩⟩, fun _ _ => ⟨ps, r, rfl, hps, hr⟩⟩
  cases h with
  | cut hcut h =>
    refine ⟨⟨rs, fun p hp => State.isTerminal_eq_false (h.le.subset hp), .inl rfl⟩, ?_⟩
    intro hl hj
    rcases hcut with hno | hlt
    · rw [hno] at hl
      cases hl
    · omega
  | failedEarly => exact hwhole (List.forall_mem_nil _) rfl
  | failed =>
    exact hwhole (fun p hp => State.isTerminal_eq_false (List.mem_append_left _ hp)) rfl
  | completed => exact hwhole (fun p hp => State.isTerminal_eq_false hp) rfl

/-- The records of a run are a stream. -/
lemma Run.isStream (h : Run j disk es s) : IsStream s.sent := by
  rcases h.sent with hsofar | hending
  · exact ⟨s.sent, fun p hp => State.isTerminal_eq_false (hsofar.le.subset hp), .inl rfl⟩
  · exact hending.isStream.1

/-- The first record of the loop is the baseline. -/
lemma State.head?_loopRecords (s : State) :
    s.loopRecords.head? = some (.ofSnapshot s.baseline) := by
  rw [State.loopRecords, List.head?_map, List.head?_scanl]
  rfl

/-- The first record is the baseline once the files have been counted. -/
lemma Run.head?_sent (h : Run j disk es s) (hl : listingsRead es ≠ 0) {r : Status}
    (hr : s.sent.head? = some r) : r = .ofSnapshot s.baseline := by
  -- All that is told begins as the records of the loop do.
  have hloop (hp : ∃ rest, s.sent <+: s.loopRecords ++ rest) : r = .ofSnapshot s.baseline := by
    obtain ⟨rest, t, ht⟩ := hp
    have hhead := congrArg List.head? ht
    rw [List.head?_append, List.head?_append, hr, s.head?_loopRecords] at hhead
    exact Option.some.inj hhead
  rcases h.sent with hsofar | hending
  · exact hloop ⟨_, hsofar.le⟩
  · generalize hsent : s.sent = rs at hending
    cases hending with
    | cut hcut hp => exact hloop ⟨_, hsent ▸ hp.le⟩
    | failedEarly h0 => exact absurd h0 hl
    | @failed e => exact hloop ⟨[.failed e], hsent ▸ List.prefix_rfl⟩
    | @completed c =>
      rw [List.append_assoc] at hsent
      exact hloop ⟨s.settling ++ [.completed c], hsent ▸ List.prefix_rfl⟩

end Runs

/-- The consumer of a transfer is given the records that were sent, in order: progress records and
then at most one terminal record, which comes for certain while it listens, and which says truly
what the transfer came to. The first record holds the totals of the first listing; without these
totals there is no progress record. -/
theorem status_stream {j : Job} {disk : Disk} {es : List Event} {s : State}
    (h : run j (.start j disk) es = some s) :
    s.received ++ s.channel <+: s.sent ∧ (s.listening → s.received ++ s.channel = s.sent) ∧
    IsStream s.received ∧
    (s.listening → s.stage = .ended → j.slots ≤ slotLimit →
      ∃ ps r, s.sent = ps ++ [r] ∧ (∀ p ∈ ps, p.isTerminal = false) ∧ r.isTerminal) ∧
    (∀ r ∈ s.sent, r.isTerminal → Verdict j es s.downloads r) ∧
    (listingsRead es = 0 → ∀ r ∈ s.sent, r.isTerminal) ∧
    (listingsRead es ≠ 0 → ∀ r, s.sent.head? = some r →
      r = .ofSnapshot (.ofTotals (totalsCounted es))) := by
  have hr := Run.of_run h
  obtain ⟨horder, hall⟩ := hr.delivered
  refine ⟨horder, hall, ?_, ?_, fun r hmem ht => (hr.reason hmem).verdict ht,
    fun hl r hmem => hr.terminal_of_not_listed hl hmem, ?_⟩
  · exact hr.isStream.of_prefix ((List.prefix_append _ _).trans horder)
  · intro hl hend hj
    have ht := hr.told
    rw [hend] at ht
    exact (State.Ending.isStream ht).2 hl hj
  · intro hl r hhead
    rw [totalsCounted, ← hr.listed.1]
    exact hr.head?_sent hl hhead

/-- A job that copies a folder and then deletes it. -/
def movingJob : Job where
  folder := "f"
  destination := "d"
  concurrency := 1
  deleteAfter := true
  policy := .standard

/-- A run of this job with one file and two pages in the first listing, where the limiter refuses
the deletion. -/
def refusedDeletionRun : List Event :=
  let entries := [⟨"a", "x", some 1⟩]
  let listing (p : Page) : List Event :=
    [.admission .main (.ok ()), .start .main, .page (.ok p)]
  .directory (.ok ()) :: listing ⟨[], some "next"⟩ ++ listing ⟨entries, none⟩ ++
    [.send, .take, .acquire] ++ listing ⟨entries, none⟩ ++
    [.admission (.download 0) (.ok ()), .start (.download 0), .stream 0 (.ok ()),
      .opened 0 (.ok ()), .read 0 (.ok [5]), .written 0 (.ok ()), .read 0 (.ok []),
      .closed 0 (.ok ()), .join 0, .acquire, .fold, .send, .fold, .send, .drain,
      .admission .main (.error (.unavailable "limiter")), .take, .send]

/-- The consumer of this run is told that all files were copied, and of the failed deletion. -/
theorem status_stream_refused_deletion :
    ∃ s, run movingJob (.start movingJob {}) refusedDeletionRun = some s ∧ s.listening ∧
      s.stage = .ended ∧ IsStream s.received ∧
      ∃ ps r, s.received ++ s.channel = ps ++ [r] ∧ (∀ p ∈ ps, p.isTerminal = false) ∧
        r.isTerminal ∧ Verdict movingJob refusedDeletionRun s.downloads r ∧
        s.sent.head? = some (.ofSnapshot ⟨1, 1⟩) := by
  have h : run movingJob (.start movingJob {}) refusedDeletionRun = some _ := rfl
  obtain ⟨-, hall, hstream, hended, hverdict, -, hfirst⟩ := status_stream h
  obtain ⟨ps, r, hrs, hps, hr⟩ := hended rfl rfl (by decide)
  have hbaseline := hfirst (by decide) _ rfl
  refine ⟨_, h, rfl, rfl, hstream, ps, r, (hall rfl).trans hrs, hps, hr, hverdict r ?_ hr, ?_⟩
  · rw [hrs]
    simp
  · exact congrArg some hbaseline

end FolderCopy.Transfer
