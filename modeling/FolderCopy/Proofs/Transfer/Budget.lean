import FolderCopy.Proofs.Retry.Attempts
import FolderCopy.Proofs.Transfer.Grounds

/-!
# The attempts behind a failure that might have passed

A transfer that fails with an error that might have passed goes back to a page of a listing or to
the content of a file. A page, and the call for a content, have then been tried as often as the
policy allows. A content that breaks off while it is read has not: it is not asked for again, and
counts as one attempt. Main statement: `transient_spent_iff`.
-/

namespace FolderCopy

namespace Retry

variable {α : Type} {p : Policy} {resource : String}

/-- A call that is settled with an error that might have passed has failed in passing in the last of
its attempts. -/
lemma Policy.after_eq_transient {k n : Nat} {c : CallError} {m : String} (hk : k ≤ p.maxAttempts)
    (h : p.after (α := α) resource k (.error c) = .inl (.error (.transient n m))) :
    c.isRetryable ∧ k = p.maxAttempts ∧ n = p.maxAttempts ∧ m = resource ++ ": " ++ c.message := by
  rcases Policy.after_eq_inl hk h with ⟨a, ha, -⟩ | ⟨c', hc, hlast, hx⟩
  · cases ha
  · cases hc
    unfold Series.resultFrom at hx
    cases ho : c.outlook <;> simp only [ho] at hx
    · cases hx
    · cases hx
    · have hpassing : c.isRetryable := by simp [CallError.isRetryable, ho]
      obtain rfl := hlast hpassing
      cases hx
      exact ⟨hpassing, rfl, rfl, rfl⟩

/-- What is tried again may pass. -/
lemma Retried.isRetryable {cs : List CallError} (h : Retried α p resource cs) :
    ∀ c ∈ cs, c.isRetryable := by
  intro c hc
  obtain ⟨k, hk⟩ := List.mem_iff_getElem?.1 hc
  exact Policy.isRetryable_of_after (h k c hk)

end Retry

namespace Transfer

/-! ## Pages -/

section Pages

variable {j : Job} {disk : Disk} {es : List Event} {s : State}

/-- After failed attempts the same page is asked for. -/
lemma requestAfter_append_errors (before : List (Except CallError Page)) (cs : List CallError) :
    requestAfter (before ++ cs.map .error) =
      { requestAfter before with attempt := (requestAfter before).attempt + cs.length } := by
  unfold requestAfter
  rw [List.foldl_append]
  generalize before.foldl Request.next {} = q
  induction cs generalizing q with
  | nil => rfl
  | cons c cs ih =>
    rw [List.map_cons, List.foldl_cons, ih]
    simp only [Request.next, List.length_cons]
    congr 1
    omega

/-- Answers end in the failures of the page that is asked for, after those to all others. -/
lemma exists_failures (rs : List (Except CallError Page)) :
    ∃ (before : List (Except CallError Page)) (cs : List CallError),
      rs = before ++ cs.map .error ∧ (requestAfter before).attempt = 1 := by
  induction rs using List.reverseRecOn with
  | nil => exact ⟨[], [], rfl, rfl⟩
  | append_singleton rs r ih =>
    cases r with
    | ok p =>
      refine ⟨rs ++ [.ok p], [], (List.append_nil _).symm, ?_⟩
      rw [requestAfter, List.foldl_append]
      rfl
    | error c =>
      obtain ⟨before, cs, rfl, hfresh⟩ := ih
      exact ⟨before, cs ++ [c], by simp, hfresh⟩

/-- The failures of a page were followed by further attempts as those of any other call. -/
lemma Enumerating.retried {before : List (Except CallError Page)} {cs : List CallError}
    (h : Enumerating j (before ++ cs.map .error)) (hfresh : (requestAfter before).attempt = 1) :
    Retry.Retried Page j.policy j.folder cs := by
  intro k c hc
  obtain ⟨hlt, rfl⟩ := List.getElem?_eq_some_iff.1 hc
  have hsplit : cs = cs.take k ++ cs[k] :: cs.drop (k + 1) := by
    rw [List.getElem_cons_drop, List.take_append_drop]
  have hk := h (before ++ (cs.take k).map .error) cs[k] ((cs.drop (k + 1)).map .error) (by
    rw [List.append_assoc, ← List.map_cons, ← List.map_append, ← hsplit])
  rw [requestAfter_append_errors, hfresh, List.length_take,
    Nat.min_eq_left (Nat.le_of_lt hlt)] at hk
  rwa [Nat.add_comm 1 k] at hk

/-- Every answer belongs to a listing call that has been made, the one that was due. -/
lemma Run.getElem?_lists (h : Run j disk es s) {k : Nat} (hk : k < (answers es).length) :
    (s.calls.filter Call.lists)[k]? = some ((requestAfter ((answers es).take k)).call j) := by
  obtain ⟨first, later, copying, n, hp, hcalls⟩ := h.calls_eq
  have hlists : s.calls.filter Call.lists = (first ++ later).map (·.call j) := by
    have hfirst : (first.map (·.call j)).filter Call.lists = first.map (·.call j) :=
      List.filter_eq_self.2 fun c hc => by
        obtain ⟨q, -, rfl⟩ := List.mem_map.1 hc
        rfl
    rw [hcalls]
    simp [List.filter_append, hfirst, hp.listed, Call.lists, Job.deletion]
  have hle : k < (first ++ later).length := Nat.lt_of_lt_of_le hk hp.made.le
  have hat := getElem?_requests (Nat.le_of_lt hk)
  obtain ⟨rest, hrest⟩ := hp.due
  rw [← hrest, List.getElem?_append_left hle] at hat
  rw [hlists, List.getElem?_map, hat]
  rfl

end Pages

/-! ## Content -/

/-- What the calls for a content and its reading have come to where a download has failed. -/
inductive Download.Ending (j : Job) (i : Nat) (entry : Entry) (es : List Event) :
    CopyError → Prop where
  | content {cs c e} (h : Fetched j i entry es cs (.failed c)) (hr : reads es = [])
    (he : j.policy.after (α := Unit) entry.name (cs.length + 1) (.error c) = .inl (.error e)) :
    Ending j i entry es e
  | reading {cs cause} (h : Fetched j i entry es cs .succeeded) (hr : .error cause ∈ reads es) :
    Ending j i entry es (.transient 1 (entry.name ++ ": download interrupted: " ++ cause))
  | fatal {m} : Ending j i entry es (.fatal m)

namespace Download.History

variable {j : Job} {i : Nat} {entry : Entry} {es : List Event} {d : Download} {fs : List Effect}

/-- Nothing is read as long as a content is asked for. -/
lemma reads_eq_nil (h : History j i entry es d fs) {r : Retry.Stage} (hs : d.stage = .fetching r) :
    reads es = [] := by
  induction h generalizing r with
  | scheduled => rfl
  | joined hh ih => exact ih hs
  | move hh hi h ih =>
    cases h with
    | granted hd | started hd | retried hd => exact (reads_snoc_of_none _ rfl).trans (ih hd)
    | _ => cases hs

/-- A download that has failed did so with its content or for good. -/
lemma ending (h : History j i entry es d fs) {e : CopyError} (hs : d.stage = .finished (.error e)) :
    Ending j i entry es e := by
  induction h with
  | scheduled => cases hs
  | joined hh ih => exact ih hs
  | @move es d fs ev d' fs' hh hi h ih =>
    have hentry := hh.entry_eq
    have hfetch := hh.fetching
    cases h with
    | notFetched hd he =>
      cases hs
      cases hi
      have hreads := hh.reads_eq_nil hd
      rw [hd] at hfetch
      rw [hentry] at he
      obtain ⟨cs, hf, rfl⟩ := hfetch
      refine .content (hf.go rfl rfl ?_) ((reads_snoc_of_none es rfl).trans hreads) he
      rintro _ ⟨⟩
      exact ⟨e, he⟩
    | @brokeOff _ cause hd =>
      cases hs
      rw [hd] at hfetch
      obtain ⟨cs, hf⟩ := hfetch
      rw [Download.interrupted, hentry]
      refine .reading (hf.quiet rfl) ?_
      rw [reads_snoc]
      exact List.mem_append_right _ (List.mem_singleton_self _)
    | refused | notOpened | notWritten | notClosed =>
      cases hs
      exact .fatal
    | _ => cases hs

end Download.History

/-! ## The error that is told -/

/-- The error that a transfer is about to tell that it failed with. -/
def Stage.failure? : Stage → Option CopyError
  | .sending (.failed e) .stop => some e
  | _ => none

/-- Where the error of a failed transfer comes from: it cannot pass, or a page was given up with it,
or a download has failed with it. -/
inductive Blame (j : Job) (es : List Event) (ds : List Download) : CopyError → Prop where
  | fatal {m} : Blame j es ds (.fatal m)
  | listing {rs c e} (h : answers es = rs ++ [.error c]) (hon : Enumerating j rs)
    (he : j.policy.after (α := Page) j.folder (requestAfter rs).attempt (.error c) =
      .inl (.error e)) : Blame j es ds e
  | download {i : Nat} {d e} (hd : ds[i]? = some d) (hf : d.stage = .finished (.error e)) :
    Blame j es ds e

section Steps

variable {j : Job} {disk : Disk} {es : List Event} {s s' : State} {e : Event} {err : CopyError}

/-- No failure is on its way out after a page has been counted. -/
lemma State.failure?_countPage (t : Totals) (p : Page) :
    (s.countPage t p).stage.failure? = none := by
  unfold State.countPage
  split <;> rfl

/-- No failure is on its way out after entries have been handed out. -/
lemma State.failure?_supply (entries : List Entry) : (s.supply entries).stage.failure? = none := by
  cases entries with
  | cons e rest => rfl
  | nil =>
    rw [State.supply]
    split <;> rfl

/-- No failure is on its way out when cleaning up begins. -/
lemma State.failure?_cleanUp : (s.cleanUp j).stage.failure? = none := by
  unfold State.cleanUp
  split <;> rfl

/-- No failure is on its way out when the counters are settled. -/
lemma State.failure?_settle : (s.settle j).stage.failure? = none := by
  unfold State.settle
  split
  · rfl
  · exact State.failure?_cleanUp

/-- No failure is on its way out when the main loop goes on. -/
lemma State.failure?_resume (next : Next) : (s.resume j next).stage.failure? = none := by
  cases next with
  | begin_ =>
    show (if j.slots ≤ slotLimit then Stage.looping else .ended).failure? = none
    split <;> rfl
  | loop | stop => rfl
  | cleanUp => exact State.failure?_cleanUp

/-- A turn comes to an error that could not pass, gives up a page or takes a download that has
failed, or the error stood before it. -/
lemma Turn.failing (h : Turn j s e s') (hf : s'.stage.failure? = some err) :
    (s.stage.failure? = some err ∧ e.answer? = none ∧ s'.downloads = s.downloads) ∨
    (∃ m, err = .fatal m) ∨
    (∃ k n c, s.stage = Task.stage k (.calling n) ∧ k.lists ∧ e = .page (.error c) ∧
      j.policy.after (α := Page) j.folder n (.error c) = .inl (.error err)) ∨
    ∃ (i : Nat) (d : Download), s'.downloads[i]? = some d ∧ d.stage = .finished (.error err) := by
  cases h with
  | notCreated | refused =>
    cases hf
    exact .inr (.inl ⟨_, rfl⟩)
  | @notListed k n c _ hl hk he =>
    cases hf
    exact .inr (.inr (.inl ⟨k, n, c, hl, hk, rfl, he⟩))
  | @failed i d _ hl hd hj hd' =>
    cases hf
    have hlt := (List.getElem?_eq_some_iff.1 hd).1
    exact .inr (.inr (.inr ⟨i, _, List.getElem?_set_self hlt, hd'⟩))
  | took | hungUp => exact .inl ⟨hf, rfl, rfl⟩
  | joined hl =>
    cases (congrArg Stage.failure? hl).symm.trans hf
  | @granted k | @started k | @listedAgain k => cases k <;> cases hf
  | counted => cases (State.failure?_countPage _ _).symm.trans hf
  | supplied | acquired => cases (State.failure?_supply _).symm.trans hf
  | drained => cases State.failure?_settle.symm.trans hf
  | sent => cases (State.failure?_resume _).symm.trans hf
  | _ => cases hf

/-- A record is put into the channel where it has been waiting. -/
lemma Turn.of_sent_ne (h : Turn j s e s') (hne : s'.sent ≠ s.sent) :
    e = .send ∧ s'.downloads = s.downloads := by
  cases h with
  | sent =>
    rw [State.resume_eq]
    exact ⟨rfl, rfl⟩
  | counted =>
    rw [State.countPage_eq] at hne
    exact absurd rfl hne
  | supplied | acquired =>
    rw [State.supply_eq] at hne
    exact absurd rfl hne
  | drained =>
    rw [State.settle_eq] at hne
    exact absurd rfl hne
  | _ => exact absurd rfl hne

/-- When a transfer is over, a turn gets no answers and leaves the downloads alone. -/
lemma Turn.of_ended (h : Turn j s e s') (hl : s.stage = .ended) :
    e.answer? = none ∧ s'.downloads = s.downloads := by
  cases h with
  | took | hungUp => exact ⟨rfl, rfl⟩
  | cancelled _ ho =>
    rw [hl] at ho
    cases ho
  | @granted k _ hl' | @refused k _ _ hl' | @started k _ hl' | @notListed k _ _ _ hl'
  | @listedAgain k _ _ hl' => cases k <;> cases hl.symm.trans hl'
  | _ => cases hl.symm.trans ‹_›

/-- A failure that has been told stood before the main loop or had been told before, and nothing
else happens. -/
lemma Turn.told_failed (h : Turn j s e s') (hr : Run j disk es s) (hs : .failed err ∈ s'.sent) :
    (s.stage.failure? = some err ∨ .failed err ∈ s.sent) ∧ e.answer? = none ∧
      s'.downloads = s.downloads := by
  have hst := hr.sound.standing
  have htold := hr.told
  by_cases hbefore : .failed err ∈ s.sent
  · refine ⟨.inr hbefore, h.of_ended ?_⟩
    by_contra hne
    cases htold.progress hst hne hbefore
  · obtain ⟨rfl, hd⟩ := h.of_sent_ne fun heq => hbefore (heq ▸ hs)
    refine ⟨.inl ?_, rfl, hd⟩
    cases h.onRecords with
    | same hsent | took _ hsent | hungUp hsent => exact absurd (hsent ▸ hs) hbefore
    | @sent r next hl _ hsent =>
      rw [hsent, List.mem_append, or_iff_right hbefore, List.mem_singleton] at hs
      subst hs
      rw [hl] at htold ⊢
      cases next with
      | stop => rfl
      | begin_ | loop | cleanUp => cases htold.waiting (by decide)

/-- Events that answer no listing leave the blame for an error where it is. -/
lemma Blame.quiet {ds ds' : List Download} (h : Blame j es ds err) (he : e.answer? = none)
    (hq : Quiet ds ds') : Blame j (es ++ [e]) ds' err := by
  cases h with
  | fatal => exact .fatal
  | listing h hon ha => exact .listing ((answers_snoc_of_none es he).trans h) hon ha
  | download hd hf =>
    obtain ⟨d', hd', -, hs⟩ := hq.kept _ _ hd
    exact .download hd' (hs _ hf)

/-- What a transfer fails with comes from somewhere. -/
lemma Run.blame (h : Run j disk es s)
    (hf : s.stage.failure? = some err ∨ .failed err ∈ s.sent) : Blame j es s.downloads err := by
  induction h with
  | start => rcases hf with hf | hf <;> cases hf
  | @step es s e s' hr h ih =>
    cases h with
    | move hi hd hp hm => exact (ih hf).quiet (Event.answer?_eq_none hi) (.of_move hd hm)
    | turn ht =>
      rcases hf with hf | hs
      · rcases ht.failing hf with
          ⟨hf, ha, hd⟩ | ⟨m, rfl⟩ | ⟨k, n, c, hl, hk, rfl, he⟩ | ⟨i, d, hd, hfin⟩
        · exact (ih (.inl hf)).quiet ha (hd ▸ .rfl)
        · exact .fatal
        · have hdue := hr.due
          have hon := hr.enumerating (by rw [hl]; cases k <;> rfl)
          have hn : (requestAfter (answers es)).attempt = n := by
            rw [hl] at hdue
            cases k with
            | counting | paging => exact hdue.2
            | cleaning => cases hk
          rw [← hn] at he
          exact .listing (answers_snoc _ _) hon he
        · exact .download hd hfin
      · obtain ⟨hbefore, ha, hd⟩ := ht.told_failed hr hs
        exact (ih hbefore).quiet ha (hd ▸ .rfl)

end Steps

/-! ## What has been tried -/

/-- What an error tells of has been tried so many times in a run, and has failed each time: a page
of a listing was asked for, or the content of a file was asked for, the last time maybe to break off
while it was read. -/
inductive Tried (j : Job) (es : List Event) (s : State) (n : Nat) (m : String) : Nat → Prop where
  | page {before : List (Except CallError Page)} {cs : List CallError} {c : CallError}
    (h : answers es = before ++ (cs ++ [c]).map .error)
    (hcalls : ∀ k < (cs ++ [c]).length, (s.calls.filter Call.lists)[before.length + k]? =
      some ((requestAfter before).call j))
    (hpassing : ∀ e ∈ cs ++ [c], e.isRetryable) (hm : m = j.folder ++ ": " ++ c.message) :
    Tried j es s n m (cs ++ [c]).length
  | content {i : Nat} {d : Download} {cs : List CallError} {c : CallError}
    (hd : s.downloads[i]? = some d) (hf : d.stage = .finished (.error (.transient n m)))
    (h : fetchesOf i es = failedFetches i (cs ++ [c]))
    (hpassing : ∀ e ∈ cs ++ [c], e.isRetryable) (hm : m = d.entry.name ++ ": " ++ c.message) :
    Tried j es s n m (cs ++ [c]).length
  | reading {i : Nat} {d : Download} {cs : List CallError} {cause : String}
    (hd : s.downloads[i]? = some d) (hf : d.stage = .finished (.error (.transient n m)))
    (h : fetchesOf i es = failedFetches i cs ++ [.start (.download i), .stream i (.ok ())])
    (hr : .error cause ∈ reads (eventsOf i es)) (hpassing : ∀ e ∈ cs, e.isRetryable)
    (hm : m = d.entry.name ++ ": download interrupted: " ++ cause) :
    Tried j es s n m (cs.length + 1)

/-- Whether a download has failed with an error that might have passed when its content broke off.
-/
def BrokenOff (es : List Event) (s : State) (n : Nat) (m : String) : Prop :=
  ∃ (i : Nat) (d : Download) (cause : String), s.downloads[i]? = some d ∧
    d.stage = .finished (.error (.transient n m)) ∧ .error cause ∈ reads (eventsOf i es)

section Runs

variable {j : Job} {disk : Disk} {es : List Event} {s : State} {n : Nat} {m : String}

/-- One more failed attempt comes after all failed ones before it. -/
lemma failedFetches_concat (i : Nat) (cs : List CallError) (c : CallError) :
    failedFetches i (cs ++ [c]) = failedFetches i cs ++ (LastFetch.failed c).events i := by
  simp [failedFetches, LastFetch.events]

/-- A page that was given up was tried as often as the policy allows. -/
lemma Run.tried_page (h : Run j disk es s) {rs : List (Except CallError Page)} {c : CallError}
    (hrs : answers es = rs ++ [.error c]) (hon : Enumerating j rs)
    (he : j.policy.after (α := Page) j.folder (requestAfter rs).attempt (.error c) =
      .inl (.error (.transient n m))) :
    n = j.policy.maxAttempts ∧ Tried j es s n m j.policy.maxAttempts := by
  obtain ⟨before, cs, rfl, hfresh⟩ := exists_failures rs
  have hretried := hon.retried hfresh
  have hlt := hretried.length_lt
  rw [requestAfter_append_errors, hfresh] at he
  obtain ⟨hpassing, hk, hn, hm⟩ := Retry.Policy.after_eq_transient (by dsimp only; omega) he
  refine ⟨hn, ?_⟩
  have hanswers : answers es = before ++ (cs ++ [c]).map .error := by
    rw [hrs, List.append_assoc, List.map_append]
    rfl
  have hlength : (cs ++ [c]).length = j.policy.maxAttempts := by
    rw [← hk, List.length_append, Nat.add_comm]
    rfl
  rw [← hlength]
  refine .page hanswers ?_ ?_ hm
  · intro k hk
    have hlt : before.length + k < (answers es).length := by
      rw [hanswers, List.length_append, List.length_map]
      omega
    rw [h.getElem?_lists hlt, hanswers, List.take_length_add_append, List.map_take.symm,
      requestAfter_append_errors]
    rfl
  · intro e he
    rcases List.mem_append.1 he with he | he
    · exact hretried.isRetryable e he
    · rw [List.mem_singleton.1 he]
      exact hpassing

/-- A content that was given up was asked for as often as the policy allows, or broke off in the one
attempt that the error tells of. -/
lemma Run.tried_content (h : Run j disk es s) {i : Nat} {d : Download}
    (hd : s.downloads[i]? = some d) (hf : d.stage = .finished (.error (.transient n m))) :
    (n = j.policy.maxAttempts ∧ Tried j es s n m j.policy.maxAttempts ∧
      reads (eventsOf i es) = []) ∨
    n = 1 ∧ BrokenOff es s n m ∧ ∃ k < j.policy.maxAttempts, Tried j es s n m (k + 1) := by
  obtain ⟨fs, hrec⟩ := h.chronicle.recorded i d hd
  generalize he : CopyError.transient n m = e at hf
  cases hrec.history.ending hf with
  | @content cs c _ hfetched hr ha =>
    have hretried := hfetched.retried
    have hlt := hretried.length_lt
    subst he
    obtain ⟨hpassing, hk, hn, hm⟩ := Retry.Policy.after_eq_transient hlt ha
    refine .inl ⟨hn, ?_, hr⟩
    have hlength : (cs ++ [c]).length = j.policy.maxAttempts := by
      rw [← hk, List.length_append]
      rfl
    rw [← hlength]
    refine .content hd hf ?_ ?_ hm
    · rw [failedFetches_concat]
      exact hfetched.events
    · intro e he
      rcases List.mem_append.1 he with he | he
      · exact hretried.isRetryable e he
      · rw [List.mem_singleton.1 he]
        exact hpassing
  | @reading cs cause hfetched hr =>
    cases he
    have hretried := hfetched.retried
    exact .inr ⟨rfl, ⟨i, d, cause, hd, hf, hr⟩, cs.length, hretried.length_lt,
      .reading hd hf hfetched.events hr hretried.isRetryable rfl⟩
  | fatal => cases he

end Runs

/-- A transfer that fails with an error that might have passed goes back to something that was tried
within the budget and failed each time. Where the content of a file broke off, the error tells of
one attempt. The budget is spent exactly where it allows for no more than one attempt or no content
broke off. -/
theorem transient_spent_iff {j : Job} {disk : Disk} {es : List Event} {s : State} {n : Nat}
    {m : String} (h : run j (.start j disk) es = some s) (hm : .failed (.transient n m) ∈ s.sent) :
    (∃ tries ≤ j.policy.maxAttempts, Tried j es s n m tries) ∧
    (BrokenOff es s n m → n = 1) ∧
    (n = j.policy.maxAttempts ∧ Tried j es s n m j.policy.maxAttempts ↔
      j.policy.maxAttempts = 1 ∨ ¬ BrokenOff es s n m) := by
  have hr := Run.of_run h
  have hbroken : BrokenOff es s n m → n = 1 := by
    rintro ⟨i, d, cause, hd, hf, hcause⟩
    rcases hr.tried_content hd hf with ⟨-, -, hreads⟩ | ⟨hn, -⟩
    · rw [hreads] at hcause
      cases hcause
    · exact hn
  have hspent : (n = j.policy.maxAttempts ∧ Tried j es s n m j.policy.maxAttempts) ∨
      n = 1 ∧ BrokenOff es s n m ∧ ∃ k < j.policy.maxAttempts, Tried j es s n m (k + 1) := by
    generalize he : CopyError.transient n m = err at hm
    cases hr.blame (.inr hm) with
    | fatal => cases he
    | listing hrs hon ha =>
      subst he
      exact .inl (hr.tried_page hrs hon ha)
    | download hd hf =>
      subst he
      exact (hr.tried_content hd hf).imp_left fun ⟨hn, ht, _⟩ => ⟨hn, ht⟩
  refine ⟨?_, hbroken, ?_, ?_⟩
  · rcases hspent with ⟨-, ht⟩ | ⟨-, -, k, hk, ht⟩
    · exact ⟨_, Nat.le_refl _, ht⟩
    · exact ⟨k + 1, hk, ht⟩
  · rintro ⟨hn, -⟩
    exact or_iff_not_imp_right.2 fun hb => hn.symm.trans (hbroken (not_not.1 hb))
  · intro hone
    rcases hspent with hs | ⟨hn, hb, k, hk, ht⟩
    · exact hs
    · -- With one attempt the broken content is the first and the last one.
      have hM := hone.resolve_right (not_not.2 hb)
      obtain rfl : k = 0 := by omega
      rw [hM]
      exact ⟨hn, ht⟩

/-- A job that copies a folder with one download at a time and two attempts for each call. -/
def busyJob : Job where
  folder := "f"
  destination := "/out"
  concurrency := 1
  deleteAfter := false
  policy := .ofNat 2

/-- What a run of a job for one file begins with, up to the call for its content. -/
def untilContent : List Event :=
  let listing : List Event :=
    [.admission .main (.ok ()), .start .main, .page (.ok ⟨[⟨"1", "x", some 2⟩], none⟩)]
  [.directory (.ok ())] ++ listing ++ [.send, .acquire] ++ listing

/-- A run in which the store is busy whenever the file is asked for. -/
def busyRun : List Event :=
  let fetching : List Event :=
    [.admission (.download 0) (.ok ()), .start (.download 0),
      .stream 0 (.error (.httpStatus 503 "busy"))]
  untilContent ++ fetching ++ fetching ++ [.join 0, .send]

/-- The file was asked for as often as the error says. -/
theorem transient_spent_iff_busy :
    ∃ s, run busyJob (.start busyJob {}) busyRun = some s ∧
      .failed (.transient 2 "x: HTTP status 503: busy") ∈ s.sent ∧
      Tried busyJob busyRun s 2 "x: HTTP status 503: busy" 2 := by
  obtain ⟨s, h, hm⟩ : ∃ s, run busyJob (.start busyJob {}) busyRun = some s ∧
      .failed (.transient 2 "x: HTTP status 503: busy") ∈ s.sent :=
    ⟨_, rfl, List.mem_of_getElem? (i := 1) rfl⟩
  obtain ⟨-, hbroken, hspent⟩ := transient_spent_iff h hm
  refine ⟨s, h, hm, (hspent.2 (.inr ?_)).2⟩
  intro hb
  cases hbroken hb

/-- A job like that with three attempts for each call. -/
def brokenJob : Job :=
  { busyJob with policy := .standard }

/-- A run in which the content breaks off behind its first byte. -/
def brokenRun : List Event :=
  untilContent ++
    [.admission (.download 0) (.ok ()), .start (.download 0), .stream 0 (.ok ()),
      .opened 0 (.ok ()), .read 0 (.ok [1]), .written 0 (.ok ()), .read 0 (.error "reset"), .join 0,
      .send]

/-- The error tells of one attempt where three are allowed, and no other was made. -/
theorem broken_content_not_retried :
    ∃ s, run brokenJob (.start brokenJob {}) brokenRun = some s ∧
      .failed (.transient 1 "x: download interrupted: reset") ∈ s.sent ∧
      brokenJob.policy.maxAttempts = 3 ∧ s.calls.filterMap Call.fetched? = ["1"] ∧
      fetchesOf 0 brokenRun = [.start (.download 0), .stream 0 (.ok ())] :=
  ⟨_, rfl, List.mem_of_getElem? (i := 1) rfl, rfl, rfl, rfl⟩

end Transfer

end FolderCopy
