import FolderCopy.Proofs.Transfer.Account
import FolderCopy.Proofs.Transfer.Records

/-!
# Deletion

The remote folder is the only copy until all of its files are stored. It is deleted at the very end
of a transfer: the calls that delete it are the last calls of all, and before the first of them
every file that was listed has been copied, and its copying has been applied to the counters and
told.
-/

namespace FolderCopy.Transfer

/-- The call that deletes the folder of a job. -/
def Job.deletion (j : Job) : Call :=
  .store (.delete j.folder)

/-- Whether a call deletes a folder, be it that of the job or another. -/
def Call.deletes : Call → Bool
  | .store (.delete _) => true
  | _ => false

/-- How often the deletion has been called when the main loop stands at a stage. -/
def Attempted (p : Retry.Policy) (k : Nat) : Stage → Prop
  | .cleaning (.asking n) | .cleaning (.admitted n) => n = k + 1 ∧ n ≤ p.maxAttempts
  | .cleaning (.calling n) => n = k ∧ n ≤ p.maxAttempts
  | .sending (.completed _) .stop | .ended => k ≤ p.maxAttempts
  | _ => k = 0

/-- What comes before the deletion of the remote folder. -/
structure Deletable (j : Job) (es : List Event) (s : State) : Prop where
  asked : j.deleteAfter
  listings : listingsRead es = 2
  drained : s.Drained
  told : s.loopRecords <+: s.sent

/-- What a run has called. -/
structure Deleting (j : Job) (es : List Event) (s : State) (k : Nat) : Prop where
  calls : ∃ before, s.calls = before ++ List.replicate k j.deletion ∧ ∀ c ∈ before, ¬ c.deletes
  attempted : Attempted j.policy k s.stage
  deletable : 0 < k → Deletable j es s

/-- The deletion has not been called where it has not been begun. -/
lemma Attempted.zero {p : Retry.Policy} {st : Stage} (h : ∀ r, st = .cleaning r → r = .first) :
    Attempted p 0 st := by
  cases st with
  | cleaning r =>
    cases h r rfl
    exact ⟨rfl, p.pos⟩
  | sending r next =>
    cases r with
    | progress u | failed e => cases next <;> rfl
    | completed c =>
      cases next with
      | stop => exact Nat.zero_le _
      | _ => rfl
  | ended => exact Nat.zero_le _
  | _ => rfl

/-- The deletion is called as often as the policy allows at most. -/
lemma Attempted.le {p : Retry.Policy} {k : Nat} {st : Stage} (h : Attempted p k st) :
    k ≤ p.maxAttempts := by
  unfold Attempted at h
  split at h <;> omega

section Steps

variable {j : Job} {es : List Event} {s s' : State} {e : Event} {k : Nat}

/-- The calls of a download delete nothing. -/
lemma Download.Move.not_deletes {d d' : Download} {fs : List Effect}
    (h : Download.Move j d e d' fs) : ∀ c ∈ fs.filterMap Effect.call?, ¬ c.deletes := by
  cases h <;> simp [Effect.call?, Call.deletes]

/-- A turn starts no call, or a listing before any deletion, or one more deletion. -/
inductive Turn.OnCalls (j : Job) (s s' : State) (k : Nat) : Prop where
  | same (h : s'.calls = s.calls) (ha : Attempted j.policy k s'.stage)
  | listing {t : Task} (ht : t.lists) (h : s'.calls = s.calls ++ [.store (t.call j s)])
    (hk : k = 0) (ha : Attempted j.policy k s'.stage)
  | deletion {n : Nat} (h : s'.calls = s.calls ++ [j.deletion])
    (hs : s'.stage = .cleaning (.calling n)) (ha : Attempted j.policy (k + 1) s'.stage)

/-- The deletion has not been called where it is seen to first. -/
lemma Attempted.cleanUp (p : Retry.Policy) : Attempted p 0 (s.cleanUp j).stage := by
  refine .zero ?_
  intro r hr
  unfold State.cleanUp at hr
  split at hr <;> cases hr
  rfl

/-- No deletion has been called where an entry is supplied. -/
lemma Attempted.supply (p : Retry.Policy) (entries : List Entry) :
    Attempted p 0 (s.supply entries).stage := by
  cases entries with
  | cons e rest => rfl
  | nil =>
    rw [State.supply]
    split <;> rfl

/-- What a turn calls goes with where the main loop stands. -/
lemma Turn.onCalls (h : Attempted j.policy k s.stage) (ht : Turn j s e s') :
    Turn.OnCalls j s s' k := by
  cases ht with
  | created hl | notCreated hl | folded hl | failed hl =>
    rw [hl] at h
    exact .same rfl h
  | @granted t n hl =>
    rw [hl] at h
    refine .same rfl ?_
    cases t <;> exact h
  | @refused t n c hl ht | @notListed t n c e hl ht =>
    rw [hl] at h
    refine .same rfl ?_
    cases t with
    | cleaning => cases ht
    | counting | paging => exact h
  | @listedAgain t n c hl ht =>
    rw [hl] at h
    refine .same rfl ?_
    cases t with
    | cleaning => cases ht
    | counting | paging => exact h
  | deletionRefused hl | deleted hl | notDeleted hl =>
    rw [hl] at h
    exact .same rfl h.le
  | deletedAgain hl hr =>
    rw [hl] at h
    obtain ⟨rfl, -⟩ := h
    obtain ⟨_, -, hlt, -⟩ := Retry.Policy.after_inr hr
    exact .same rfl ⟨rfl, hlt⟩
  | @started t n hl =>
    rw [hl] at h
    cases t with
    | counting c t => exact .listing rfl rfl h h
    | paging => exact .listing rfl rfl h h
    | cleaning => exact .deletion rfl rfl h
  | counted hl =>
    rw [hl] at h
    refine .same (by rw [State.countPage_eq]) ?_
    unfold State.countPage
    split <;> exact h
  | supplied hl | acquired hl =>
    rw [hl] at h
    cases h
    exact .same (by rw [State.supply_eq]) (.supply _ _)
  | joined hl => exact .same rfl h
  | drained hl =>
    rw [hl] at h
    cases h
    refine .same (by rw [State.settle_eq]) ?_
    unfold State.settle
    split
    · rfl
    · exact .cleanUp _
  | @sent r next hl =>
    rw [hl] at h
    refine .same (by rw [State.resume_eq]) ?_
    cases next with
    | stop => exact h.le
    | begin_ =>
      cases r <;> cases h
      all_goals
        show Attempted _ 0 (if j.slots ≤ slotLimit then .looping else .ended)
        split
        · rfl
        · exact Nat.zero_le _
    | loop => cases r <;> exact h
    | cleanUp =>
      cases r <;> cases h
      all_goals exact .cleanUp _
  | unheard | cancelled => exact .same rfl h.le
  | took | hungUp => exact .same rfl h

/-- What comes before the deletion is still so after a step that leaves it alone. -/
lemma Deletable.kept (h : Deletable j es s) (he : listingsRead (es ++ [e]) = listingsRead es)
    (hd : s.Drained → s'.Drained) (hl : s'.loopRecords = s.loopRecords) (hs : s.sent <+: s'.sent) :
    Deletable j (es ++ [e]) s' :=
  ⟨h.asked, he.trans h.listings, hd h.drained, hl ▸ h.told.trans hs⟩

/-- What comes before the deletion holds when the remote folder is seen to. -/
lemma Deletable.of_cleaning {r : Retry.Stage} (hc : Course j es s (.cleaning r))
    (hst : s.Standing (.cleaning r)) (ht : s.Told j es (.cleaning r)) : Deletable j es s := by
  obtain ⟨-, hl, -, ha⟩ := hc
  refine ⟨ha, hl, hst, ?_⟩
  rw [show s.sent = s.loopRecords ++ s.settling from ht]
  exact List.prefix_append _ _

/-- A turn after the first deletion keeps what came before it. -/
lemma Deletable.turn (h : Deletable j es s) (hk : 0 < k) (ha : Attempted j.policy k s.stage)
    (ht : Turn j s e s') : Deletable j (es ++ [e]) s' := by
  cases ht with
  | created hl | counted hl | supplied hl | acquired hl | joined hl | failed hl | folded hl
  | drained hl =>
    -- Nothing has been deleted at these stages.
    rw [hl] at ha
    cases ha
    cases hk
  | deleted =>
    exact h.kept (by simp [Event.endsListing]) (fun hd => hd.kept) rfl List.prefix_rfl
  | sent =>
    rw [State.resume_eq]
    exact h.kept (listingsRead_of_not_advances es rfl) (fun hd => hd.kept) rfl
      (List.prefix_append _ _)
  | _ =>
    exact h.kept (listingsRead_of_not_advances es rfl) (fun hd => hd.kept) rfl
      List.prefix_rfl

/-- A turn keeps the deletions behind all other calls. -/
lemma Deleting.turn {disk : Disk} (h : Deleting j es s k) (hr : Run j disk es s)
    (ht : Turn j s e s') : ∃ k', Deleting j (es ++ [e]) s' k' := by
  obtain ⟨⟨before, hcalls, hbefore⟩, ha, hd⟩ := h
  have hd' (hk : 0 < k) : Deletable j (es ++ [e]) s' := (hd hk).turn hk ha ht
  cases ht.onCalls ha with
  | same hc ha' => exact ⟨k, ⟨before, hc.trans hcalls, hbefore⟩, ha', hd'⟩
  | @listing t hl hc hk ha' =>
    subst hk
    refine ⟨0, ⟨before ++ [.store (t.call j s)], ?_, ?_⟩, ha', hd'⟩
    · rw [hc, hcalls]
      simp
    · intro c hmem
      rcases List.mem_append.1 hmem with hmem | hmem
      · exact hbefore c hmem
      · cases List.mem_singleton.1 hmem
        cases t with
        | cleaning => cases hl
        | counting | paging => exact Bool.false_ne_true
  | @deletion n hc hs ha' =>
    refine ⟨k + 1, ⟨before, ?_, hbefore⟩, ha', fun _ => ?_⟩
    · rw [hc, hcalls, List.replicate_succ', List.append_assoc]
    -- What has come before is read off the stage at which the deletion was called.
    · have hr' := hr.step (.turn ht)
      have hc' := hr'.course
      have hst' := hr'.sound.standing
      have ht' := hr'.told
      rw [hs] at hc' hst' ht'
      exact .of_cleaning hc' hst' ht'

/-- What a download calls comes before all deletions. -/
lemma Deleting.move {i : Nat} {d d' : Download} {fs : List Effect} (h : Deleting j es s k)
    (hd : s.downloads[i]? = some d) (hm : Download.Move j d e d' fs) :
    Deleting j (es ++ [e]) (s.advance j i d' fs) k := by
  obtain ⟨⟨before, hcalls, hbefore⟩, ha, hdel⟩ := h
  rcases Nat.eq_zero_or_pos k with rfl | hk
  · refine ⟨⟨before ++ fs.filterMap Effect.call?, ?_, ?_⟩, ha, nofun⟩
    · show s.calls ++ _ = _
      rw [hcalls]
      simp
    · intro c hmem
      rcases List.mem_append.1 hmem with hmem | hmem
      · exact hbefore c hmem
      · exact hm.not_deletes c hmem
  -- After the first deletion all downloads have finished.
  · exact ((hdel hk).drained.not_move hd hm).elim

end Steps

/-- A run deletes after everything else. -/
theorem Run.deleting {j : Job} {disk : Disk} {es : List Event} {s : State} (h : Run j disk es s) :
    ∃ k, Deleting j es s k := by
  induction h with
  | start =>
    refine ⟨0, ⟨[.createDirectory j.destination], rfl, ?_⟩, rfl, nofun⟩
    simp [Call.deletes]
  | step hr h ih =>
    obtain ⟨k, hk⟩ := ih
    cases h with
    | turn ht => exact hk.turn hr ht
    | move hi hd hp hm => exact ⟨k, hk.move hd hm⟩

/-! ## What is copied before -/

/-- The download number `i` has copied an entry: its local file was opened, given all that was read
up to the end of the content, and closed, and its completion has been applied and told. -/
structure Copied (es : List Event) (s : State) (i : Nat) (entry : Entry) : Prop where
  download : (s.downloads[i]?.map (·.entry)) = some entry
  events : [.opened i (.ok ()), .read i (.ok []), .closed i (.ok ())].Sublist es
  stored : chunksStored (eventsOf i es) = chunksRead (eventsOf i es)
  told : ∃ m < s.folded, s.deltas[m]? = some ⟨i, .completed⟩ ∧
    s.sent[m + 1]? = some (.ofSnapshot (s.leftAfter (m + 1)))

/-- A download that has finished well has stored all that it has read. -/
lemma Download.History.stored {j : Job} {i : Nat} {entry : Entry} {es : List Event} {d : Download}
    {fs : List Effect} (h : History j i entry es d fs) (hf : d.stage = .finished (.ok ())) :
    chunksStored es = chunksRead es := by
  have hp := h.pace
  rw [hf] at hp
  rw [chunksStored, show es.countP Event.finishesChunk = _ from hp, List.take_length]

/-- When the remote folder may be deleted, every entry of the listing has been copied. -/
lemma Deletable.copied {j : Job} {disk : Disk} {es : List Event} {s : State}
    (h : Deletable j es s) (hr : Run j disk es s) {i : Nat} {entry : Entry}
    (hi : (entriesListed es)[i]? = some entry) : Copied es s i entry := by
  have hs := hr.sound
  rw [← hr.listed.2, hs.schedule, (hs.exhausted h.drained.exhausted).2, List.append_nil,
    List.getElem?_map] at hi
  obtain ⟨d, hd, hentry⟩ := Option.map_eq_some_iff.1 hi
  have hf := h.drained.copied d (List.mem_of_getElem? hd)
  obtain ⟨fs, hrec⟩ := hr.chronicle.recorded i d hd
  have hm := hrec.history.milestones
  rw [hf] at hm
  refine ⟨hi, hm.trans List.filter_sublist, hrec.history.stored hf, ?_⟩
  -- The completion stands at some place `m` of the changes; all of them have been applied, and the
  -- record that was told of this one stands one place further, behind the baseline.
  have hclosed : (eventsOf i es).any Event.closesFile :=
    (any_closesFile_iff hrec.history.download?_eq).2 (hm.subset (by simp))
  have hmem : .completed ∈ changesOf i s.deltas := by
    rw [hrec.changes, hrec.history.reports, if_pos hclosed]
    simp
  obtain ⟨m, hm, hc⟩ := List.mem_iff_getElem.1 (mem_changesOf.1 hmem)
  have hlt : m < s.folded := h.drained.folded ▸ hm
  refine ⟨m, hlt, by rw [List.getElem?_eq_getElem hm, hc], ?_⟩
  obtain ⟨rest, hrest⟩ := h.told
  have hrecord := State.getElem?_loopRecords hs.folded_le (Nat.succ_le_of_lt hlt)
  rw [← hrest, List.getElem?_append_left (List.getElem?_eq_some_iff.1 hrecord).1, hrecord]

/-- A transfer deletes no folder but its own, after all other calls and no more often than its
policy allows; and only if that was asked for, both listings were read to their end, and every entry
of the second one has been copied. -/
theorem deletion_after_copying {j : Job} {disk : Disk} {es : List Event} {s : State}
    (h : run j (.start j disk) es = some s) :
    ∃ before k, s.calls = before ++ List.replicate k (.store (.delete j.folder)) ∧
      (∀ c ∈ before, ¬ c.deletes) ∧ k ≤ j.policy.maxAttempts ∧
      (0 < k → j.deleteAfter ∧ listingsRead es = 2 ∧ s.cursor = .finished ∧
        ∀ i entry, (entriesListed es)[i]? = some entry → Copied es s i entry) := by
  have hr := Run.of_run h
  obtain ⟨k, ⟨before, hcalls, hbefore⟩, ha, hd⟩ := hr.deleting
  refine ⟨before, k, hcalls, hbefore, ha.le, ?_⟩
  intro hk
  have hdel := hd hk
  refine ⟨hdel.asked, hdel.listings, ?_, fun i entry hi => hdel.copied hr hi⟩
  have hfin := (hr.sound.exhausted hdel.drained.exhausted).1
  cases hc : s.cursor with
  | finished => rfl
  | start | page => simp [hc, Cursor.isFinished] at hfin

/-- A job that copies a folder with one download at a time and then deletes it in two attempts at
most. -/
def deletingJob : Job where
  folder := "f"
  destination := "d"
  concurrency := 1
  deleteAfter := true
  policy := .ofNat 2

/-- A run of this job with two files, where the deletion succeeds at the second attempt. -/
def deletingRun : List Event :=
  let entries := [⟨"a", "x", some 3⟩, ⟨"b", "y", none⟩]
  let listing := [.admission .main (.ok ()), .start .main, .page (.ok ⟨entries, none⟩)]
  let fetching (i : Nat) : List Event :=
    [.admission (.download i) (.ok ()), .start (.download i), .stream i (.ok ()),
      .opened i (.ok ())]
  let removing (r : Except CallError Unit) : List Event :=
    [.admission .main (.ok ()), .start .main, .removal r]
  .directory (.ok ()) :: listing ++ [.send, .acquire] ++ listing ++ fetching 0 ++
    [.read 0 (.ok [1, 2, 3]), .stored 0 1, .written 0 (.ok ()), .read 0 (.ok []),
      .closed 0 (.ok ()), .acquire, .fold, .send] ++ fetching 1 ++
    [.join 0, .read 1 (.ok []), .closed 1 (.ok ()), .join 1, .acquire, .fold, .take, .send, .fold,
      .send, .drain] ++ removing (.error (.failed "busy")) ++ removing (.ok ()) ++ [.send]

/-- This run calls the deletion twice, after both files. -/
theorem deletion_after_copying_two_files :
    ∃ s, run deletingJob (.start deletingJob {}) deletingRun = some s ∧
      s.calls.countP Call.deletes = 2 ∧
      ∃ before k, s.calls = before ++ List.replicate k (.store (.delete "f")) ∧
        (∀ c ∈ before, ¬ c.deletes) ∧ k ≤ 2 ∧
        (0 < k → deletingJob.deleteAfter ∧ listingsRead deletingRun = 2 ∧ s.cursor = .finished ∧
          ∀ i entry, (entriesListed deletingRun)[i]? = some entry →
            Copied deletingRun s i entry) := by
  have h : run deletingJob (.start deletingJob {}) deletingRun = some _ := rfl
  exact ⟨_, h, rfl, deletion_after_copying h⟩

end FolderCopy.Transfer
