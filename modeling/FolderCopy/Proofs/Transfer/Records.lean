import FolderCopy.Proofs.Transfer.Course

/-!
# The status records of a transfer

Which records have been put into the channel is fixed by the changes that were applied and by where
the main loop stands: the baseline, one record for each applied change, at the end of the loop one
that brings the counters to zero where they are not there yet, and one terminal record.
-/

namespace FolderCopy.Transfer

namespace State

/-- The baseline and one record for each change that was applied. -/
def loopRecords (s : State) : List Status :=
  (s.applied.scanl Progress.Snapshot.apply s.baseline).map .ofSnapshot

/-- What is left to do after the first `n` changes. -/
def leftAfter (s : State) (n : Nat) : Progress.Snapshot :=
  ((s.deltas.take n).map (·.delta)).foldl Progress.Snapshot.apply s.baseline

/-- The record that brings the counters to zero, where they are not there yet. -/
def settling (s : State) : List Status :=
  s.left.settle?.toList.map .ofSnapshot

/-- The progress that can have been told: some records of the loop, or all of them and the one that
brings the counters to zero. -/
def SoFar (s : State) (rs : List Status) : Prop :=
  rs <+: s.loopRecords ∨ s.Drained ∧ rs = s.loopRecords ++ s.settling

/-- The records of a transfer that has ended. -/
inductive Ending (j : Job) (es : List Event) (s : State) : List Status → Prop where
  /-- It was stopped before it came to anything, since nobody listens or since its slots cannot be
  kept count of. -/
  | cut {rs} (hl : s.listening = false ∨ slotLimit < j.slots)
    (h : s.SoFar rs) : Ending j es s rs
  /-- It failed before the files were counted. -/
  | failedEarly {e} (h : listingsRead es = 0) : Ending j es s [.failed e]
  | failed {e} : Ending j es s (s.loopRecords ++ [.failed e])
  | completed {c} (h : s.Drained) : Ending j es s (s.loopRecords ++ s.settling ++ [.completed c])

/-- The records that have been put into the channel when the main loop stands at a stage. -/
def Told (j : Job) (es : List Event) (s : State) : Stage → Prop
  | .creating | .counting .. => s.sent = []
  | .sending r .begin_ => s.sent = [] ∧ r = .ofSnapshot s.baseline
  | .looping | .paging _ => s.sent = s.loopRecords
  | .sending r .loop => s.sent ++ [r] = s.loopRecords
  | .sending r .cleanUp => s.sent = s.loopRecords ∧ s.settling = [r]
  | .cleaning _ | .sending (.completed _) .stop => s.sent = s.loopRecords ++ s.settling
  | .sending (.failed _) .stop => s.sent = [] ∧ listingsRead es = 0 ∨ s.sent = s.loopRecords
  | .sending (.progress _) .stop => False
  | .ended => Ending j es s s.sent

/-- Neither the loop nor its end tells a terminal record. -/
lemma isTerminal_eq_false {s : State} {r : Status} (hr : r ∈ s.loopRecords ++ s.settling) :
    r.isTerminal = false := by
  rw [loopRecords, settling, ← List.map_append] at hr
  obtain ⟨p, -, rfl⟩ := List.mem_map.1 hr
  rfl

/-- What can have been told is the beginning of what the loop and its end tell. -/
lemma SoFar.le {s : State} {rs : List Status} (h : s.SoFar rs) :
    rs <+: s.loopRecords ++ s.settling := by
  rcases h with h | ⟨-, rfl⟩
  · exact h.trans (List.prefix_append _ _)
  · exact List.prefix_rfl

/-- What can have been told stays so where the records of the loop and of its end stay. -/
lemma SoFar.congr {s s' : State} {rs : List Status} (h : s.SoFar rs)
    (hloop : s'.loopRecords = s.loopRecords) (hset : s'.settling = s.settling)
    (hd : s.Drained → s'.Drained) : s'.SoFar rs := by
  rw [SoFar, hloop, hset]
  exact h.imp_right fun h => ⟨hd h.1, h.2⟩

/-- A transfer that has told its completion was drained, and has told of the loop and its end. -/
lemma Ending.of_completed {j : Job} {es : List Event} {s : State} {rs : List Status}
    (h : Ending j es s rs) {c : Cleanup} (hc : .completed c ∈ rs) :
    s.Drained ∧ rs = s.loopRecords ++ s.settling ++ [.completed c] := by
  cases h with
  | cut hl h => cases isTerminal_eq_false (h.le.subset hc)
  | failedEarly => simp at hc
  | failed =>
    rcases List.mem_append.1 hc with hc | hc
    · cases isTerminal_eq_false (List.mem_append_left _ hc)
    · simp at hc
  | completed h =>
    rcases List.mem_append.1 hc with hc | hc
    · cases isTerminal_eq_false hc
    · cases List.mem_singleton.1 hc
      exact ⟨h, rfl⟩

/-- Before the end only progress has been told. -/
lemma Told.before_end {j : Job} {es : List Event} {s : State} {st : Stage} (h : s.Told j es st)
    (hst : s.Standing st) (ho : st ≠ .ended) : s.SoFar s.sent := by
  unfold Told at h
  split at h
  case h_1 | h_2 =>
    rw [h]
    exact .inl List.nil_prefix
  case h_3 =>
    rw [h.1]
    exact .inl List.nil_prefix
  case h_4 | h_5 =>
    rw [h]
    exact .inl List.prefix_rfl
  case h_6 => exact .inl (h ▸ List.prefix_append _ _)
  case h_7 =>
    rw [h.1]
    exact .inl List.prefix_rfl
  case h_8 | h_9 => exact .inr ⟨hst, h⟩
  case h_10 =>
    rcases h with ⟨h, -⟩ | h
    · rw [h]
      exact .inl List.nil_prefix
    · rw [h]
      exact .inl List.prefix_rfl
  case h_11 => exact h.elim
  case h_12 => exact absurd rfl ho

/-- Before a transfer is over it has told of progress only. -/
lemma Told.progress {j : Job} {es : List Event} {s : State} {st : Stage} (h : s.Told j es st)
    (hst : s.Standing st) (ho : st ≠ .ended) {r : Status} (hr : r ∈ s.sent) :
    r.isTerminal = false :=
  isTerminal_eq_false ((h.before_end hst ho).le.subset hr)

/-- What has been told stays where the records and the changes stay. -/
lemma Told.congr {j : Job} {es es' : List Event} {s s' : State} {st : Stage} (h : s.Told j es st)
    (hl : listingsRead es' = listingsRead es) (hn : s.listening = false → s'.listening = false)
    (hsent : s'.sent = s.sent) (hb : s'.baseline = s.baseline) (ha : s'.applied = s.applied)
    (hd : s.Drained → s'.Drained) : s'.Told j es' st := by
  have hleft : s'.left = s.left := by rw [left, left, hb, ha]
  have hloop : s'.loopRecords = s.loopRecords := by rw [loopRecords, loopRecords, hb, ha]
  have hset : s'.settling = s.settling := by rw [settling, settling, hleft]
  unfold Told at h ⊢
  rw [hsent, hloop, hset, hb, hl]
  split at h
  case h_12 =>
    -- The records are an index of `Ending`, so they are generalized before its cases.
    revert h
    generalize s.sent = rs
    intro h
    cases h with
    | cut hcut h => exact .cut (hcut.imp_left hn) (h.congr hloop hset hd)
    | failedEarly h => exact .failedEarly (hl.trans h)
    | failed =>
      rw [← hloop]
      exact .failed
    | completed h =>
      rw [← hloop, ← hset]
      exact .completed (hd h)
  all_goals exact h

/-- The record of one more change. -/
lemma loopRecords_succ {s : State} {c : Change} (hc : s.deltas[s.folded]? = some c) {st : Stage}
    {progress : Progress.Snapshot} :
    ({ s with progress, folded := s.folded + 1, stage := st } : State).loopRecords =
      s.loopRecords ++ [.ofSnapshot (s.left.apply c.delta)] := by
  show ((((s.deltas.take (s.folded + 1)).map (·.delta)).scanl _ s.baseline).map _) = _
  rw [applied_succ hc, List.scanl_append, List.map_append]
  simp [loopRecords, left]

/-- The record of the first `n` changes, once they have been applied. -/
lemma getElem?_loopRecords {s : State} (hle : s.folded ≤ s.deltas.length) {n : Nat}
    (hn : n ≤ s.folded) : s.loopRecords[n]? = some (.ofSnapshot (s.leftAfter n)) := by
  have hlen : n ≤ s.applied.length := by
    rw [applied, List.length_map, List.length_take]
    omega
  rw [loopRecords, List.getElem?_map, List.getElem?_scanl, if_pos hlen, applied, ← List.map_take,
    List.take_take, Nat.min_eq_left hn]
  rfl

/-- The records of a loop that has not applied anything. -/
lemma loopRecords_of_fresh {s : State} (h : s.Fresh) :
    s.loopRecords = [.ofSnapshot s.baseline] := by
  simp [loopRecords, applied, h.deltas]

end State

section Steps

variable {j : Job} {es : List Event} {s s' : State} {e : Event}

/-- What has been told is the same wherever a call with retries stands. -/
lemma State.Told.task {k : Task} {r r' : Retry.Stage} (h : s.Told j es (k.stage r)) :
    s.Told j es (k.stage r') := by
  cases k <;> exact h

/-- To hand out entries tells nothing. -/
lemma State.Told.supply {entries : List Entry} (h : s.sent = s.loopRecords) :
    (s.supply entries).Told j es (s.supply entries).stage := by
  cases entries with
  | cons e rest => exact h
  | nil =>
    rw [State.supply]
    split <;> exact h

/-- The remote folder is seen to after the records of the loop. -/
lemma State.Told.cleanUp (h : s.sent = s.loopRecords ++ s.settling) :
    (s.cleanUp j).Told j es (s.cleanUp j).stage := by
  unfold State.cleanUp
  split <;> exact h

/-- The loop is left with the counters at zero. -/
lemma State.Told.settle (h : s.sent = s.loopRecords) (hp : s.progress = s.left) :
    (s.settle j).Told j es (s.settle j).stage := by
  unfold State.settle
  split
  case h_1 p hset =>
    refine ⟨h, ?_⟩
    show s.left.settle?.toList.map _ = _
    rw [← hp, hset]
    rfl
  case h_2 hset =>
    apply State.Told.cleanUp
    rw [h, State.settling, ← hp, hset]
    exact (List.append_nil _).symm

/-- A record that has been put into the channel is one of those told. -/
lemma State.Told.resume {r : Status} {next : Next} {channel : List Status}
    (h : s.Told j es (.sending r next)) (hst : s.Standing (.sending r next)) :
    (({ s with channel, sent := s.sent ++ [r] } : State).resume j next).Told j es
      (({ s with channel, sent := s.sent ++ [r] } : State).resume j next).stage := by
  cases next with
  | begin_ =>
    obtain ⟨hsent, rfl⟩ := h
    have hloop : s.sent ++ [.ofSnapshot s.baseline] = s.loopRecords := by
      rw [hsent, State.loopRecords_of_fresh hst.1]
      rfl
    show State.Told j es _ (if j.slots ≤ slotLimit then .looping else .ended)
    split
    case isTrue => exact hloop
    case isFalse hj =>
      -- Too many slots to keep count of: the baseline is all that is told.
      refine .cut (.inr (Nat.lt_of_not_le hj)) (.inl ?_)
      show s.sent ++ _ <+: s.loopRecords
      exact hloop ▸ List.prefix_rfl
  | loop => exact h
  | cleanUp =>
    obtain ⟨hsent, hset⟩ := h
    apply State.Told.cleanUp
    show s.sent ++ [r] = s.loopRecords ++ s.settling
    rw [hsent, hset]
  | stop =>
    show State.Ending j es _ (s.sent ++ [r])
    cases r with
    | progress u => exact h.elim
    | completed c =>
      have hdr : s.Drained := hst
      rw [show s.sent = s.loopRecords ++ s.settling from h]
      exact .completed hdr.kept
    | failed e =>
      rcases h with ⟨hsent, hl⟩ | hsent
      · rw [hsent]
        exact .failedEarly hl
      · rw [hsent]
        exact .failed

/-- A turn keeps the records in their order. -/
lemma State.Told.turn (h : s.Told j es s.stage) (hs : s.Sound) (hs' : s'.Sound)
    (hc : Course j es s s.stage) (ht : Turn j s e s') : s'.Told j (es ++ [e]) s'.stage := by
  have hst := hs.standing
  cases ht with
  | created hl =>
    rw [hl] at h
    exact h
  | notCreated hl =>
    rw [hl] at h hc
    exact .inl ⟨h, by simp [hc.2.1, Event.endsListing]⟩
  | granted hl | started hl | listedAgain hl =>
    rw [hl] at h
    exact h.task.congr (listingsRead_of_not_advances es rfl) id rfl rfl rfl
      fun hd => hd.kept
  | @refused k n c hl hk | @notListed k n c e hl hk =>
    rw [hl] at h hc
    cases k with
    | counting => exact .inl ⟨h, by simp [hc.2.1, Event.endsListing]⟩
    | paging => exact .inr h
    | cleaning => cases hk
  | deletionRefused hl | deleted hl | notDeleted hl | deletedAgain hl =>
    rw [hl] at h
    exact h
  | @counted c t n p hl =>
    rw [hl] at h
    -- With the last page the baseline waits; that its counters are right is part of `hs'`.
    cases hn : p.next with
    | none =>
      simp only [State.countPage, Cursor.after, hn] at hs' ⊢
      exact ⟨h, congrArg Status.ofSnapshot hs'.standing.2⟩
    | some token =>
      simp only [State.countPage, Cursor.after, hn]
      exact h
  | supplied hl | acquired hl =>
    rw [hl] at h
    exact State.Told.supply h
  | joined hl =>
    rw [hl] at h
    exact hl ▸ h
  | failed hl =>
    rw [hl] at h
    exact .inr h
  | folded hl hd =>
    rw [hl] at h hst
    show s.sent ++ [_] = State.loopRecords _
    rw [State.loopRecords_succ hd, h, hst]
  | drained hl hd =>
    rw [hl] at h hst
    exact State.Told.settle h hst
  | @sent r next hl =>
    rw [hl] at h hst
    have hq : s.Told j (es ++ [.send]) (.sending r next) :=
      h.congr (listingsRead_of_not_advances es rfl) id rfl rfl rfl id
    exact hq.resume hst
  | unheard hl hno =>
    have hsofar := h.before_end hst (by simp [hl])
    exact .cut (.inl hno) (hsofar.congr rfl rfl fun hd => hd.kept)
  | took =>
    exact h.congr (listingsRead_of_not_advances es rfl) id rfl rfl rfl
      fun hd => hd.kept
  | hungUp =>
    exact h.congr (listingsRead_of_not_advances es rfl) (fun _ => rfl) rfl rfl rfl
      fun hd => hd.kept
  | cancelled hl ho =>
    have hne : s.stage ≠ .ended := by
      intro hend
      rw [hend] at ho
      cases ho
    exact .cut (.inl hl) ((h.before_end hst hne).congr rfl rfl fun hd => hd.kept)

end Steps

/-- Where the main loop stands says what has been told. -/
theorem Run.told {j : Job} {disk : Disk} {es : List Event} {s : State} (h : Run j disk es s) :
    s.Told j es s.stage := by
  induction h with
  | start => rfl
  | step hr h ih =>
    have hs := hr.sound
    have hs' := (hr.step h).sound
    cases h with
    | turn ht => exact ih.turn hs hs' hr.course ht
    | move hi hd hp hm =>
      -- New changes are not applied yet, and a drained transfer gets none.
      refine ih.congr (listingsRead_of_not_advances _ (Event.not_advances hi)) id rfl rfl
        (State.applied_advance hs _ _ _) ?_
      intro hdr
      exact (hdr.not_move hd hm).elim

/-- What a run has told is progress so far, or that of a transfer that has ended. -/
lemma Run.sent {j : Job} {disk : Disk} {es : List Event} {s : State} (h : Run j disk es s) :
    s.SoFar s.sent ∨ State.Ending j es s s.sent := by
  have ht := h.told
  by_cases hend : s.stage = .ended
  · rw [hend] at ht
    exact .inr ht
  · exact .inl (ht.before_end h.sound.standing hend)

/-- A run that has told its completion was drained, and has told of the loop and its end. -/
lemma Run.of_completed {j : Job} {disk : Disk} {es : List Event} {s : State}
    (h : Run j disk es s) {c : Cleanup} (hc : .completed c ∈ s.sent) :
    s.Drained ∧ s.sent = s.loopRecords ++ s.settling ++ [.completed c] := by
  rcases h.sent with hsofar | hending
  · cases State.isTerminal_eq_false (hsofar.le.subset hc)
  · exact hending.of_completed hc

end FolderCopy.Transfer
