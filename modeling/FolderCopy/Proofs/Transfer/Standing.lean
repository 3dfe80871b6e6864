import FolderCopy.Proofs.Transfer.History

/-!
# Where the main loop stands

What the state of a transfer looks like at each stage of its main loop (`Standing`), together with
what holds at all of them (`Sound`): the listing is scheduled in order and without gaps, nothing is
applied before it is reported, and the loop is left only when all that was listed has been copied
and all that was reported has been applied.
-/

namespace FolderCopy.Transfer

namespace State

/-- What was left to do when the files had been counted. -/
def baseline (s : State) : Progress.Snapshot :=
  .ofTotals (Enumeration.totalsOf s.counted)

/-- The changes that have been applied, in order. -/
def applied (s : State) : List Progress.Delta :=
  (s.deltas.take s.folded).map (·.delta)

/-- What is left to do after these changes. -/
def left (s : State) : Progress.Snapshot :=
  s.applied.foldl Progress.Snapshot.apply s.baseline

/-- No file to download has been listed. -/
structure Fresh (s : State) : Prop where
  downloads : s.downloads = []
  deltas : s.deltas = []
  folded : s.folded = 0
  sent : s.sent = []
  listed : s.listed = []
  page : s.page = []
  cursor : s.cursor = .start
  exhausted : s.exhausted = false

/-- All that was listed has been copied, and all that was reported has been applied. -/
structure Drained (s : State) : Prop where
  exhausted : s.exhausted
  copied : ∀ d ∈ s.downloads, d.stage = .finished (.ok ())
  folded : s.folded = s.deltas.length

/-- What a state looks like at a stage of the main loop. -/
def Standing (s : State) : Stage → Prop
  | .creating => s.Fresh ∧ s.counted = []
  | .counting _ t _ => s.Fresh ∧ t = Enumeration.totalsOf s.counted
  | .sending _ .begin_ => s.Fresh ∧ s.progress = s.baseline
  | .looping | .sending _ .loop => s.progress = s.left
  | .paging _ => s.progress = s.left ∧ s.page = [] ∧ s.cursor.isFinished = false
  | .sending _ .cleanUp | .cleaning _ | .sending (.completed _) .stop => s.Drained
  | .sending (.failed _) .stop | .sending (.progress _) .stop | .ended => True

/-- What holds wherever the main loop stands. -/
structure Sound (s : State) : Prop where
  schedule : s.listed = s.downloads.map (·.entry) ++ s.page
  folded_le : s.folded ≤ s.deltas.length
  exhausted : s.exhausted → s.cursor.isFinished ∧ s.page = []
  joined : ∀ d ∈ s.downloads, d.joined → d.stage = .finished (.ok ()) ∨ s.stage.isOver
  standing : s.Standing s.stage

/-- Changes that are reported later are not applied yet. -/
lemma applied_eq_of_append {s s' : State} {cs : List Change} (hle : s.folded ≤ s.deltas.length)
    (hf : s'.folded = s.folded) (hd : s'.deltas = s.deltas ++ cs) : s'.applied = s.applied := by
  rw [applied, applied, hf, hd, List.take_append_of_le_length hle]

end State

/-- Applying the oldest change that has not been applied. -/
lemma State.applied_succ {s : State} {c : Change} (hc : s.deltas[s.folded]? = some c) :
    (s.deltas.take (s.folded + 1)).map (·.delta) = s.applied ++ [c.delta] := by
  rw [List.take_add_one, hc, List.map_append]
  rfl

/-- Downloads keep their entries where one of them is put in place of one with the same entry. -/
lemma map_entry_set {ds : List Download} {i : Nat} {d : Download} (d' : Download)
    (hd : ds[i]? = some d) (he : d'.entry = d.entry) :
    (ds.set i d').map (·.entry) = ds.map (·.entry) := by
  rw [List.map_set, he]
  apply List.ext_getElem?
  intro k
  rcases eq_or_ne i k with rfl | hne
  · have hi : i < (ds.map (·.entry)).length := by
      rw [List.length_map]
      exact (List.getElem?_eq_some_iff.1 hd).1
    rw [List.getElem?_set_self hi, List.getElem?_map, hd]
    rfl
  · rw [List.getElem?_set_ne hne]

open State

/-- A download that goes on was running. -/
lemma Download.Move.isRunning {j : Job} {d d' : Download} {e : Event} {fs : List Effect}
    (h : Move j d e d' fs) : d.isRunning := by
  cases h with
  | abandoned hr => exact hr
  | _ => simp_all [Download.isRunning]

section Steps

variable {j : Job} {s s' : State} {e : Event}

/-- As long as a transfer is not over, the results that were taken are good ones. -/
lemma State.Sound.copied (h : s.Sound) {stage : Stage} (hs : s.stage = stage)
    (ho : stage.isOver = false) : ∀ d ∈ s.downloads, d.joined → d.stage = .finished (.ok ()) := by
  intro d hmem hj
  -- With a failed download the transfer is over as soon as its result is taken.
  refine (h.joined d hmem hj).resolve_right ?_
  rw [hs, ho]
  exact Bool.false_ne_true

/-- A loop that has nothing left to do has copied all that was listed. -/
lemma State.Sound.drained (h : s.Sound) (hs : s.stage = .looping) (hd : s.isDrained) :
    s.Drained := by
  simp only [isDrained, Bool.and_eq_true, List.all_eq_true, beq_iff_eq] at hd
  obtain ⟨⟨hx, hj⟩, hf⟩ := hd
  exact ⟨hx, fun d hmem => h.copied hs rfl d hmem (hj d hmem), hf⟩

/-- A state stays fresh whatever the main loop, the first listing and the consumer do. -/
lemma State.Fresh.kept {stage : Stage} {progress : Progress.Snapshot} {counted : List Entry}
    {calls : List Call} {channel received : List Status} {listening : Bool} (h : s.Fresh) :
    ({ s with stage, progress, counted, calls, channel, received, listening } : State).Fresh :=
  ⟨h.1, h.2, h.3, h.4, h.5, h.6, h.7, h.8⟩

/-- A state stays drained whatever the main loop and the consumer do. -/
lemma State.Drained.kept {stage : Stage} {progress : Progress.Snapshot} {calls : List Call}
    {channel sent received : List Status} {listening : Bool} (h : s.Drained) :
    ({ s with stage, progress, calls, channel, sent, received, listening } : State).Drained :=
  ⟨h.1, h.2, h.3⟩

/-- What a state looks like at a stage hangs neither on the calls nor on the consumer. -/
lemma State.Standing.congr {st st' : Stage} {calls : List Call} {channel received : List Status}
    {listening : Bool} (h : s.Standing st) :
    ({ s with stage := st', calls, channel, received, listening } : State).Standing st := by
  unfold Standing at h ⊢
  split at h
  · exact ⟨h.1.kept, h.2⟩
  · exact ⟨h.1.kept, h.2⟩
  · exact ⟨h.1.kept, h.2⟩
  · exact h
  · exact h
  · exact h
  · exact h.kept
  · exact h.kept
  · exact h.kept
  all_goals trivial

/-- A sound state stays sound where only the main loop moves on. -/
lemma State.Sound.to_stage (h : s.Sound) {st : Stage} {calls : List Call}
    {channel received : List Status} {listening : Bool} (ho : s.stage.isOver → st.isOver)
    (hst : s.Standing st) :
    ({ s with stage := st, calls, channel, received, listening } : State).Sound := by
  refine ⟨h.schedule, h.folded_le, h.exhausted, ?_, hst.congr⟩
  intro d hmem hj
  exact (h.joined d hmem hj).imp_right ho

/-- A slot for the next entry keeps a state sound where the entries in hand are the next ones. -/
lemma State.Sound.supply {entries : List Entry}
    (hl : s.listed = s.downloads.map (·.entry) ++ entries) (hf : s.folded ≤ s.deltas.length)
    (hx : s.exhausted = false) (hj : ∀ d ∈ s.downloads, d.joined → d.stage = .finished (.ok ()))
    (hp : s.progress = s.left) : (s.supply entries).Sound := by
  cases entries with
  | cons e rest =>
    refine ⟨?_, hf, ?_, ?_, hp⟩
    · simpa [State.supply] using hl
    · intro h
      rw [show (s.supply (e :: rest)).exhausted = s.exhausted from rfl, hx] at h
      cases h
    · intro d hmem hjd
      rcases List.mem_append.1 hmem with hmem | hmem
      · exact .inl (hj d hmem hjd)
      · rw [List.mem_singleton.1 hmem] at hjd
        cases hjd
  | nil =>
    rw [State.supply]
    split
    case isTrue hc => exact ⟨hl, hf, fun _ => ⟨hc, rfl⟩, fun d hmem hjd => .inl (hj d hmem hjd), hp⟩
    case isFalse hc =>
      have hc : s.cursor.isFinished = false := by simpa using hc
      refine ⟨hl, hf, ?_, fun d hmem hjd => .inl (hj d hmem hjd), hp, rfl, hc⟩
      intro h
      rw [hx] at h
      cases h

/-- Seeing to the remote folder keeps a state sound that is drained. -/
lemma State.Sound.cleanUp (h : s.Sound) (ho : s.stage.isOver = false) (hd : s.Drained) :
    (s.cleanUp j).Sound := by
  unfold State.cleanUp
  split
  · exact h.to_stage (by simp [ho]) hd
  · exact h.to_stage (by simp [ho]) hd

/-- Taking the result of a download keeps a state sound, if the transfer is over after a failed
one. -/
lemma State.Sound.join (h : s.Sound) {i : Nat} {d : Download} (st : Stage)
    (hs : s.stage = .looping) (hd : s.downloads[i]? = some d)
    (hf : d.stage = .finished (.ok ()) ∨ st.isOver)
    (hst : s.progress = s.left →
      State.Standing { s.setDownload i { d with joined := true } with stage := st } st) :
    State.Sound { s.setDownload i { d with joined := true } with stage := st } := by
  refine ⟨?_, h.folded_le, h.exhausted, ?_, hst ?_⟩
  · show s.listed = (s.downloads.set i _).map (·.entry) ++ s.page
    rw [map_entry_set { d with joined := true } hd rfl]
    exact h.schedule
  · intro d' hmem hj
    rcases List.mem_or_eq_of_mem_set hmem with hmem | rfl
    · exact .inl (h.copied hs rfl d' hmem hj)
    · exact hf
  · have := h.standing
    rwa [hs] at this

/-- A page of the first listing keeps a state sound. -/
lemma State.Sound.countPage (h : s.Sound) {c : Cursor} {t : Totals} {r : Retry.Stage} {p : Page}
    (hs : s.stage = .counting c t r) : (s.countPage t p).Sound := by
  have hst := h.standing
  rw [hs] at hst
  obtain ⟨hfr, rfl⟩ := hst
  have ht : p.entries.foldl (fun t e => t.record e.size) (Enumeration.totalsOf s.counted) =
      Enumeration.totalsOf (s.counted ++ p.entries) := by
    rw [Enumeration.totalsOf, Enumeration.totalsOf, List.foldl_append]
  have hj (st : Stage) : ∀ d ∈ s.downloads, d.joined →
      d.stage = .finished (.ok ()) ∨ st.isOver := by
    rw [hfr.downloads]
    exact nofun
  unfold State.countPage
  split
  · refine ⟨h.schedule, h.folded_le, h.exhausted, hj _, hfr.kept, ?_⟩
    rw [ht]
    rfl
  · exact ⟨h.schedule, h.folded_le, h.exhausted, hj _, hfr.kept, ht⟩

/-- Applying a change keeps a state sound. -/
lemma State.Sound.fold (h : s.Sound) {c : Change} (hs : s.stage = .looping)
    (hc : s.deltas[s.folded]? = some c) :
    ({ s with
      progress := s.progress.apply c.delta
      folded := s.folded + 1
      stage := .sending (.ofSnapshot (s.progress.apply c.delta)) .loop } : State).Sound := by
  have hst := h.standing
  rw [hs] at hst
  refine ⟨h.schedule, (List.getElem?_eq_some_iff.1 hc).1, h.exhausted, ?_, ?_⟩
  · exact fun d hmem hj => .inl (h.copied hs rfl d hmem hj)
  · show s.progress.apply c.delta = _
    rw [State.left, State.applied, State.applied_succ hc, List.foldl_append, hst]
    rfl

/-- Leaving the loop keeps a state sound. -/
lemma State.Sound.settle (h : s.Sound) (hs : s.stage = .looping) (hd : s.isDrained) :
    (s.settle j).Sound := by
  have hdr := h.drained hs hd
  unfold State.settle
  split
  · refine ⟨h.schedule, h.folded_le, h.exhausted, fun d hmem hj => .inl (hdr.copied d hmem), ?_⟩
    exact hdr.kept
  · exact h.cleanUp (by rw [hs]; rfl) hdr

/-- Going on after a record keeps a state sound. -/
lemma State.Sound.resume (h : s.Sound) {r : Status} {next : Next} {channel sent : List Status}
    (hs : s.stage = .sending r next) :
    (({ s with channel, sent } : State).resume j next).Sound := by
  have hst := h.standing
  rw [hs] at hst
  cases next with
  | begin_ =>
    obtain ⟨hfr, hp⟩ := hst
    refine ⟨h.schedule, h.folded_le, h.exhausted, ?_, ?_⟩
    · intro d hmem
      rw [show s.downloads = [] from hfr.downloads] at hmem
      cases hmem
    · show State.Standing _ (if j.slots ≤ slotLimit then .looping else .ended)
      split
      · show s.progress = s.left
        rw [hp, State.left, State.applied, hfr.deltas, List.take_nil]
        rfl
      · trivial
  | loop =>
    refine ⟨h.schedule, h.folded_le, h.exhausted, ?_, hst⟩
    exact fun d hmem hj => .inl (h.copied hs rfl d hmem hj)
  | cleanUp =>
    have hdr : s.Drained := hst
    have hsound : ({ s with channel, sent } : State).Sound := by
      refine ⟨h.schedule, h.folded_le, h.exhausted, h.joined, ?_⟩
      rw [show ({ s with channel, sent } : State).stage = _ from hs]
      exact hdr.kept
    exact hsound.cleanUp (by rw [show ({ s with channel, sent } : State).stage = _ from hs]; rfl)
      hdr.kept
  | stop =>
    exact ⟨h.schedule, h.folded_le, h.exhausted, fun d hmem hj => .inr rfl, trivial⟩

/-- A turn keeps a state sound. -/
lemma State.Sound.turn (h : s.Sound) (ht : Turn j s e s') : s'.Sound := by
  have hst := h.standing
  cases ht with
  | created hs =>
    rw [hs] at hst
    refine h.to_stage (by simp [hs, Stage.isOver]) ⟨hst.1, ?_⟩
    rw [hst.2]
    rfl
  | notCreated | refused | notListed | unheard | cancelled =>
    exact h.to_stage (fun _ => rfl) trivial
  | @granted k n hs | @started k n hs | @listedAgain k n c hs =>
    rw [hs] at hst
    refine h.to_stage (by cases k <;> simp [hs, Task.stage, Stage.isOver]) ?_
    cases k <;> exact hst
  | deletionRefused hs | deleted hs | notDeleted hs | deletedAgain hs =>
    rw [hs] at hst
    exact h.to_stage (by simp [hs, Stage.isOver]) hst
  | counted hs => exact h.countPage hs
  | supplied hs =>
    rw [hs] at hst
    obtain ⟨hp, hpage, hc⟩ := hst
    refine .supply ?_ h.folded_le ?_ (h.copied hs rfl) hp
    -- The page in hand is used up, so the entries of this one come next.
    · simp [h.schedule, hpage]
    · apply Bool.eq_false_iff.2
      intro hx
      rw [(h.exhausted hx).1] at hc
      cases hc
  | joined hs hd hj hf =>
    refine h.join s.stage hs hd (.inl hf) ?_
    intro hp
    rw [hs]
    exact hp
  | failed hs hd hj hf => exact h.join _ hs hd (.inr rfl) fun _ => trivial
  | acquired hs hx hf =>
    rw [hs] at hst
    exact .supply h.schedule h.folded_le hx (h.copied hs rfl) hst
  | folded hs hc => exact h.fold hs hc
  | drained hs hd => exact h.settle hs hd
  | sent hs hl hc => exact h.resume hs
  | took | hungUp => exact h.to_stage id hst

/-- No download joins itself. -/
lemma Download.Move.joined_eq {d d' : Download} {fs : List Effect} (h : Download.Move j d e d' fs) :
    d'.joined = d.joined := by
  cases h <;> rfl

/-- No download goes on in a state that is fresh. -/
lemma State.Fresh.not_move {i : Nat} {d : Download} (h : s.Fresh)
    (hd : s.downloads[i]? = some d) : False := by
  rw [h.downloads] at hd
  cases hd

/-- No download goes on in a state that is drained. -/
lemma State.Drained.not_move {i : Nat} {d d' : Download} {fs : List Effect} (h : s.Drained)
    (hd : s.downloads[i]? = some d) (hm : Download.Move j d e d' fs) : False := by
  have hr := hm.isRunning
  rw [Download.isRunning, h.copied d (List.mem_of_getElem? hd)] at hr
  cases hr

/-- What a download reports is not applied at once. -/
lemma State.applied_advance (h : s.Sound) (i : Nat) (d : Download) (fs : List Effect) :
    (s.advance j i d fs).applied = s.applied :=
  State.applied_eq_of_append h.folded_le rfl rfl

/-- A move of a download keeps a state sound. -/
lemma State.Sound.move (h : s.Sound) {i : Nat} {d d' : Download} {fs : List Effect}
    (hd : s.downloads[i]? = some d) (hm : Download.Move j d e d' fs) :
    (s.advance j i d' fs).Sound := by
  refine ⟨?_, ?_, h.exhausted, ?_, ?_⟩
  · show s.listed = (s.downloads.set i d').map (·.entry) ++ s.page
    rw [map_entry_set d' hd hm.entry_eq]
    exact h.schedule
  · show s.folded ≤ (s.deltas ++ _).length
    rw [List.length_append]
    exact Nat.le_add_right_of_le h.folded_le
  · intro d₁ hmem hj
    rcases List.mem_or_eq_of_mem_set hmem with hmem | rfl
    · exact h.joined d₁ hmem hj
    · rw [hm.joined_eq] at hj
      -- A download that was joined and still runs was left behind by a transfer that is over.
      refine .inr ((h.joined d (List.mem_of_getElem? hd) hj).resolve_left ?_)
      intro hok
      have hr := hm.isRunning
      rw [Download.isRunning, hok] at hr
      cases hr
  · have hst := h.standing
    have hleft : (s.advance j i d' fs).left = s.left := by
      rw [State.left, State.left, State.applied_advance h]
      rfl
    show State.Standing _ s.stage
    generalize s.stage = st at hst
    -- A fresh state has no downloads, and a drained one has none that goes on.
    unfold State.Standing at hst ⊢
    split at hst
    · exact (hst.1.not_move hd).elim
    · exact (hst.1.not_move hd).elim
    · exact (hst.1.not_move hd).elim
    · exact hst.trans hleft.symm
    · exact hst.trans hleft.symm
    · exact ⟨hst.1.trans hleft.symm, hst.2⟩
    · exact (hst.not_move hd hm).elim
    · exact (hst.not_move hd hm).elim
    · exact (hst.not_move hd hm).elim
    all_goals trivial

end Steps

/-- Every state of a run is sound. -/
theorem Run.sound {j : Job} {disk : Disk} {es : List Event} {s : State} (h : Run j disk es s) :
    s.Sound := by
  induction h with
  | start => exact ⟨rfl, Nat.le_refl _, nofun, nofun, ⟨rfl, rfl, rfl, rfl, rfl, rfl, rfl, rfl⟩, rfl⟩
  | step hr h ih =>
    cases h with
    | turn ht => exact ih.turn ht
    | move hi hd hp hm => exact ih.move hd hm

end FolderCopy.Transfer
