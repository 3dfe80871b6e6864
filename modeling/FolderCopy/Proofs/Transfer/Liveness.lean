import FolderCopy.Proofs.Transfer.Slots
import FolderCopy.Proofs.Transfer.StatusStream

/-!
# Liveness

A transfer whose consumer listens is never stuck: as long as no terminal record has been taken, the
main loop, a download or the consumer can go on by itself, or an answer from outside is awaited and
whatever comes is taken. Neither a full channel nor slots that are all held stand in the way, since
the consumer empties the one and those who hold the others go on.
-/

namespace FolderCopy.Transfer

/-! ## Going on -/

/-- What an answer from outside is awaited to. -/
inductive Question where
  | directory
  | admission (a : Actor)
  | page
  | removal
  | stream (i : Nat)
  | opened (i : Nat)
  | read (i : Nat)
  | written (i : Nat)
  | closed (i : Nat)
  deriving DecidableEq, Repr

namespace Event

/-- The question that an event answers. Bytes may be stored in several parts. -/
def question? : Event → Option Question
  | .directory _ => some .directory
  | .admission a _ => some (.admission a)
  | .page _ => some .page
  | .removal _ => some .removal
  | .stream i _ => some (.stream i)
  | .opened i _ => some (.opened i)
  | .read i _ => some (.read i)
  | .stored i _ | .written i _ => some (.written i)
  | .closed i _ => some (.closed i)
  | _ => none

/-- Whether an event is one by which a transfer or its consumer goes on without being answered.
Leaving, and giving up what nobody waits for, are not among these. -/
def proceeds : Event → Bool
  | .start _ | .join _ | .acquire | .fold | .drain | .send | .take => true
  | _ => false

end Event

/-- How many bytes of the chunk in hand a download has not stored. -/
def Download.unstored (d : Download) : Nat :=
  match d.stage with
  | .writing _ left => left.length
  | _ => 0

/-- Whether an answer is one that can be given: no more is read than was asked for, and a part of
the bytes that are being stored is neither nothing nor all of them. -/
def State.Fits (s : State) : Event → Prop
  | .read _ (.ok chunk) => chunk.length ≤ chunkLimit
  | .stored i n => 0 < n ∧ ∃ d, s.downloads[i]? = some d ∧ n < d.unstored
  | _ => True

/-- Whether the answer to a question is awaited: whatever is answered is taken. -/
def State.Awaits (j : Job) (s : State) (q : Question) : Prop :=
  ∀ e, e.question? = some q → s.Fits e → (step j s e).isSome

/-- The ways in which a transfer goes on: by itself, or with any answer to a question. -/
inductive CanGoOn (j : Job) (s : State) : Prop where
  | byItself {e : Event} (he : e.proceeds) (h : (step j s e).isSome)
  | answered (q : Question) (h : s.Awaits j q)

section Steps

variable {j : Job} {s s' : State} {e : Event}

/-- An event of a download can happen where the download takes it and the transfer permits it. -/
lemma isSome_step {i : Nat} {d : Download} (he : e.download? = some i)
    (hd : s.downloads[i]? = some d) (hp : s.permits e) :
    (step j s e).isSome = (d.step j e).isSome := by
  rw [step_eq_download he]
  simp [State.download, hd, hp]

/-- A download that has called for a stream takes any answer. -/
lemma Download.isSome_step_stream {d : Download} {i n : Nat} (r : Except CallError Unit)
    (hs : d.stage = .fetching (.calling n)) : (d.step j (.stream i r)).isSome := by
  simp only [Download.step, hs]
  split <;> rfl

/-- A download that runs goes on. -/
lemma CanGoOn.of_running {i : Nat} {d : Download} (hd : s.downloads[i]? = some d)
    (hr : d.isRunning) : CanGoOn j s := by
  cases hs : d.stage with
  | fetching r =>
    cases r with
    | asking n =>
      refine .answered (.admission (.download i)) ?_
      intro e he _
      cases e with
      | admission a r =>
        cases he
        rw [isSome_step rfl hd rfl]
        cases r <;> simp [Download.step, hs]
      | _ => cases he
    | admitted n =>
      refine .byItself (e := .start (.download i)) rfl ?_
      rw [isSome_step rfl hd rfl]
      simp [Download.step, hs]
    | calling n =>
      refine .answered (.stream i) ?_
      intro e he _
      cases e with
      | stream k r =>
        cases he
        rw [isSome_step rfl hd rfl]
        exact d.isSome_step_stream r hs
      | _ => cases he
  | opening =>
    refine .answered (.opened i) ?_
    intro e he _
    cases e with
    | opened k r =>
      cases he
      rw [isSome_step rfl hd rfl]
      cases r <;> simp [Download.step, hs]
    | _ => cases he
  | reading =>
    refine .answered (.read i) ?_
    intro e he hfit
    cases e with
    | read k r =>
      cases he
      rw [isSome_step rfl hd rfl]
      cases r with
      | error m => simp [Download.step, hs]
      | ok chunk =>
        have hle : chunk.length ≤ chunkLimit := hfit
        cases chunk <;> simp_all [Download.step]
    | _ => cases he
  | writing chunk left =>
    refine .answered (.written i) ?_
    intro e he hfit
    cases e with
    | stored k n =>
      cases he
      rw [isSome_step rfl hd rfl]
      obtain ⟨hpos, d', hd', hlt⟩ := hfit
      rw [hd] at hd'
      cases hd'
      rw [Download.unstored, hs] at hlt
      have hlt : n < left.length := hlt
      simp [Download.step, hs, hpos, hlt]
    | written k r =>
      cases he
      rw [isSome_step rfl hd rfl]
      cases r <;> simp [Download.step, hs]
    | _ => cases he
  | closing =>
    refine .answered (.closed i) ?_
    intro e he _
    cases e with
    | closed k r =>
      cases he
      rw [isSome_step rfl hd rfl]
      cases r <;> simp [Download.step, hs]
    | _ => cases he
  | finished r => simp [Download.isRunning, hs] at hr
  | abandoned => simp [Download.isRunning, hs] at hr

/-- A call of the main loop goes on. -/
lemma CanGoOn.of_task {k : Task} {r : Retry.Stage} (hs : s.stage = k.stage r) : CanGoOn j s := by
  cases r with
  | asking n =>
    refine .answered (.admission .main) ?_
    intro e he _
    cases e with
    | admission a r =>
      cases he
      cases k <;> cases r <;> simp [step, State.takeAdmission, hs, Task.stage]
    | _ => cases he
  | admitted n =>
    refine .byItself (e := .start .main) rfl ?_
    cases k <;> simp [step, State.startCall, hs, Task.stage]
  | calling n =>
    cases k with
    | counting | paging =>
      refine .answered .page ?_
      intro e he _
      cases e with
      | page r =>
        cases he
        simp only [step, State.takePage, hs, Task.stage]
        split <;> rfl
      | _ => cases he
    | cleaning =>
      refine .answered .removal ?_
      intro e he _
      cases e with
      | removal r =>
        cases he
        simp only [step, State.takeRemoval, hs, Task.stage]
        split <;> rfl
      | _ => cases he

/-- With a finished download to join, the main loop can go on. -/
lemma CanGoOn.of_finished (hs : s.stage = .looping) {i : Nat} {d : Download}
    {r : Except CopyError Unit} (hd : s.downloads[i]? = some d) (hf : d.stage = .finished r)
    (hj : d.joined = false) : CanGoOn j s := by
  refine .byItself (e := .join i) rfl ?_
  cases r <;> simp [step, State.join, hs, hd, hf, hj]

/-- A download is abandoned by the event of that name only. -/
lemma Download.Move.abandon_of {d d' : Download} {fs : List Effect}
    (h : Download.Move j d e d' fs) (ha : d'.stage = .abandoned) : ∃ i, e = .abandon i := by
  cases h with
  | abandoned => exact ⟨_, rfl⟩
  | _ => cases ha

end Steps

section Runs

variable {j : Job} {disk : Disk} {es : List Event} {s : State}

/-- As long as a transfer is not over no download has been given up. -/
lemma Run.not_abandoned (h : Run j disk es s) (ho : s.stage.isOver = false) :
    ∀ d ∈ s.downloads, d.stage ≠ .abandoned := by
  induction h with
  | start => exact nofun
  | @step es s e s' hr h ih =>
    intro d' hmem ha
    cases h with
    | turn ht =>
      have ho' := ht.not_isOver ho
      obtain ⟨i, hi, rfl⟩ := List.mem_iff_getElem.1 hmem
      rcases ht.onDownloads.origin (List.getElem?_eq_getElem hi) with hd | ⟨d, r, hd, hf, heq⟩ |
        ⟨-, heq⟩
      · exact ih ho' _ (List.mem_of_getElem? hd) ha
      · rw [heq, hf] at ha
        cases ha
      · rw [heq] at ha
        cases ha
    | move hi hd hp hm =>
      rcases List.mem_or_eq_of_mem_set hmem with hmem | rfl
      · exact ih ho d' hmem ha
      · obtain ⟨k, rfl⟩ := hm.abandon_of ha
        have hover : s.stage.isOver = true := hp
        exact Bool.false_ne_true (ho.symm.trans hover)

/-- The main loop goes on as long as there is something to do. -/
lemma Run.canGoOn_of_looping (h : Run j disk es s) (hs : s.stage = .looping) : CanGoOn j s := by
  have ho : s.stage.isOver = false := by rw [hs]; rfl
  -- A download runs, or one can be joined, or a change be applied, or the loop can be left; and if
  -- nothing of this is the case there is a free slot.
  by_cases hrun : ∃ d ∈ s.downloads, d.isRunning
  · obtain ⟨d, hmem, hr⟩ := hrun
    obtain ⟨i, hi, rfl⟩ := List.mem_iff_getElem.1 hmem
    exact .of_running (List.getElem?_eq_getElem hi) hr
  by_cases hjoin : ∃ d ∈ s.downloads, d.joined = false
  · obtain ⟨d, hmem, hj⟩ := hjoin
    obtain ⟨i, hi, rfl⟩ := List.mem_iff_getElem.1 hmem
    have hna := h.not_abandoned ho _ hmem
    cases hf : s.downloads[i].stage with
    | finished r => exact .of_finished hs (List.getElem?_eq_getElem hi) hf hj
    | abandoned => exact absurd hf hna
    | _ => exact absurd ⟨_, hmem, by simp [Download.isRunning, hf]⟩ hrun
  have hjoined : ∀ d ∈ s.downloads, d.joined := by
    intro d hmem
    by_contra hj
    exact hjoin ⟨d, hmem, by simpa using hj⟩
  by_cases hfold : s.folded < s.deltas.length
  · refine .byItself (e := .fold) rfl ?_
    simp [Transfer.step, State.fold, hs, hfold]
  by_cases hx : s.exhausted
  · refine .byItself (e := .drain) rfl ?_
    have hle := h.sound.folded_le
    have hdrained : s.isDrained := by
      simp only [State.isDrained, hx, Bool.true_and, Bool.and_eq_true, List.all_eq_true,
        beq_iff_eq]
      exact ⟨hjoined, by omega⟩
    simp [Transfer.step, State.drain, hs, hdrained]
  · refine .byItself (e := .acquire) rfl ?_
    -- No download holds a slot, so there is a free one.
    have hnone : s.running = 0 := List.countP_eq_zero.2 fun d hmem hr => hrun ⟨d, hmem, hr⟩
    have hslots := h.slots.2 ho
    have hfree : s.free ≠ 0 := by
      have hpos : 0 < j.slots := Nat.lt_of_lt_of_le Nat.zero_lt_one (Nat.le_max_left _ _)
      simp only [State.slots, hs, hnone, Stage.holdsSlot] at hslots
      simp at hslots
      omega
    simp [Transfer.step, State.acquire, hs, hx, hfree]

/-- A transfer whose consumer listens goes on until its terminal record has been taken. -/
theorem Run.canGoOn (h : Run j disk es s) (hj : j.slots ≤ slotLimit) (hl : s.listening) :
    (∃ r ∈ s.received, r.isTerminal) ∨ CanGoOn j s := by
  -- As long as records wait, the consumer can take one, so the channel may be taken as empty.
  by_cases hchannel : s.channel = []
  case neg =>
    obtain ⟨r, rest, hc⟩ := List.exists_cons_of_ne_nil hchannel
    exact .inr (.byItself (e := .take) rfl (by simp [Transfer.step, State.take, hc]))
  cases hs : s.stage with
  | creating =>
    refine .inr (.answered .directory ?_)
    intro e he _
    cases e with
    | directory r =>
      cases he
      cases r <;> simp [Transfer.step, hs]
    | _ => cases he
  | counting c t r => exact .inr (.of_task (k := .counting c t) hs)
  | paging r => exact .inr (.of_task (k := .paging) hs)
  | cleaning r => exact .inr (.of_task (k := .cleaning) hs)
  | sending r next =>
    refine .inr (.byItself (e := .send) rfl ?_)
    simp [Transfer.step, State.send, hs, hl, hchannel, channelLimit]
  | looping => exact .inr (h.canGoOn_of_looping hs)
  | ended =>
    have ht := h.told
    rw [hs] at ht
    obtain ⟨ps, r, hsent, -, hr⟩ := (State.Ending.isStream ht).2 hl hj
    have hall := h.delivered.all hl
    rw [hchannel, List.append_nil] at hall
    exact .inl ⟨r, by simp [hall, hsent], hr⟩

end Runs

/-! ## The end -/

/-- Whether events keep a transfer going: neither its own steps nor those of the consumer are held
back, and every question that awaits an answer can get one. -/
structure State.Served (j : Job) (s : State) (possible : Event → Prop) : Prop where
  own : ∀ e, e.proceeds → possible e
  answers : ∀ q, s.Awaits j q → ∃ e, e.question? = some q ∧ s.Fits e ∧ possible e

/-- Every question can be answered. -/
lemma Question.exists_answer (q : Question) (s : State) : ∃ e, e.question? = some q ∧ s.Fits e := by
  cases q with
  | directory => exact ⟨.directory (.ok ()), rfl, trivial⟩
  | admission a => exact ⟨.admission a (.ok ()), rfl, trivial⟩
  | page => exact ⟨.page (.ok ⟨[], none⟩), rfl, trivial⟩
  | removal => exact ⟨.removal (.ok ()), rfl, trivial⟩
  | stream i => exact ⟨.stream i (.ok ()), rfl, trivial⟩
  | opened i => exact ⟨.opened i (.ok ()), rfl, trivial⟩
  | read i => exact ⟨.read i (.ok []), rfl, Nat.zero_le _⟩
  | written i => exact ⟨.written i (.ok ()), rfl, trivial⟩
  | closed i => exact ⟨.closed i (.ok ()), rfl, trivial⟩

/-- Where all can happen but that the consumer leaves, nothing is held back. -/
lemma State.served_of_ne_hangUp (j : Job) (s : State) : s.Served j (· ≠ .hangUp) := by
  refine ⟨?_, ?_⟩
  · rintro e he rfl
    cases he
  · intro q _
    obtain ⟨e, he, hfit⟩ := q.exists_answer s
    refine ⟨e, he, hfit, ?_⟩
    rintro rfl
    cases he

/-- A transfer that can get no further although nothing holds it back has delivered its terminal
record. -/
lemma Run.delivered_of_stuck {j : Job} {disk : Disk} {es : List Event} {s : State}
    (h : Run j disk es s) (hj : j.slots ≤ slotLimit) (hl : s.listening) {possible : Event → Prop}
    (hp : s.Served j possible) (hstuck : ∀ e, possible e → Transfer.step j s e = none) :
    ∃ r ∈ s.received, r.isTerminal := by
  rcases h.canGoOn hj hl with hr | hgo
  · exact hr
  · cases hgo with
    | @byItself e he hs =>
      rw [hstuck e (hp.own e he)] at hs
      cases hs
    | answered q hq =>
      obtain ⟨e, he, hfit, hpe⟩ := hp.answers q hq
      have hs := hq e he hfit
      rw [hstuck e hpe] at hs
      cases hs

/-- All is done: the transfer has ended, its records have been taken, and nothing runs. -/
structure State.Done (s : State) : Prop where
  ended : s.stage = .ended
  taken : s.channel = []
  idle : s.running = 0

/-- When all is done nothing can happen any more, but that the consumer leaves. -/
lemma State.Done.step_eq_none {j : Job} {s : State} {e : Event} (h : s.Done) (he : e ≠ .hangUp) :
    step j s e = none := by
  by_contra hne
  obtain ⟨s', hs⟩ := Option.ne_none_iff_exists'.1 hne
  have hended := h.ended
  cases Step.of_step hs with
  | move hi hd hp hm =>
    exact List.countP_eq_zero.1 h.idle _ (List.mem_of_getElem? hd) hm.isRunning
  | turn ht =>
    cases ht with
    | @granted k n hl | @refused k n c hl | @started k n hl | @notListed k n c err hl
    | @listedAgain k n c hl =>
      rw [hl] at hended
      cases k <;> cases hended
    | took hc =>
      rw [h.taken] at hc
      cases hc
    | hungUp => exact he rfl
    | cancelled hl ho =>
      rw [hended] at ho
      cases ho
    | _ => simp_all

end FolderCopy.Transfer
