import Mathlib.Data.List.Nodup
import FolderCopy.Proofs.Counting
import FolderCopy.Proofs.Transfer.History
import FolderCopy.Proofs.Transfer.Records

/-!
# Slots

A slot is free, or held by a download as long as that runs, or held by the main loop while it asks
for the next page. None is lost and none is made up as long as the transfer is not over, so there
are never more downloads in flight than there are slots.
-/

namespace FolderCopy.Transfer

/-- Whether the main loop holds a slot. -/
def Stage.holdsSlot : Stage → Bool
  | .paging _ => true
  | _ => false

namespace State

/-- How many downloads run; each of them holds a slot. -/
def running (s : State) : Nat :=
  s.downloads.countP Download.isRunning

/-- The slots that are free or held. -/
def slots (s : State) : Nat :=
  s.free + s.running + if s.stage.holdsSlot then 1 else 0

end State

section Steps

variable {j : Job} {s s' : State} {e : Event}

/-- A slot in hand goes to the first entry, or back to the free ones, or stays with the loop. -/
lemma State.slots_supply (s : State) (entries : List Entry) :
    (s.supply entries).slots = s.free + s.running + 1 := by
  cases entries with
  | cons e rest =>
    have hrun : (s.supply (e :: rest)).running = s.running + 1 := by
      simp [State.running, State.supply, Download.isRunning]
    show s.free + (s.supply (e :: rest)).running + 0 = _
    omega
  | nil =>
    rw [State.supply]
    split
    · show s.free + 1 + s.running + 0 = _
      omega
    · rfl

/-- No slot is held when cleaning up begins. -/
lemma State.holdsSlot_cleanUp (s : State) : (s.cleanUp j).stage.holdsSlot = false := by
  unfold State.cleanUp
  split <;> rfl

/-- No slot is held when the counters are settled. -/
lemma State.holdsSlot_settle (s : State) : (s.settle j).stage.holdsSlot = false := by
  unfold State.settle
  split
  · rfl
  · exact s.holdsSlot_cleanUp

/-- No slot is held when the main loop goes on. -/
lemma State.holdsSlot_resume (s : State) (next : Next) :
    (s.resume j next).stage.holdsSlot = false := by
  cases next with
  | begin_ =>
    show Stage.holdsSlot (if j.slots ≤ slotLimit then .looping else .ended) = false
    split <;> rfl
  | cleanUp => exact s.holdsSlot_cleanUp
  | loop | stop => rfl

/-- No slot is held after a page has been counted. -/
lemma State.holdsSlot_countPage (s : State) (t : Totals) (p : Page) :
    (s.countPage t p).stage.holdsSlot = false := by
  unfold State.countPage
  split <;> rfl

/-- Taking the result of a download changes nothing about who runs. -/
lemma State.running_joined {i : Nat} {d : Download} (hd : s.downloads[i]? = some d) :
    (s.setDownload i { d with joined := true }).running = s.running :=
  countP_set_of_eq hd rfl

/-- No turn makes a slot up, and only one that ends the transfer loses one. -/
lemma Turn.slots_le (h : Turn j s e s') :
    s'.slots ≤ s.slots ∧ (s'.stage.isOver = false → s'.slots = s.slots) := by
  have same (heq : s'.slots = s.slots) :
      s'.slots ≤ s.slots ∧ (s'.stage.isOver = false → s'.slots = s.slots) :=
    ⟨Nat.le_of_eq heq, fun _ => heq⟩
  have kept (hf : s'.free = s.free) (hr : s'.running = s.running)
      (hh : s'.stage.holdsSlot = s.stage.holdsSlot) :
      s'.slots ≤ s.slots ∧ (s'.stage.isOver = false → s'.slots = s.slots) :=
    same (by rw [State.slots, State.slots, hf, hr, hh])
  -- A slot that the loop held is lost to the account when the transfer is over.
  have ended (hf : s'.free = s.free) (hr : s'.running = s.running) (hh : s'.stage.holdsSlot = false)
      (ho : s'.stage.isOver) :
      s'.slots ≤ s.slots ∧ (s'.stage.isOver = false → s'.slots = s.slots) := by
    refine ⟨?_, ?_⟩
    · rw [State.slots, State.slots, hf, hr, hh]
      exact Nat.le_add_right _ _
    · intro hno
      rw [ho] at hno
      cases hno
  cases h with
  | notCreated | refused | deletionRefused | notListed | deleted | notDeleted | unheard
  | cancelled => exact ended rfl rfl rfl rfl
  | @granted k n hl | @started k n hl | @listedAgain k n c hl =>
    exact kept rfl rfl (by rw [hl]; cases k <;> rfl)
  | created hl | deletedAgain hl | folded hl => exact kept rfl rfl (by rw [hl]; rfl)
  | counted hl =>
    rw [State.countPage_eq] at kept ⊢
    exact kept rfl rfl (by rw [hl]; exact s.holdsSlot_countPage _ _)
  | supplied hl =>
    refine same ?_
    rw [State.slots_supply, State.slots, hl]
    rfl
  | acquired hl hx hf =>
    refine same ?_
    rw [State.slots_supply, State.slots, hl]
    -- One of the free slots is taken in hand first.
    show s.free - 1 + s.running + 1 = s.free + s.running + 0
    omega
  | joined hl hd => exact kept rfl (State.running_joined hd) rfl
  | failed hl hd => exact ended rfl (State.running_joined hd) rfl rfl
  | drained hl =>
    rw [State.settle_eq] at kept ⊢
    exact kept rfl rfl (by rw [hl]; exact s.holdsSlot_settle)
  | sent hl =>
    rw [State.resume_eq] at kept ⊢
    exact kept rfl rfl (by rw [hl]; exact State.holdsSlot_resume _ _)
  | took | hungUp => exact kept rfl rfl rfl

/-- A download that goes on keeps its slot, or gives it back when it runs no more. -/
lemma Download.Move.slots_eq {i : Nat} {d d' : Download} {fs : List Effect}
    (hm : Download.Move j d e d' fs) (hd : s.downloads[i]? = some d) :
    (s.advance j i d' fs).slots = s.slots := by
  obtain ⟨hi, rfl⟩ := List.getElem?_eq_some_iff.1 hd
  -- Only what runs moves, so there was one more that ran than the others.
  have hr := hm.isRunning
  have hle := List.boole_getElem_le_countP (p := Download.isRunning) hi
  have hrun : (s.advance j i d' fs).running =
      s.running - 1 + if d'.isRunning then 1 else 0 := by
    show (s.downloads.set i d').countP _ = _
    rw [List.countP_set hi, hr]
    rfl
  have hfree : (s.advance j i d' fs).free = if d'.isRunning then s.free else s.free + 1 := rfl
  rw [hr, if_pos rfl] at hle
  show (s.advance j i d' fs).free + (s.advance j i d' fs).running + _ = _ + s.running + _
  rw [hrun, hfree]
  have hpos : 1 ≤ s.running := hle
  split <;> (show _ + (if s.stage.holdsSlot then 1 else 0) = _; omega)

/-- A transfer that is over stays so. -/
lemma Turn.isOver (h : Turn j s e s') (ho : s.stage.isOver) : s'.stage.isOver := by
  cases h with
  | @granted k n hl | @started k n hl | @listedAgain k n c hl =>
    rw [hl] at ho
    cases k <;> cases ho
  | joined hl | acquired hl | supplied hl | counted hl | created hl | deletedAgain hl | folded hl
  | drained hl =>
    rw [hl] at ho
    cases ho
  | @sent r next hl =>
    rw [hl] at ho
    cases next with
    | stop => rfl
    | _ => cases ho
  | took | hungUp => exact ho
  | _ => rfl

/-- A loop that is not over after a turn was not over before it. -/
lemma Turn.not_isOver (h : Turn j s e s') (ho : s'.stage.isOver = false) :
    s.stage.isOver = false := by
  apply Bool.eq_false_iff.2
  intro hs
  rw [h.isOver hs] at ho
  cases ho

end Steps

section Runs

variable {j : Job} {disk : Disk} {es : List Event} {s : State}

/-- There are never more slots than asked for, and as many as long as the transfer is not over. -/
lemma Run.slots (h : Run j disk es s) :
    s.slots ≤ j.slots ∧ (s.stage.isOver = false → s.slots = j.slots) := by
  induction h with
  | start => exact ⟨Nat.le_refl _, fun _ => rfl⟩
  | @step es s e s' hr h ih =>
    obtain ⟨hle, heq⟩ := ih
    cases h with
    | turn ht =>
      obtain ⟨hle', heq'⟩ := ht.slots_le
      refine ⟨Nat.le_trans hle' hle, ?_⟩
      intro ho
      -- A transfer that is not over was not over before either, so the account was exact.
      rw [heq' ho, heq (ht.not_isOver ho)]
    | move hi hd hp hm =>
      rw [hm.slots_eq hd]
      exact ⟨hle, heq⟩

end Runs

/-! ## Downloads in flight -/

/-- The download number `i` is in flight: it has called for its content, and neither has that failed
for good nor has the content been given up. -/
structure InFlight (es : List Event) (s : State) (i : Nat) : Prop where
  called : .start (.download i) ∈ es
  running : ∃ d, s.downloads[i]? = some d ∧ d.isRunning

section Runs

variable {j : Job} {disk : Disk} {es : List Event} {s : State}

/-- No more downloads are in flight than run. -/
lemma InFlight.length_le {is : List Nat} (hn : is.Nodup) (h : ∀ i ∈ is, InFlight es s i) :
    is.length ≤ s.running := by
  -- They stand at different places of the downloads, and those that run are counted by place.
  have hsub : is ⊆ (List.range s.downloads.length).filter
      fun i => s.downloads[i]?.any Download.isRunning := by
    intro i hi
    obtain ⟨d, hd, hr⟩ := (h i hi).running
    refine List.mem_filter.2 ⟨?_, by simp [hd, hr]⟩
    exact List.mem_range.2 (List.getElem?_eq_some_iff.1 hd).1
  calc is.length
      ≤ ((List.range s.downloads.length).filter
          fun i => s.downloads[i]?.any Download.isRunning).length := hn.length_le_of_subset hsub
    _ = s.running := by rw [← List.countP_eq_length_filter, countP_range_getElem?]; rfl

/-- A transfer that has told its completion has nothing in flight. -/
lemma Run.not_inFlight (h : Run j disk es s) {c : Cleanup} (hc : .completed c ∈ s.sent) (i : Nat) :
    ¬ InFlight es s i := by
  intro hi
  obtain ⟨d, hd, hr⟩ := hi.running
  have hf := (h.of_completed hc).1.copied d (List.mem_of_getElem? hd)
  rw [Download.isRunning, hf] at hr
  cases hr

end Runs

/-- As long as a transfer is not over, the free slots, those of the downloads that run and the one
that the main loop holds while it asks for the next page are together as many as the job asks for.
So no more downloads run at any time, or have called for content that they have not given up, also
between two attempts; and when a transfer is complete there is none. -/
theorem downloads_bounded {j : Job} {disk : Disk} {es : List Event} {s : State}
    (h : run j (.start j disk) es = some s) :
    (s.stage.isOver = false →
      s.free + s.downloads.countP Download.isRunning + (if s.stage.holdsSlot then 1 else 0) =
        max 1 j.concurrency) ∧
    s.free + s.downloads.countP Download.isRunning ≤ max 1 j.concurrency ∧
    (∀ is : List Nat, is.Nodup → (∀ i ∈ is, InFlight es s i) → is.length ≤ max 1 j.concurrency) ∧
    (∀ c, .completed c ∈ s.sent → ∀ i, ¬ InFlight es s i) := by
  have hr := Run.of_run h
  obtain ⟨hle, heq⟩ := hr.slots
  have hrun : s.free + s.running ≤ j.slots := Nat.le_trans (Nat.le_add_right _ _) hle
  refine ⟨heq, hrun, ?_, fun c hc i => hr.not_inFlight hc i⟩
  intro is hn his
  calc is.length
      ≤ s.running := InFlight.length_le hn his
    _ ≤ s.free + s.running := Nat.le_add_left _ _
    _ ≤ max 1 j.concurrency := hrun

/-- A job that copies a folder with two downloads at a time and two attempts for each call. -/
def pairingJob : Job where
  folder := "f"
  destination := "d"
  concurrency := 2
  deleteAfter := false
  policy := .ofNat 2

/-- A run of this job up to where both slots are held: the first file has been copied, the second
one is asked for again after a failed attempt, and the third one is read. -/
def pairingRun : List Event :=
  let entries : List Entry := [⟨"a", "x", some 0⟩, ⟨"b", "y", none⟩, ⟨"c", "z", some 2⟩]
  let listing : List Event :=
    [.admission .main (.ok ()), .start .main, .page (.ok ⟨entries, none⟩)]
  let calling (i : Nat) : List Event := [.admission (.download i) (.ok ()), .start (.download i)]
  List.flatten
    [[.directory (.ok ())], listing, [.send, .acquire], listing, [.acquire], calling 0, calling 1,
      [.stream 0 (.ok ()), .stream 1 (.error (.httpStatus 503 "busy")), .opened 0 (.ok ()),
        .read 0 (.ok []), .closed 0 (.ok ()), .acquire],
      calling 2, [.stream 2 (.ok ()), .opened 2 (.ok ()), .join 0]]

/-- In this run the second and the third download are in flight, and hold both slots. -/
theorem downloads_bounded_two_in_flight :
    ∃ s, run pairingJob (.start pairingJob {}) pairingRun = some s ∧ s.free = 0 ∧
      InFlight pairingRun s 1 ∧ InFlight pairingRun s 2 ∧
      s.free + s.downloads.countP Download.isRunning + (if s.stage.holdsSlot then 1 else 0) = 2 ∧
      [1, 2].length ≤ max 1 pairingJob.concurrency := by
  obtain ⟨s, h, hfree, ho, h₁, h₂⟩ :
      ∃ s, run pairingJob (.start pairingJob {}) pairingRun = some s ∧
        s.free = 0 ∧ s.stage.isOver = false ∧ InFlight pairingRun s 1 ∧ InFlight pairingRun s 2 :=
    ⟨_, rfl, rfl, rfl, ⟨by simp [pairingRun], _, rfl, rfl⟩, ⟨by simp [pairingRun], _, rfl, rfl⟩⟩
  obtain ⟨hslots, -, hbound, -⟩ := downloads_bounded h
  refine ⟨s, h, hfree, h₁, h₂, hslots ho, hbound [1, 2] (by decide) ?_⟩
  rintro i (_ | ⟨_, _ | ⟨_, ⟨⟩⟩⟩)
  · exact h₁
  · exact h₂

end FolderCopy.Transfer
