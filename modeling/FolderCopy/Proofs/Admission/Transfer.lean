import FolderCopy.Proofs.Admission.Ledger
import FolderCopy.Proofs.Pacing.Slots
import FolderCopy.Proofs.Transfer.Slots

/-!
# The permits of a transfer

The main loop and each download of a transfer ask the limiter for themselves. What they hold is read
off where they stand (`State.permit`), and what a step shows of it off the states before and after
it (`marks`), so a call to the store that no permit is held for would show. `Handles` lists what a
step does to the permit of the one whose step it is; nobody else's is touched.
-/

namespace FolderCopy

open Admission

/-- What is held while a retried call stands at a stage. -/
def Retry.Stage.permit : Retry.Stage → Permit
  | .asking _ => .none
  | .admitted _ => .fresh
  | .calling _ => .used

namespace Transfer

def Stage.permit : Stage → Permit
  | .counting _ _ r | .paging r | .cleaning r => r.permit
  | _ => .none

def Stage.asks : Stage → Bool
  | .counting _ _ (.asking _) | .paging (.asking _) | .cleaning (.asking _) => true
  | _ => false

def Download.permit (d : Download) : Permit :=
  match d.stage with
  | .fetching r => r.permit
  | _ => .none

def Download.asks (d : Download) : Bool :=
  match d.stage with
  | .fetching (.asking _) => true
  | _ => false

namespace State

variable (s : State)

/-- What one of a transfer holds of the limiter. -/
def permit : Actor → Permit
  | .main => s.stage.permit
  | .download i => (s.downloads[i]?.map (·.permit)).getD .none

/-- Whether one of a transfer asks the limiter for admission. -/
def asks : Actor → Bool
  | .main => s.stage.asks
  | .download i => s.downloads[i]?.any (·.asks)

/-- Whether one of a transfer makes no call any more. -/
def isDone : Actor → Bool
  | .main => s.stage.isOver
  | .download i => s.downloads[i]?.any fun d => !d.isRunning

/-- How many permits are held whose calls have not been started. -/
def unspent : Nat :=
  s.stage.permit.isFresh.toNat + s.downloads.countP (·.permit.isFresh)

end State

namespace Event

/-- The one whose step an event is. -/
def actor (e : Event) : Actor :=
  match e.download? with
  | some i => .download i
  | none => .main

/-- An event of a download is that download's doing. -/
lemma actor_of_download {e : Event} {i : Nat} (h : e.download? = some i) :
    e.actor = .download i := by
  rw [actor, h]

def admission? : Event → Option (Except CallError Unit)
  | .admission _ r => some r
  | _ => none

/-- Whether a call to the store returns. -/
def isAnswer : Event → Bool
  | .page _ | .removal _ | .stream .. => true
  | _ => false

end Event

def Call.store? : Call → Option StoreCall
  | .store c => some c
  | _ => none

/-- The marks of a step by what is held before and after it and the store calls that it starts. -/
def marksOf (e : Event) (before after : Permit) (cs : List StoreCall) : List Mark :=
  let admission := match e.admission? with
    | some (.ok ()) => [.granted]
    | some (.error _) => [.refused]
    | none => []
  let returned := if e.isAnswer then [.returned] else []
  let lost := match before, after with
    | .fresh, .none => [.forfeited]
    | .used, .none => [if e.isAnswer then .released else .interrupted]
    | _, _ => []
  admission ++ cs.map .started ++ returned ++ lost

/-- What the limiter and the store see of a step. -/
def marks (s : State) (e : Event) (s' : State) : List Mark :=
  marksOf e (s.permit e.actor) (s'.permit e.actor)
    ((s'.calls.drop s.calls.length).filterMap Call.store?)

/-- What a step does to the permit of the one whose step it is, with the calls that it starts and
whether that one is done before and after it. -/
inductive Handles (e : Event) :
    (before after : Permit) → List StoreCall → (done done' : Bool) → Prop
  | granted (he : e.admission? = some (.ok ())) (ha : e.isAnswer = false) :
    Handles e .none .fresh [] false false
  | refused {c} (he : e.admission? = some (.error c)) (ha : e.isAnswer = false) :
    Handles e .none .none [] false true
  | started {c} (he : e.admission? = none) (ha : e.isAnswer = false) :
    Handles e .fresh .used [c] false false
  | returned {done' : Bool} (he : e.admission? = none) (ha : e.isAnswer) :
    Handles e .used .none [] false done'
  | kept {m} {done done' : Bool} (he : e.admission? = none) (ha : e.isAnswer = false)
    (hd : done → done') : Handles e m m [] done done'
  | givenUp {m} (he : e.admission? = none) (ha : e.isAnswer = false) :
    Handles e m .none [] false true

/-- Whether a phase goes with what is held, and with being done. -/
structure Fits (ph : Phase) (m : Permit) (done : Bool) : Prop where
  permit_eq : ph.permit = m
  /-- A permit is given back as soon as the call returns. -/
  returned : ph ≠ .answered
  stopped : ph = .stopped → done

/-- The phase of one who is not done. -/
def phaseOf : Permit → Phase
  | .none => .idle
  | .fresh => .granted
  | .used => .calling

/-- A permit tells the phase of whoever is not over. -/
lemma Fits.phase_eq {ph : Phase} {m : Permit} (hf : Fits ph m false) : ph = phaseOf m := by
  obtain ⟨rfl, hreturned, hstopped⟩ := hf
  cases ph with
  | idle | granted | calling => rfl
  | answered => exact absurd rfl hreturned
  | stopped => cases hstopped rfl

/-- A step shows marks that go on in order. -/
lemma Handles.fits {e : Event} {m m' : Permit} {cs : List StoreCall} {done done' : Bool}
    {ph : Phase} (h : Handles e m m' cs done done') (hf : Fits ph m done) :
    ∃ ph', ph.after (marksOf e m m' cs) = some ph' ∧ Fits ph' m' done' := by
  cases h with
  | granted he ha =>
    refine ⟨.granted, ?_, rfl, nofun, nofun⟩
    rw [hf.phase_eq]
    simp only [marksOf, he, ha]
    rfl
  | refused he ha =>
    refine ⟨.stopped, ?_, rfl, nofun, fun _ => rfl⟩
    rw [hf.phase_eq]
    simp only [marksOf, he, ha]
    rfl
  | started he ha =>
    refine ⟨.calling, ?_, rfl, nofun, nofun⟩
    rw [hf.phase_eq]
    simp only [marksOf, he, ha]
    rfl
  | returned he ha =>
    refine ⟨.idle, ?_, rfl, nofun, nofun⟩
    rw [hf.phase_eq]
    simp only [marksOf, he, ha]
    rfl
  | kept he ha hd =>
    refine ⟨ph, ?_, hf.permit_eq, hf.returned, fun h => hd (hf.stopped h)⟩
    simp only [marksOf, he, ha]
    cases m <;> rfl
  | givenUp he ha =>
    rw [hf.phase_eq]
    simp only [marksOf, he, ha]
    -- Who holds nothing stays idle, and who holds a permit gives it back.
    cases m with
    | none => exact ⟨.idle, rfl, rfl, nofun, nofun⟩
    | fresh | used => exact ⟨.stopped, rfl, rfl, nofun, fun _ => rfl⟩

section Turns

variable {j : Job} {s s' : State} {e : Event}

/-- No permit is held after entries have been handed out. -/
lemma State.permit_supply (s : State) (entries : List Entry) :
    (s.supply entries).stage.permit = .none := by
  cases entries with
  | cons e rest => rfl
  | nil =>
    rw [State.supply]
    split <;> rfl

/-- No permit is held after a page has been counted. -/
lemma State.permit_countPage (s : State) (t : Totals) (p : Page) :
    (s.countPage t p).stage.permit = .none := by
  unfold State.countPage
  split <;> rfl

/-- No permit is held when cleaning up begins. -/
lemma State.permit_cleanUp (s : State) : (s.cleanUp j).stage.permit = .none := by
  unfold State.cleanUp
  split <;> rfl

/-- No permit is held when the counters are settled. -/
lemma State.permit_settle (s : State) : (s.settle j).stage.permit = .none := by
  unfold State.settle
  split
  · rfl
  · exact s.permit_cleanUp

/-- No permit is held when the main task goes on. -/
lemma State.permit_resume (s : State) (next : Next) : (s.resume j next).stage.permit = .none := by
  cases next with
  | begin_ =>
    show Stage.permit (if j.slots ≤ slotLimit then .looping else .ended) = .none
    split <;> rfl
  | cleanUp => exact s.permit_cleanUp
  | loop | stop => rfl

/-- A turn is the doing of the main task. -/
lemma Turn.actor (h : Turn j s e s') : e.actor = .main := by
  rw [Event.actor, h.download?]

/-- What a turn does to the permit of the main loop. -/
lemma Turn.handles (h : Turn j s e s') :
    ∃ cs : List StoreCall, s'.calls = s.calls ++ cs.map .store ∧
      Handles e s.stage.permit s'.stage.permit cs s.stage.isOver s'.stage.isOver := by
  have kept (he : e.admission? = none) (ha : e.isAnswer = false) (hc : s'.calls = s.calls)
      (hp : s'.stage.permit = s.stage.permit) : ∃ cs : List StoreCall,
        s'.calls = s.calls ++ cs.map .store ∧
        Handles e s.stage.permit s'.stage.permit cs s.stage.isOver s'.stage.isOver := by
    refine ⟨[], by rw [hc, List.map_nil, List.append_nil], ?_⟩
    rw [hp]
    exact .kept he ha h.isOver
  have quiet {calls : List Call} (hc : calls = s.calls) :
      calls = s.calls ++ ([] : List StoreCall).map .store := by
    rw [hc, List.map_nil, List.append_nil]
  -- Most turns start no call and leave what the main loop holds as it is.
  cases h with
  | created hl | notCreated hl | failed hl | folded hl | unheard hl =>
    exact kept rfl rfl rfl (by rw [hl]; rfl)
  | joined | took | hungUp => exact kept rfl rfl rfl rfl
  | acquired hl =>
    refine kept rfl rfl ?_ ?_
    · rw [State.supply_eq]
    · rw [State.permit_supply, hl]
      rfl
  | drained hl =>
    refine kept rfl rfl ?_ ?_
    · rw [State.settle_eq]
    · rw [State.permit_settle, hl]
      rfl
  | sent hl =>
    refine kept rfl rfl ?_ ?_
    · rw [State.resume_eq]
    · rw [State.permit_resume, hl]
      rfl
  | @granted k n hl =>
    refine ⟨[], quiet rfl, ?_⟩
    rw [hl]
    cases k <;> exact .granted rfl rfl
  | @refused k n c hl hk =>
    refine ⟨[], quiet rfl, ?_⟩
    rw [hl]
    cases k with
    | counting | paging => exact .refused rfl rfl
    | cleaning => cases hk
  | deletionRefused hl =>
    refine ⟨[], quiet rfl, ?_⟩
    rw [hl]
    exact .refused rfl rfl
  | @started k n hl =>
    refine ⟨[k.call j s], rfl, ?_⟩
    rw [hl]
    cases k <;> exact .started rfl rfl
  | counted hl =>
    refine ⟨[], quiet ?_, ?_⟩
    · rw [State.countPage_eq]
    · rw [State.permit_countPage, hl]
      exact .returned rfl rfl
  | supplied hl =>
    refine ⟨[], quiet ?_, ?_⟩
    · rw [State.supply_eq]
    · rw [State.permit_supply, hl]
      exact .returned rfl rfl
  | @notListed k n c err hl | @listedAgain k n c hl =>
    refine ⟨[], quiet rfl, ?_⟩
    rw [hl]
    cases k <;> exact .returned rfl rfl
  | deleted hl | notDeleted hl | deletedAgain hl =>
    refine ⟨[], quiet rfl, ?_⟩
    rw [hl]
    exact .returned rfl rfl
  | cancelled _ ho =>
    refine ⟨[], quiet rfl, ?_⟩
    rw [ho]
    exact .givenUp rfl rfl

end Turns

section Steps

variable {j : Job} {s s' : State} {e : Event}

/-- The calls to the store among what a download does. -/
def storeCalls (fs : List Effect) : List StoreCall :=
  (fs.filterMap Effect.call?).filterMap Call.store?

/-- What a move does to the permit of its download. -/
lemma Download.Move.handles {d d' : Download} {fs : List Effect} (h : Download.Move j d e d' fs) :
    Handles e d.permit d'.permit (storeCalls fs) (!d.isRunning) (!d'.isRunning) := by
  have hrun := h.isRunning
  rw [hrun]
  cases h with
  | granted hs =>
    simp only [Download.permit, hs]
    exact .granted rfl rfl
  | refused hs =>
    simp only [Download.permit, hs]
    exact .refused rfl rfl
  | started hs =>
    simp only [Download.permit, hs]
    exact .started rfl rfl
  | fetched hs | notFetched hs | retried hs =>
    simp only [Download.permit, hs]
    exact .returned rfl rfl
  | opened hs | notOpened hs | gave hs | ended hs | brokeOff hs | stored hs | written hs
  | notWritten hs | closed hs | notClosed hs =>
    simp only [Download.permit, hs]
    exact .kept rfl rfl nofun
  | abandoned => exact .givenUp rfl rfl

/-- A turn does nothing to the permit of a download, and gives none to a new one. -/
lemma Turn.onDownload (h : Turn j s e s') (i : Nat) :
    s'.permit (.download i) = s.permit (.download i) ∧
      s'.isDone (.download i) = s.isDone (.download i) := by
  have hds := h.onDownloads
  simp only [State.permit, State.isDone]
  cases hd : s'.downloads[i]? with
  | none =>
    have hlength := hds.length_le
    have hge := List.getElem?_eq_none_iff.1 hd
    rw [List.getElem?_eq_none (Nat.le_trans hlength hge)]
    exact ⟨rfl, rfl⟩
  | some d' =>
    rcases hds.origin hd with hd₀ | ⟨d, r, hd₀, hf, rfl⟩ | ⟨rfl, hd'⟩
    · rw [hd₀]
      exact ⟨rfl, rfl⟩
    · rw [hd₀]
      exact ⟨rfl, rfl⟩
    · rw [hd', List.getElem?_eq_none (Nat.le_refl _)]
      exact ⟨rfl, rfl⟩

/-- A turn leaves the fresh permits of downloads as many as they were. -/
lemma Turn.countP_fresh (h : Turn j s e s') :
    s'.downloads.countP (·.permit.isFresh) = s.downloads.countP (·.permit.isFresh) := by
  have hds := h.onDownloads
  generalize s.downloads = ds, s'.downloads = ds' at hds
  cases hds with
  | same => rfl
  | scheduled entry => simp [Download.permit, Retry.Stage.first, Retry.Stage.permit, Permit.isFresh]
  | @joined i d r hd hf =>
    exact countP_set_of_eq hd rfl

/-- A download that advances is what it has become. -/
lemma State.getElem?_advance_self {i : Nat} {d : Download} (hd : s.downloads[i]? = some d)
    (d' : Download) (fs : List Effect) : (s.advance j i d' fs).downloads[i]? = some d' :=
  List.getElem?_set_self (List.getElem?_eq_some_iff.1 hd).1

/-- When a download advances, all others stay. -/
lemma State.getElem?_advance_of_ne {i k : Nat} (hne : i ≠ k) (d' : Download) (fs : List Effect) :
    (s.advance j i d' fs).downloads[k]? = s.downloads[k]? :=
  List.getElem?_set_ne hne

/-- The store calls that a step starts are those that it puts into the list of calls. -/
lemma filterMap_store?_drop (calls : List Call) (cs : List StoreCall) :
    ((calls ++ cs.map Call.store).drop calls.length).filterMap Call.store? = cs := by
  rw [List.drop_left, List.filterMap_map]
  exact List.filterMap_some

/-- A step handles the permit of the one whose step it is. -/
lemma handles_step (h : step j s e = some s') :
    Handles e (s.permit e.actor) (s'.permit e.actor)
      ((s'.calls.drop s.calls.length).filterMap Call.store?) (s.isDone e.actor)
      (s'.isDone e.actor) := by
  cases Step.of_step h with
  | turn ht =>
    obtain ⟨cs, hcalls, hhandles⟩ := ht.handles
    rw [ht.actor, hcalls, filterMap_store?_drop]
    exact hhandles
  | @move i d d' fs hi hd hp hm =>
    have hd' := State.getElem?_advance_self (j := j) hd d' fs
    have hcalls : ((s.advance j i d' fs).calls.drop s.calls.length).filterMap Call.store? =
        storeCalls fs := congrArg _ List.drop_left
    rw [hcalls, Event.actor_of_download hi]
    simp only [State.permit, State.isDone, hd, hd', Option.map_some, Option.getD_some,
      Option.any_some]
    exact hm.handles

/-- The marks of a step go on in order for the one whose step it is. -/
theorem fits_step (h : step j s e = some s') {ph : Phase}
    (hf : Fits ph (s.permit e.actor) (s.isDone e.actor)) :
    ∃ ph', ph.after (marks s e s') = some ph' ∧
      Fits ph' (s'.permit e.actor) (s'.isDone e.actor) :=
  (handles_step h).fits hf

/-- What all others hold stays as it is. -/
lemma permit_step_of_ne (h : step j s e = some s') {a : Actor} (ha : a ≠ e.actor) :
    s'.permit a = s.permit a ∧ s'.isDone a = s.isDone a := by
  cases Step.of_step h with
  | turn ht =>
    cases a with
    | main => exact absurd ht.actor.symm ha
    | download i => exact ht.onDownload i
  | @move i d d' fs hi hd hp hm =>
    cases a with
    | main => exact ⟨rfl, rfl⟩
    | download k =>
      have hne : i ≠ k := by
        rintro rfl
        exact ha (Event.actor_of_download hi).symm
      have hk := State.getElem?_advance_of_ne (j := j) (s := s) hne d' fs
      simp only [State.permit, State.isDone, hk, and_self]

/-- Only the permit of the one whose step it is counts differently after a step. -/
lemma unspent_step (h : step j s e = some s') :
    s'.unspent + (s.permit e.actor).isFresh.toNat =
      s.unspent + (s'.permit e.actor).isFresh.toNat := by
  cases Step.of_step h with
  | turn ht =>
    rw [ht.actor, State.unspent, State.unspent, ht.countP_fresh]
    simp only [State.permit]
    omega
  | @move i d d' fs hi hd hp hm =>
    have hd' := State.getElem?_advance_self (j := j) hd d' fs
    have hset := countP_set_add (p := fun d : Download => d.permit.isFresh) d' hd
    simp only [Event.actor_of_download hi, State.unspent, State.permit, hd, hd', Option.map_some,
      Option.getD_some]
    show s.stage.permit.isFresh.toNat + (s.downloads.set i d').countP _ + _ = _
    omega

/-- A stage that asks for admission has no permit and is not the last one. -/
lemma Stage.of_asks {st : Stage} (h : st.asks) : st.permit = .none ∧ st.isOver = false := by
  unfold asks at h
  split at h
  · exact ⟨rfl, rfl⟩
  · exact ⟨rfl, rfl⟩
  · exact ⟨rfl, rfl⟩
  · cases h

/-- A download that asks for admission has no permit and is running. -/
lemma Download.of_asks {d : Download} (h : d.asks) : d.permit = .none ∧ d.isRunning := by
  unfold asks at h
  split at h
  case h_1 n hs =>
    rw [permit, isRunning, hs]
    exact ⟨rfl, rfl⟩
  case h_2 => cases h

/-- Who asks for admission holds nothing, and has not been refused before. -/
lemma State.of_asks {a : Actor} (ha : s.asks a) : s.permit a = .none ∧ s.isDone a = false := by
  cases a with
  | main => exact Stage.of_asks ha
  | download i =>
    simp only [asks, permit, isDone] at ha ⊢
    cases hd : s.downloads[i]? with
    | none =>
      rw [hd] at ha
      cases ha
    | some d =>
      rw [hd] at ha
      obtain ⟨hpermit, hrun⟩ := Download.of_asks ha
      exact ⟨hpermit, by rw [Option.any_some, hrun]; rfl⟩

/-- Whoever asks for admission is between two calls. -/
lemma State.idle_of_asks {a : Actor} {ph : Phase} (ha : s.asks a)
    (hf : Fits ph (s.permit a) (s.isDone a)) : ph = .idle := by
  obtain ⟨hpermit, hdone⟩ := State.of_asks ha
  rw [hpermit, hdone] at hf
  exact hf.phase_eq

end Steps

end Transfer

end FolderCopy
