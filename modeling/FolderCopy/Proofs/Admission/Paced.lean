import Mathlib.Tactic.Choose
import FolderCopy.Proofs.Admission.Transfer

/-!
# A transfer under a paced limiter

A transfer and the limiter that it asks go on side by side. Whoever of the transfer asks for
admission becomes a caller of the limiter, is admitted when that caller is, and lets it go when the
call has returned or when it is given up itself. Others may call the limiter too. So no more calls
to the store are under way than the limiter has slots; a download that has its content goes on
without a permit.
-/

namespace FolderCopy

open Admission

def Admission.Permit.isHeld : Permit → Bool
  | .none => false
  | .fresh | .used => true

/-- How many permits are held in a transfer. -/
def Transfer.State.held (s : Transfer.State) : Nat :=
  s.stage.permit.isHeld.toNat + s.downloads.countP (·.permit.isHeld)

namespace Paced

open Transfer (Actor Job Download)
open Pacing (Limiter Caller)

/-- A transfer and its limiter. -/
structure State where
  transfer : Transfer.State
  limiter : Pacing.State
  /-- Who of the transfer is which caller of the limiter. -/
  callers : List (Actor × Nat) := []

def State.start (j : Job) (l : Limiter) (disk : Disk) : State :=
  { transfer := .start j disk, limiter := .start l }

inductive Event where
  /-- One of the transfer calls the limiter. -/
  | ask (a : Actor)
  | limiter (e : Pacing.Event)
  | transfer (e : Transfer.Event)

/-- The caller that leaves with an event. -/
def leaver? : Pacing.Event → Option Nat
  | .abandon k | .release k => some k
  | _ => none

namespace State

variable (s : State)

def caller? (a : Actor) : Option Nat :=
  (s.callers.find? (·.1 == a)).map (·.2)

/-- Whether the limiter has admitted one of the transfer. -/
def isAdmitted (a : Actor) : Bool :=
  (s.caller? a).any fun k => s.limiter.callers[k]?.any Caller.isGranted

/-- Lets the caller of one go, with its permit if it has one. -/
def letGo (l : Limiter) (a : Actor) : Option State :=
  match s.caller? a with
  | none => some s
  | some k =>
    (Pacing.step l s.limiter (if s.isAdmitted a then .release k else .abandon k)).map fun limiter =>
      { s with limiter, callers := s.callers.filter (·.1 != a) }

end State

/-- Whether one of a transfer has given up what it asked for, or given back what it held. -/
def lets (before after : Transfer.State) (a : Actor) : Bool :=
  (before.asks a && !after.asks a) || ((before.permit a).isHeld && !(after.permit a).isHeld)

/-- The state after an event; none if it cannot happen. The limiter refuses nobody, and nobody else
can make a caller of the transfer leave. -/
def step (j : Job) (l : Limiter) (s : State) : Event → Option State
  | .ask a =>
    if s.transfer.asks a && (s.caller? a).isNone then
      (Pacing.step l s.limiter .arrive).map fun limiter =>
        { s with limiter, callers := (a, s.limiter.callers.length) :: s.callers }
    else none
  | .limiter e =>
    if (leaver? e).all fun k => s.callers.all (·.2 != k) then
      (Pacing.step l s.limiter e).map fun limiter => { s with limiter }
    else none
  | .transfer e =>
    (Transfer.step j s.transfer e).bind fun transfer =>
      match e.admission? with
      | some (.ok ()) => if s.isAdmitted e.actor then some { s with transfer } else none
      | some (.error _) => none
      | none =>
        if lets s.transfer transfer e.actor then { s with transfer }.letGo l e.actor
        else some { s with transfer }

/-- The state after events in turn; none if one of them cannot happen. -/
def run (j : Job) (l : Limiter) (s : State) (es : List Event) : Option State :=
  es.foldlM (step j l) s

/-- Whoever of a transfer holds a permit is a caller of its own that the limiter has admitted. -/
structure Sound (l : Limiter) (s : State) : Prop where
  slots : s.limiter.slots = l.slots
  apart : ∀ a b k, (a, k) ∈ s.callers → (b, k) ∈ s.callers → a = b
  known : ∀ a k, (a, k) ∈ s.callers → k < s.limiter.callers.length
  admitted : ∀ a, (s.transfer.permit a).isHeld →
    ∃ k t, (a, k) ∈ s.callers ∧ s.limiter.callers[k]? = some (.granted t)

section Steps

variable {j : Job} {l : Limiter} {s s' : State} {a : Actor}

/-- The caller of a party is among all callers. -/
lemma State.mem_callers {k : Nat} (h : s.caller? a = some k) : (a, k) ∈ s.callers := by
  obtain ⟨⟨b, k'⟩, hfind, rfl⟩ := Option.map_eq_some_iff.1 h
  obtain rfl : b = a := by simpa using List.find?_some hfind
  exact List.mem_of_find?_eq_some hfind

/-- Whoever is admitted has a caller that has been granted admission. -/
lemma State.exists_granted (h : s.isAdmitted a) :
    ∃ k t, s.caller? a = some k ∧ s.limiter.callers[k]? = some (.granted t) := by
  unfold isAdmitted at h
  cases hk : s.caller? a with
  | none =>
    rw [hk] at h
    cases h
  | some k =>
    rw [hk, Option.any_some] at h
    cases hc : s.limiter.callers[k]? with
    | none =>
      rw [hc] at h
      cases h
    | some c =>
      rw [hc] at h
      cases c with
      | granted t => exact ⟨k, t, rfl, hc⟩
      | _ => cases h

/-- The limiter goes on, and nobody of the transfer leaves. -/
lemma Sound.limiter (h : Sound l s) {e : Pacing.Event} {limiter : Pacing.State}
    (hs : Pacing.step l s.limiter e = some limiter)
    (he : ∀ a k, (a, k) ∈ s.callers → e ≠ .release k) : Sound l { s with limiter } := by
  have hstep := Pacing.Step.of_step hs
  constructor
  · exact hstep.slots_eq.trans h.slots
  · exact h.apart
  · exact fun a k hm => Nat.lt_of_lt_of_le (h.known a k hm) hstep.length_le
  · intro a ha
    obtain ⟨k, t, hm, hk⟩ := h.admitted a ha
    exact ⟨k, t, hm, hstep.granted hk (he a k hm)⟩

/-- One of the transfer becomes a caller of the limiter. -/
lemma Sound.ask (h : Sound l s) {limiter : Pacing.State}
    (hs : Pacing.step l s.limiter .arrive = some limiter) :
    Sound l { s with limiter, callers := (a, s.limiter.callers.length) :: s.callers } := by
  have hsound := h.limiter hs (fun _ _ _ => nofun)
  have hnew {b : Actor} {k : Nat} (hm : (b, k) ∈ s.callers) : k ≠ s.limiter.callers.length :=
    Nat.ne_of_lt (h.known b k hm)
  constructor
  · exact hsound.slots
  · intro b c k hb hc
    rcases List.mem_cons.1 hb with hb | hb <;> rcases List.mem_cons.1 hc with hc | hc
    · cases hb
      cases hc
      rfl
    · cases hb
      exact absurd rfl (hnew hc)
    · cases hc
      exact absurd rfl (hnew hb)
    · exact h.apart b c k hb hc
  · intro b k hb
    rcases List.mem_cons.1 hb with hb | hb
    · cases hb
      cases hs
      simp
    · exact hsound.known b k hb
  · intro b hb
    obtain ⟨k, t, hm, hk⟩ := hsound.admitted b hb
    exact ⟨k, t, List.mem_cons_of_mem _ hm, hk⟩

/-- One of the transfer that holds no permit lets its caller go. -/
lemma Sound.letGo (h : Sound l s) (ha : (s.transfer.permit a).isHeld = false)
    (hs : s.letGo l a = some s') : Sound l s' ∧ s'.transfer = s.transfer := by
  unfold State.letGo at hs
  split at hs
  case h_1 =>
    cases hs
    exact ⟨h, rfl⟩
  case h_2 k hk =>
    obtain ⟨limiter, hl, rfl⟩ := Option.map_eq_some_iff.1 hs
    have hstep := Pacing.Step.of_step hl
    refine ⟨⟨hstep.slots_eq.trans h.slots, ?_, ?_, ?_⟩, rfl⟩
    · intro b c k hb hc
      exact h.apart b c k (List.mem_filter.1 hb).1 (List.mem_filter.1 hc).1
    · intro b k hb
      exact Nat.lt_of_lt_of_le (h.known b k (List.mem_filter.1 hb).1) hstep.length_le
    · intro b hb
      obtain ⟨k', t, hm, hk'⟩ := h.admitted b hb
      have hne : b ≠ a := by
        rintro rfl
        rw [ha] at hb
        cases hb
      -- The caller that leaves is not the one of `b`.
      have hkk : k ≠ k' := by
        rintro rfl
        exact hne (h.apart b a k hm (State.mem_callers hk))
      refine ⟨k', t, List.mem_filter.2 ⟨hm, by simpa using hne⟩, hstep.granted hk' ?_⟩
      split
      · rintro ⟨⟩
        exact hkk rfl
      · exact nofun

/-- Nobody comes to a permit without being admitted. -/
lemma isHeld_of_handles {e : Transfer.Event} {m m' : Permit} {cs : List StoreCall}
    {done done' : Bool} (h : Transfer.Handles e m m' cs done done') (he : e.admission? = none)
    (hm : m'.isHeld) : m.isHeld := by
  cases h with
  | granted he' | refused he' =>
    rw [he'] at he
    cases he
  | started => rfl
  | returned | givenUp => cases hm
  | kept => exact hm

/-- The transfer goes on, and whoever it is admits nobody who is not admitted by the limiter. -/
lemma Sound.transfer (h : Sound l s) {e : Transfer.Event} {t : Transfer.State}
    (ht : Transfer.step j s.transfer e = some t)
    (he : e.admission? = none ∨ s.isAdmitted e.actor) : Sound l { s with transfer := t } := by
  refine ⟨h.slots, h.apart, h.known, ?_⟩
  intro b hb
  by_cases hba : b = e.actor
  · subst hba
    rcases he with he | he
    · exact h.admitted _ (isHeld_of_handles (Transfer.handles_step ht) he hb)
    · obtain ⟨k, t, hk, hgranted⟩ := s.exists_granted he
      exact ⟨k, t, State.mem_callers hk, hgranted⟩
  · have hpermit := (Transfer.permit_step_of_ne ht hba).1
    exact h.admitted b (hpermit ▸ hb)

/-- Who lets go of what was asked for or held has nothing left. -/
lemma not_isHeld_of_lets {e : Transfer.Event} {before after : Transfer.State}
    (ht : Transfer.step j before e = some after) (he : e.admission? = none)
    (hl : lets before after e.actor) : (after.permit e.actor).isHeld = false := by
  rw [lets, Bool.or_eq_true, Bool.and_eq_true, Bool.and_eq_true] at hl
  rcases hl with ⟨hasks, -⟩ | ⟨-, hheld⟩
  · refine Bool.eq_false_iff.2 fun hheld => ?_
    have hbefore := isHeld_of_handles (Transfer.handles_step ht) he hheld
    rw [(Transfer.State.of_asks hasks).1] at hbefore
    cases hbefore
  · simpa using hheld

/-- A step keeps callers and permits together, and is a step of the transfer or none. -/
lemma Sound.step (h : Sound l s) {e : Event} (hs : step j l s e = some s') :
    Sound l s' ∧ (s'.transfer = s.transfer ∨
      ∃ e', Transfer.step j s.transfer e' = some s'.transfer) := by
  cases e with
  | ask a =>
    simp only [Paced.step] at hs
    split at hs
    case isFalse => cases hs
    case isTrue =>
      obtain ⟨limiter, hl, rfl⟩ := Option.map_eq_some_iff.1 hs
      exact ⟨h.ask hl, .inl rfl⟩
  | limiter e =>
    simp only [Paced.step] at hs
    split at hs
    case isFalse => cases hs
    case isTrue hleave =>
      obtain ⟨limiter, hl, rfl⟩ := Option.map_eq_some_iff.1 hs
      refine ⟨h.limiter hl ?_, .inl rfl⟩
      rintro a k hm rfl
      simp only [leaver?, Option.all_some, List.all_eq_true] at hleave
      simpa using hleave (a, k) hm
  | transfer e =>
    obtain ⟨t, ht, hs⟩ := Option.bind_eq_some_iff.1 hs
    split at hs
    case h_1 =>
      split at hs <;> cases hs
      case isTrue hadmitted => exact ⟨h.transfer ht (.inr hadmitted), .inr ⟨e, ht⟩⟩
    case h_2 => cases hs
    case h_3 he =>
      -- Whoever is let go holds nothing any more, so no permit loses its caller.
      have hsound := h.transfer ht (.inl he)
      split at hs
      case isTrue hlets =>
        obtain ⟨hsound', htransfer⟩ := hsound.letGo (not_isHeld_of_lets ht he hlets) hs
        exact ⟨hsound', .inr ⟨e, by rw [htransfer]; exact ht⟩⟩
      case isFalse =>
        cases hs
        exact ⟨hsound, .inr ⟨e, ht⟩⟩

/-- At the start, nobody asks and nobody is admitted. -/
lemma sound_start (j : Job) (l : Limiter) (disk : Disk) : Sound l (.start j l disk) := by
  refine ⟨rfl, nofun, nofun, ?_⟩
  intro a ha
  cases a <;> cases ha

/-- Along every run callers and permits stay together, and the transfer by itself runs too. -/
lemma sound_run {disk : Disk} {es : List Event} (h : run j l (.start j l disk) es = some s) :
    Sound l s ∧ ∃ es', Transfer.Run j disk es' s.transfer := by
  induction es using List.reverseRecOn generalizing s with
  | nil =>
    cases h
    exact ⟨sound_start j l disk, [], .start⟩
  | append_singleton es e ih =>
    rw [run, List.foldlM_append] at h
    obtain ⟨s₀, h₀, h⟩ := Option.bind_eq_some_iff.1 h
    obtain ⟨s₁, hs, h⟩ := Option.bind_eq_some_iff.1 h
    cases h
    obtain ⟨hsound, es', hrun⟩ := ih h₀
    obtain ⟨hsound', hsame | ⟨e', he'⟩⟩ := hsound.step hs
    · exact ⟨hsound', es', hsame ▸ hrun⟩
    · exact ⟨hsound', es' ++ [e'], hrun.step (.of_step he')⟩

end Steps

section Bounds

variable {j : Job} {l : Limiter} {s : State}

/-- Those of a transfer that hold permits. -/
def holders (t : Transfer.State) : List Actor :=
  (if t.stage.permit.isHeld then [.main] else []) ++
    ((List.range t.downloads.length).filter
      fun i => t.downloads[i]?.any (·.permit.isHeld)).map .download

/-- Only held permits have holders. -/
lemma mem_holders {t : Transfer.State} {a : Actor} (h : a ∈ holders t) : (t.permit a).isHeld := by
  rcases List.mem_append.1 h with h | h
  · split at h
    case isTrue hmain =>
      cases List.mem_singleton.1 h
      exact hmain
    case isFalse => cases h
  · obtain ⟨i, hi, rfl⟩ := List.mem_map.1 h
    have hheld := (List.mem_filter.1 hi).2
    rw [Transfer.State.permit]
    cases hd : t.downloads[i]? with
    | none =>
      rw [hd] at hheld
      cases hheld
    | some d =>
      rw [hd] at hheld
      exact hheld

/-- Nobody holds two permits. -/
lemma nodup_holders (t : Transfer.State) : (holders t).Nodup := by
  rw [holders, List.nodup_append]
  refine ⟨?_, ?_, ?_⟩
  · split <;> simp
  · apply (List.nodup_range.filter _).map
    intro i k hik
    cases hik
    rfl
  · rintro a ha b hb rfl
    obtain ⟨i, -, rfl⟩ := List.mem_map.1 hb
    split at ha <;> simp at ha

/-- There are as many holders as held permits. -/
lemma length_holders (t : Transfer.State) : (holders t).length = t.held := by
  rw [holders, List.length_append, List.length_map, ← List.countP_eq_length_filter,
    countP_range_getElem?, Transfer.State.held]
  cases t.stage.permit.isHeld <;> rfl

/-- Each of them has a permit of the limiter to itself. -/
lemma Sound.held_le (h : Sound l s) : s.transfer.held ≤ l.slots := by
  have hcaller (a : Actor) : ∃ k, a ∈ holders s.transfer →
      (a, k) ∈ s.callers ∧ s.limiter.callers[k]?.any Caller.isGranted := by
    by_cases ha : a ∈ holders s.transfer
    · obtain ⟨k, t, hm, hk⟩ := h.admitted a (mem_holders ha)
      exact ⟨k, fun _ => ⟨hm, by rw [hk]; rfl⟩⟩
    · exact ⟨0, fun ha' => absurd ha' ha⟩
  choose f hf using hcaller
  -- Their callers stand at different places of the limiter's, and the admitted ones are counted by
  -- place.
  have hnodup : ((holders s.transfer).map f).Nodup := by
    refine List.Nodup.map_on ?_ (nodup_holders _)
    intro a ha b hb hab
    exact h.apart a b (f a) (hf a ha).1 (hab ▸ (hf b hb).1)
  have hsub : (holders s.transfer).map f ⊆ (List.range s.limiter.callers.length).filter
      fun k => s.limiter.callers[k]?.any Caller.isGranted := by
    intro k hk
    obtain ⟨a, ha, rfl⟩ := List.mem_map.1 hk
    obtain ⟨hm, hgranted⟩ := hf a ha
    exact List.mem_filter.2 ⟨List.mem_range.2 (h.known a _ hm), hgranted⟩
  calc s.transfer.held
      = ((holders s.transfer).map f).length := by rw [List.length_map, length_holders]
    _ ≤ _ := hnodup.length_le_of_subset hsub
    _ = s.limiter.callers.countP Caller.isGranted := by
      rw [← List.countP_eq_length_filter, countP_range_getElem?]
    _ ≤ s.limiter.slots := s.limiter.countP_granted_le
    _ = l.slots := h.slots

/-- A download that holds a permit is running. -/
lemma isRunning_of_isHeld {d : Download} (h : d.permit.isHeld) : d.isRunning := by
  cases hs : d.stage with
  | finished r | abandoned => simp [Download.permit, Permit.isHeld, hs] at h
  | _ => simp [Download.isRunning, hs]

/-- A download whose call is under way is running. -/
lemma isRunning_of_isInFlight {d : Download} (h : d.isInFlight) : d.isRunning := by
  cases hs : d.stage with
  | finished r | abandoned => simp [Download.isInFlight, hs] at h
  | _ => simp [Download.isRunning, hs]

/-- Whatever only running downloads do is done by no more downloads than there are slots. -/
lemma countP_le_slots {disk : Disk} {es : List Transfer.Event} {t : Transfer.State}
    (h : Transfer.Run j disk es t) {p : Download → Bool} (hp : ∀ d, p d → d.isRunning) :
    t.downloads.countP p ≤ j.slots :=
  calc t.downloads.countP p
      ≤ t.running := List.countP_mono_left fun d _ => hp d
    _ ≤ t.slots := Nat.le_trans (Nat.le_add_left _ _) (Nat.le_add_right _ _)
    _ ≤ j.slots := h.slots.1

/-- The calls of a transfer that are under way, from their admission until they return, are no more
than the limiter has slots, those for the content of files no more than the transfer has slots
either. Downloads in flight, which go on after their call has returned, are bounded by the slots of
the transfer only. -/
theorem calls_bounded {disk : Disk} {es : List Event} (h : run j l (.start j l disk) es = some s) :
    s.transfer.held ≤ max 1 l.limit ∧
      s.transfer.downloads.countP (·.permit.isHeld) ≤
        min (max 1 j.concurrency) (max 1 l.limit) ∧
      s.transfer.downloads.countP Download.isInFlight ≤ max 1 j.concurrency := by
  obtain ⟨hsound, es', hrun⟩ := sound_run h
  have hheld := hsound.held_le
  refine ⟨hheld, Nat.le_min.2 ⟨?_, ?_⟩, ?_⟩
  · exact countP_le_slots hrun fun d => isRunning_of_isHeld
  · exact Nat.le_trans (Nat.le_add_left _ _) hheld
  · exact countP_le_slots hrun fun d => isRunning_of_isInFlight

end Bounds

/-- A job that copies a folder with two downloads at a time. -/
def overlappingJob : Job where
  folder := "f"
  destination := "d"
  concurrency := 2
  deleteAfter := false
  policy := .standard

/-- A run of this job under a limiter that admits one at a time. The call for the second file is
admitted when the one for the first has returned; then both files are read. -/
def overlappingRun : List Event :=
  let entries : List Entry := [⟨"a", "x", some 2⟩, ⟨"b", "y", some 1⟩]
  let calling (k : Nat) (a : Actor) : List Event :=
    [.ask a, .limiter (.takeSlot k), .limiter (.enter k), .transfer (.admission a (.ok ())),
      .transfer (.start a)]
  let listing (k : Nat) : List Event :=
    calling k .main ++ [.transfer (.page (.ok ⟨entries, none⟩))]
  let opening (k i : Nat) : List Event :=
    calling k (.download i) ++ [.transfer (.stream i (.ok ())), .transfer (.opened i (.ok ()))]
  List.flatten
    [[.transfer (.directory (.ok ()))], listing 0, [.transfer .send, .transfer .acquire], listing 1,
      [.transfer .acquire], opening 2 0, opening 3 1]

/-- Two downloads are in flight under a limiter that admits one call at a time. -/
theorem overlapping_downloads :
    ∃ s, run overlappingJob ⟨1, 0⟩ (.start overlappingJob ⟨1, 0⟩ {}) overlappingRun = some s ∧
      s.transfer.downloads.countP Download.isInFlight = 2 ∧
      min (max 1 overlappingJob.concurrency) (max 1 (Limiter.mk 1 0).limit) = 1 :=
  ⟨_, rfl, rfl, rfl⟩

/-- When the second call for content has been admitted, the limiter has no slot left. -/
theorem calls_bounded_one_slot :
    ∃ s, run overlappingJob ⟨1, 0⟩ (.start overlappingJob ⟨1, 0⟩ {})
        (overlappingRun.take 27) = some s ∧ s.transfer.held = 1 ∧
      s.transfer.held ≤ max 1 (Limiter.mk 1 0).limit := by
  obtain ⟨s, hrun, hheld⟩ : ∃ s, run overlappingJob ⟨1, 0⟩ (.start overlappingJob ⟨1, 0⟩ {})
      (overlappingRun.take 27) = some s ∧ s.transfer.held = 1 := ⟨_, rfl, rfl⟩
  exact ⟨s, hrun, hheld, (calls_bounded hrun).1⟩

end Paced

end FolderCopy
