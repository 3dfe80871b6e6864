import FolderCopy.Proofs.Counting
import FolderCopy.Pacing

/-!
# The slots of a limiter

The steps of a limiter are inverted once (`Step`). A slot is free or owned by a caller that has
taken it and neither given its permit back nor given up, so there are never more permits than slots.
-/

namespace FolderCopy.Pacing

variable {l : Limiter} {s s' : State} {e : Event}

/-- The ways in which a limiter goes on, and what they leave behind. -/
inductive Step (l : Limiter) (s : State) : Event → State → Prop where
  | arrived : Step l s .arrive { s with callers := s.callers ++ [.queued] }
  | tookSlot {i} (h : s.callers[i]? = some .queued) (hf : s.free ≠ 0) :
    Step l s (.takeSlot i) { s.set i .slotted with free := s.free - 1 }
  | admitted {i} (h : s.callers[i]? = some .slotted) (hp : s.pacer = none) (hr : s.rest l = 0) :
    Step l s (.enter i) (s.grant i)
  | entered {i} (h : s.callers[i]? = some .slotted) (hp : s.pacer = none) (hr : s.rest l ≠ 0) :
    Step l s (.enter i) { s.set i (.pacing (s.now + s.rest l)) with pacer := some i }
  | woke {i t} (h : s.callers[i]? = some (.pacing t)) (ht : t ≤ s.now) :
    Step l s (.wake i) (s.grant i)
  | leftQueue {i} (h : s.callers[i]? = some .queued) :
    Step l s (.abandon i) (s.set i .abandoned)
  | leftSlot {i} (h : s.callers[i]? = some .slotted) :
    Step l s (.abandon i) { s.set i .abandoned with free := s.free + 1 }
  | leftPacing {i t} (h : s.callers[i]? = some (.pacing t)) :
    Step l s (.abandon i) { s.set i .abandoned with free := s.free + 1, pacer := none }
  | released {i t} (h : s.callers[i]? = some (.granted t)) :
    Step l s (.release i) { s.set i (.released t) with free := s.free + 1 }
  | passed (time : Nat) : Step l s (.pass time) { s with now := s.now + time }

/-- Every step is one of those that are listed. -/
lemma Step.of_step (h : step l s e = some s') : Step l s e s' := by
  cases e with
  | arrive =>
    cases h
    exact .arrived
  | takeSlot i =>
    simp only [step] at h
    split at h <;> try cases h
    case h_1 hi =>
      split at h <;> cases h
      case isFalse hf => exact .tookSlot hi hf
  | enter i =>
    simp only [step] at h
    split at h <;> try cases h
    case h_1 hi hp =>
      split at h <;> cases h
      case isTrue hr => exact .admitted hi hp hr
      case isFalse hr => exact .entered hi hp hr
  | wake i =>
    simp only [step] at h
    split at h <;> try cases h
    case h_1 t hi =>
      split at h <;> cases h
      case isTrue ht => exact .woke hi ht
  | abandon i =>
    simp only [step] at h
    split at h <;> cases h
    case h_1 hi => exact .leftQueue hi
    case h_2 hi => exact .leftSlot hi
    case h_3 t hi => exact .leftPacing hi
  | release i =>
    simp only [step] at h
    split at h <;> cases h
    case h_1 t hi => exact .released hi
  | pass time =>
    cases h
    exact .passed time

namespace Caller

/-- Whether a caller owns a slot. -/
def ownsSlot : Caller → Bool
  | .slotted | .pacing _ | .granted _ => true
  | .queued | .released _ | .abandoned => false

/-- Whether a caller holds a permit. -/
def isGranted : Caller → Bool
  | .granted _ => true
  | _ => false

end Caller

/-- The slots that are free or owned. -/
def State.slots (s : State) : Nat :=
  s.free + s.callers.countP Caller.ownsSlot

/-- A caller that changes and a slot that changes hands with it keep the number of slots. -/
lemma State.slots_set {i f : Nat} {c : Caller} (hi : s.callers[i]? = some c) (c' : Caller)
    (hf : f + c'.ownsSlot.toNat = s.free + c.ownsSlot.toNat) :
    f + (s.callers.set i c').countP Caller.ownsSlot = s.slots := by
  have hset := countP_set_add (p := Caller.ownsSlot) c' hi
  unfold State.slots
  omega

/-- No slot is lost and none is made up. -/
lemma Step.slots_eq (h : Step l s e s') : s'.slots = s.slots := by
  cases h with
  | arrived => simp [State.slots, Caller.ownsSlot]
  | tookSlot hi hf => exact State.slots_set hi .slotted (show s.free - 1 + 1 = s.free + 0 by omega)
  | admitted hi | woke hi => exact State.slots_set hi (.granted s.now) rfl
  | entered hi => exact State.slots_set hi (.pacing _) rfl
  | leftQueue hi | leftSlot hi | leftPacing hi => exact State.slots_set hi .abandoned rfl
  | released hi => exact State.slots_set hi (.released _) rfl
  | passed time => rfl

/-- No caller is ever forgotten. -/
lemma Step.length_le (h : Step l s e s') : s.callers.length ≤ s'.callers.length := by
  cases h with
  | arrived => simp
  | passed => exact Nat.le_refl _
  | _ => exact Nat.le_of_eq List.length_set.symm

/-- A permit is held until it is given back. -/
lemma Step.granted (h : Step l s e s') {k t : Nat} (hk : s.callers[k]? = some (.granted t))
    (he : e ≠ .release k) : s'.callers[k]? = some (.granted t) := by
  have hset {i : Nat} {c : Caller} (hi : s.callers[i]? = some c) (hc : c ≠ .granted t)
      (c' : Caller) : (s.callers.set i c')[k]? = some (.granted t) := by
    rw [List.getElem?_set_ne, hk]
    rintro rfl
    rw [hi] at hk
    exact hc (Option.some.inj hk)
  cases h with
  | arrived => exact List.getElem?_append_left (List.getElem?_eq_some_iff.1 hk).1 ▸ hk
  | tookSlot hi | admitted hi | entered hi | woke hi | leftQueue hi | leftSlot hi | leftPacing hi =>
    exact hset hi nofun _
  | @released i t' hi =>
    have hne : i ≠ k := by
      rintro rfl
      exact he rfl
    exact (List.getElem?_set_ne hne).trans hk
  | passed => exact hk

/-- There are as many permits as slots at most. -/
lemma State.countP_granted_le (s : State) : s.callers.countP Caller.isGranted ≤ s.slots := by
  have hle : s.callers.countP Caller.isGranted ≤ s.callers.countP Caller.ownsSlot := by
    apply List.countP_mono_left
    intro c _ hc
    cases c <;> first | rfl | cases hc
  exact Nat.le_trans hle (Nat.le_add_left _ _)

end FolderCopy.Pacing
