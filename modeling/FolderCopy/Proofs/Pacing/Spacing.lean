import FolderCopy.Proofs.Pacing.Slots

/-!
# The time between admissions

Whoever is in the pacing section keeps everybody else out of it, and waits there until the interval
since the last admission is over. So admissions come one after the other and none of them comes too
early, and a caller that gives up leaves no trace. Main statement: `admissions_paced`.
-/

namespace FolderCopy.Pacing

namespace Caller

/-- Whether a caller owns a slot and has not been admitted yet. -/
def isEntering : Caller → Bool
  | .slotted | .pacing _ => true
  | _ => false

/-- Whether a caller waits for something, so that it can give up. -/
def isWaiting : Caller → Bool
  | .queued | .slotted | .pacing _ => true
  | _ => false

/-- The slots that are owned are held with a permit or on the way in. -/
lemma countP_ownsSlot (cs : List Caller) :
    cs.countP isGranted + cs.countP isEntering = cs.countP ownsSlot := by
  induction cs with
  | nil => rfl
  | cons c cs ih =>
    simp only [List.countP_cons]
    cases c <;> simp [isGranted, isEntering, ownsSlot] <;> omega

end Caller

namespace State

/-- Whether the caller number `i` holds a permit. -/
def holdsPermit (s : State) (i : Nat) : Bool :=
  s.callers[i]?.any Caller.isGranted

/-- The callers that hold a permit in a later state and held none before. -/
def admittedIn (s s' : State) : List Nat :=
  (List.range s'.callers.length).filter fun i => s'.holdsPermit i && !s.holdsPermit i

end State

/-- The admissions that events in turn bring, each with the caller and the time. -/
def admissions (l : Limiter) (s : State) : List Event → List (Nat × Nat)
  | [] => []
  | e :: es =>
    match step l s e with
    | none => []
    | some s' => (s.admittedIn s').map (·, s.now) ++ admissions l s' es

variable {l : Limiter} {s s' : State} {e : Event} {log : List (Nat × Nat)}

section Admissions

/-- Where callers change one at a time, at most the one that changes is admitted. -/
lemma State.admittedIn_set {i : Nat} {c c' : Caller} (hi : s.callers[i]? = some c)
    (hs : s'.callers = s.callers.set i c') :
    s.admittedIn s' = if c'.isGranted && !c.isGranted then [i] else [] := by
  have hlt := (List.getElem?_eq_some_iff.1 hi).1
  have hother (k : Nat) : (s'.holdsPermit k && !s.holdsPermit k) =
      (k == i && (c'.isGranted && !c.isGranted)) := by
    unfold State.holdsPermit
    rw [hs]
    by_cases hk : k = i
    · subst hk
      simp [hi, List.getElem?_set_self hlt]
    · rw [List.getElem?_set_ne (Ne.symm hk), Bool.and_not_self, beq_false_of_ne hk,
        Bool.false_and]
  unfold State.admittedIn
  simp only [hother]
  cases c'.isGranted && !c.isGranted with
  | false => simp
  | true =>
    simp only [Bool.and_true, if_true, List.filter_beq, hs, List.length_set]
    rw [List.nodup_range.count, if_pos (List.mem_range.2 hlt)]
    rfl

/-- Who has just come has not been admitted. -/
lemma State.admittedIn_arrived :
    s.admittedIn { s with callers := s.callers ++ [.queued] } = [] := by
  rw [State.admittedIn, List.filter_eq_nil_iff]
  intro k _
  unfold State.holdsPermit
  rcases Nat.lt_or_ge k s.callers.length with hk | hk
  · simp [List.getElem?_append_left hk]
  · rw [List.getElem?_append_right hk]
    cases k - s.callers.length <;> simp [Caller.isGranted]

/-- Nobody is admitted by the passing of time. -/
lemma State.admittedIn_passed (time : Nat) :
    s.admittedIn { s with now := s.now + time } = [] := by
  simp [State.admittedIn, State.holdsPermit]

end Admissions

section Pacing

/-- After a caller has changed, it is in the pacing section if it went there, and the others are
where they were. -/
lemma pacing_set_iff {i k t : Nat} {c c' : Caller} (hi : s.callers[i]? = some c) :
    (s.callers.set i c')[k]? = some (.pacing t) ↔
      if k = i then c' = .pacing t else s.callers[k]? = some (.pacing t) := by
  have hlt := (List.getElem?_eq_some_iff.1 hi).1
  split
  case isTrue hk => rw [hk, List.getElem?_set_self hlt, Option.some.injEq]
  case isFalse hk => rw [List.getElem?_set_ne (Ne.symm hk)]

/-- What holds of a limiter after the admissions in `log`. -/
structure Sound (l : Limiter) (s : State) (log : List (Nat × Nat)) : Prop where
  slots : s.slots = l.slots
  pacer : ∀ i : Nat, s.pacer = some i ↔ ∃ t, s.callers[i]? = some (.pacing t)
  last : s.last = log.getLast?.map (·.2)
  past : ∀ t ∈ s.last, t ≤ s.now
  /-- Nobody waits less than the interval. -/
  patient : ∀ (i t : Nat), s.callers[i]? = some (.pacing t) → ∀ u ∈ s.last, u + l.interval ≤ t
  spaced : (log.map (·.2)).Pairwise fun t u => t + l.interval ≤ u

/-- At the start nobody has been admitted. -/
lemma sound_start (l : Limiter) : Sound l (.start l) [] where
  slots := rfl
  pacer _ := ⟨nofun, nofun⟩
  last := rfl
  past := nofun
  patient := nofun
  spaced := .nil

/-- One caller at most is in the pacing section. -/
lemma Sound.pacing_eq (h : Sound l s log) {i k t u : Nat} (hi : s.callers[i]? = some (.pacing t))
    (hk : s.callers[k]? = some (.pacing u)) : i = k :=
  Option.some.inj (((h.pacer i).2 ⟨t, hi⟩).symm.trans ((h.pacer k).2 ⟨u, hk⟩))

/-- A step that admits nobody keeps what holds, where whoever is in the pacing section afterwards
was there before or has just come with enough time to wait. -/
lemma Sound.quiet (h : Sound l s log) (hs : Step l s e s') (hlast : s'.last = s.last)
    (hnow : s.now ≤ s'.now)
    (hpacer : ∀ i : Nat, s'.pacer = some i ↔ ∃ t, s'.callers[i]? = some (.pacing t))
    (hnew : ∀ (i t : Nat), s'.callers[i]? = some (.pacing t) →
      s.callers[i]? = some (.pacing t) ∨ t = s.now + s.rest l) : Sound l s' log where
  slots := hs.slots_eq.trans h.slots
  pacer := hpacer
  last := hlast.trans h.last
  past t ht := Nat.le_trans (h.past t (hlast ▸ ht)) hnow
  patient i t hi u hu := by
    rw [hlast] at hu
    rcases hnew i t hi with hi | rfl
    · exact h.patient i t hi u hu
    · have hpast := h.past u hu
      rw [State.rest, Option.mem_def.1 hu]
      show u + l.interval ≤ s.now + (l.interval - (s.now - u))
      omega
  spaced := h.spaced

/-- To admit a caller whose time has come keeps what holds. -/
lemma Sound.grant (h : Sound l s log) {i : Nat} {c : Caller} (hi : s.callers[i]? = some c)
    (hslot : c.ownsSlot) (halone : ∀ (k t : Nat), s.callers[k]? = some (.pacing t) → k = i)
    (hdue : ∀ u ∈ s.last, u + l.interval ≤ s.now) : Sound l (s.grant i) (log ++ [(i, s.now)]) where
  slots := by
    refine Eq.trans ?_ h.slots
    exact State.slots_set hi (.granted s.now) (by rw [hslot]; rfl)
  pacer k := by
    refine ⟨nofun, ?_⟩
    rintro ⟨t, hk⟩
    have hk := (pacing_set_iff hi).1 hk
    split at hk
    case isTrue => cases hk
    case isFalse hne => exact absurd (halone k t hk) hne
  last := by simp [State.grant]
  past t ht := by
    cases ht
    exact Nat.le_refl _
  patient k t hk := by
    have hk := (pacing_set_iff hi).1 hk
    split at hk
    case isTrue => cases hk
    case isFalse hne => exact absurd (halone k t hk) hne
  spaced := by
    rw [List.map_append, List.pairwise_append]
    refine ⟨h.spaced, List.pairwise_singleton _ _, ?_⟩
    intro t ht u hu
    cases List.mem_singleton.1 hu
    -- Every admission before is not later than the last one, which is long enough ago.
    rcases List.eq_nil_or_concat' log with rfl | ⟨before, a, rfl⟩
    · cases ht
    · have hlast : a.2 ∈ s.last := by simp [h.last]
      have hspaced := h.spaced
      rw [List.map_append, List.pairwise_append] at hspaced
      rw [List.map_append, List.mem_append] at ht
      have hle := hdue a.2 hlast
      rcases ht with ht | ht
      · have := hspaced.2.2 t ht a.2 (by simp)
        show t + l.interval ≤ s.now
        omega
      · cases List.mem_singleton.1 ht
        exact hle

/-- A step of a caller outside the pacing section that does not take it there keeps what holds. -/
lemma Sound.outside (h : Sound l s log) (hs : Step l s e s') {i : Nat} {c c' : Caller}
    (hi : s.callers[i]? = some c) (hcallers : s'.callers = s.callers.set i c')
    (hc : ∀ t, c ≠ .pacing t) (hc' : ∀ t, c' ≠ .pacing t) (hpacer : s'.pacer = s.pacer)
    (hlast : s'.last = s.last) (hnow : s'.now = s.now) : Sound l s' log := by
  have hsame (k t : Nat) :
      s'.callers[k]? = some (.pacing t) ↔ s.callers[k]? = some (.pacing t) := by
    rw [hcallers, pacing_set_iff hi]
    split
    case isTrue hk =>
      subst hk
      simp [hi, hc, hc']
    case isFalse => rfl
  refine h.quiet hs hlast (Nat.le_of_eq hnow.symm) ?_ fun k t hk => .inl ((hsame k t).1 hk)
  intro k
  rw [hpacer, h.pacer]
  simp only [hsame]

/-- A step keeps what holds, with the admission that it brings. -/
lemma Sound.step (h : Sound l s log) (hs : Step l s e s') :
    Sound l s' (log ++ (s.admittedIn s').map (·, s.now)) := by
  have hquiet (hn : s.admittedIn s' = []) (hs' : Sound l s' log) :
      Sound l s' (log ++ (s.admittedIn s').map (·, s.now)) := by
    rwa [hn, List.map_nil, List.append_nil]
  have hgrant {i : Nat} (hn : s.admittedIn s' = [i]) (hs' : Sound l s' (log ++ [(i, s.now)])) :
      Sound l s' (log ++ (s.admittedIn s').map (·, s.now)) := by
    rwa [hn]
  have hstep := hs
  cases hs with
  | arrived =>
    have hsame (k t : Nat) : (s.callers ++ [.queued])[k]? = some (.pacing t) ↔
        s.callers[k]? = some (.pacing t) := by
      rw [List.getElem?_append]
      split
      case isTrue => rfl
      case isFalse hk =>
        rw [List.getElem?_eq_none (Nat.le_of_not_lt hk)]
        cases k - s.callers.length <;> simp
    refine hquiet State.admittedIn_arrived (h.quiet hstep rfl (Nat.le_refl _) ?_ ?_)
    · intro k
      simp only [hsame]
      exact h.pacer k
    · exact fun k t hk => .inl ((hsame k t).1 hk)
  | passed time =>
    exact hquiet (State.admittedIn_passed time)
      (h.quiet hstep rfl (Nat.le_add_right _ _) h.pacer fun k t hk => .inl hk)
  | tookSlot hi | leftQueue hi | leftSlot hi | released hi =>
    exact hquiet ((State.admittedIn_set hi rfl).trans rfl)
      (h.outside hstep hi rfl nofun nofun rfl rfl rfl)
  | admitted hi hp hr =>
    refine hgrant ((State.admittedIn_set hi rfl).trans rfl) (h.grant hi rfl ?_ ?_)
    · intro k t hk
      cases hp.symm.trans ((h.pacer k).2 ⟨t, hk⟩)
    · intro u hu
      have hpast := h.past u hu
      rw [State.rest, Option.mem_def.1 hu] at hr
      have hr : l.interval - (s.now - u) = 0 := hr
      omega
  | woke hi ht =>
    refine hgrant ((State.admittedIn_set hi rfl).trans rfl) (h.grant hi rfl ?_ ?_)
    · exact fun k t hk => h.pacing_eq hk hi
    · exact fun u hu => Nat.le_trans (h.patient _ _ hi u hu) ht
  | entered hi hp hr =>
    have hnone (k t : Nat) : s.callers[k]? ≠ some (.pacing t) := by
      intro hk
      cases hp.symm.trans ((h.pacer k).2 ⟨t, hk⟩)
    refine hquiet ((State.admittedIn_set hi rfl).trans rfl)
      (h.quiet hstep rfl (Nat.le_refl _) ?_ ?_)
    · intro k
      show some _ = some k ↔ ∃ t, (s.callers.set _ _)[k]? = some (.pacing t)
      simp only [pacing_set_iff hi, Option.some.injEq]
      constructor
      · rintro rfl
        exact ⟨_, by rw [if_pos rfl]⟩
      · rintro ⟨t, hk⟩
        split at hk
        case isTrue heq => exact heq.symm
        case isFalse => exact absurd hk (hnone k t)
    · intro k t hk
      have hk := (pacing_set_iff hi).1 hk
      split at hk
      case isTrue =>
        cases hk
        exact .inr rfl
      case isFalse => exact .inl hk
  | @leftPacing i _ hi =>
    have hgone (k t : Nat) : ¬ (s.callers.set i .abandoned)[k]? = some (.pacing t) := by
      intro hk
      have hk := (pacing_set_iff hi).1 hk
      split at hk
      case isTrue => cases hk
      case isFalse hne => exact hne (h.pacing_eq hk hi)
    refine hquiet ((State.admittedIn_set hi rfl).trans rfl)
      (h.quiet hstep rfl (Nat.le_refl _) ?_ ?_)
    · exact fun k => ⟨nofun, fun ⟨t, hk⟩ => absurd hk (hgone k t)⟩
    · exact fun k t hk => absurd hk (hgone k t)

/-- What holds is kept by events in turn, with the admissions that they bring. -/
lemma Sound.run {es : List Event} (h : Sound l s log) (hr : run l s es = some s') :
    Sound l s' (log ++ admissions l s es) := by
  induction es generalizing s log with
  | nil =>
    cases hr
    rwa [admissions, List.append_nil]
  | cons e es ih =>
    rw [Pacing.run, List.foldlM_cons] at hr
    obtain ⟨s₁, hs, hr⟩ := Option.bind_eq_some_iff.1 hr
    rw [admissions, hs, ← List.append_assoc]
    exact ih (h.step (.of_step hs)) hr

end Pacing

section Abandoning

/-- A caller that has given up is out of it for good. -/
lemma Step.abandoned (h : Step l s e s') {i : Nat} (hi : s.callers[i]? = some .abandoned) :
    s'.callers[i]? = some .abandoned := by
  have hset {k : Nat} {c : Caller} (hk : s.callers[k]? = some c) (hc : c ≠ .abandoned)
      (c' : Caller) : (s.callers.set k c')[i]? = some .abandoned := by
    rw [List.getElem?_set_ne, hi]
    rintro rfl
    exact hc (Option.some.inj (hk.symm.trans hi))
  cases h with
  | arrived => exact List.getElem?_append_left (List.getElem?_eq_some_iff.1 hi).1 ▸ hi
  | passed => exact hi
  | tookSlot hk | admitted hk | entered hk | woke hk | leftQueue hk | leftSlot hk | leftPacing hk
  | released hk => exact hset hk nofun _

/-- A caller that has given up is not admitted later. -/
lemma ne_of_mem_admissions {es : List Event} {i : Nat} (hi : s.callers[i]? = some .abandoned) :
    ∀ a ∈ admissions l s es, a.1 ≠ i := by
  induction es generalizing s with
  | nil => exact nofun
  | cons e es ih =>
    intro a ha
    rw [admissions] at ha
    cases hs : step l s e with
    | none =>
      rw [hs] at ha
      cases ha
    | some s₁ =>
      rw [hs] at ha
      have hi₁ := (Step.of_step hs).abandoned hi
      rcases List.mem_append.1 ha with ha | ha
      · obtain ⟨k, hk, rfl⟩ := List.mem_map.1 ha
        rintro rfl
        simp [State.admittedIn, State.holdsPermit, hi₁, Caller.isGranted] at hk
      · exact ih hi₁ a ha

/-- A caller that waits can give up. What it owned is free again, and all else stays as it was. -/
lemma Sound.exists_abandoned (h : Sound l s log) {i : Nat} {c : Caller}
    (hi : s.callers[i]? = some c) (hc : c.isWaiting) :
    ∃ s', Pacing.step l s (.abandon i) = some s' ∧ s'.free = s.free + c.isEntering.toNat ∧
      s'.pacer = (if s.pacer = some i then none else s.pacer) ∧ s'.last = s.last ∧
      s'.callers = s.callers.set i .abandoned := by
  have hpacer (hn : ∀ t, c ≠ .pacing t) : s.pacer ≠ some i := by
    intro hp
    obtain ⟨t, ht⟩ := (h.pacer i).1 hp
    exact hn t (Option.some.inj (hi.symm.trans ht))
  cases c with
  | queued =>
    refine ⟨s.set i .abandoned, by simp only [Pacing.step, hi], rfl, ?_, rfl, rfl⟩
    rw [if_neg (hpacer fun t ht => by cases ht)]
    rfl
  | slotted =>
    refine ⟨{ s.set i .abandoned with free := s.free + 1 }, by simp only [Pacing.step, hi], rfl, ?_,
      rfl, rfl⟩
    rw [if_neg (hpacer fun t ht => by cases ht)]
    rfl
  | pacing t =>
    refine ⟨{ s.set i .abandoned with free := s.free + 1, pacer := none },
      by simp only [Pacing.step, hi], rfl, ?_, rfl, rfl⟩
    rw [if_pos ((h.pacer i).2 ⟨t, hi⟩)]
  | granted | released | abandoned => cases hc

end Abandoning

/-- Whatever callers do and in whatever order, every slot is free, held with a permit, or owned by a
caller on its way in; one caller at most is in the pacing section; the time of the last admission is
that of the one granted last, and between any two admissions the interval has passed. A caller may
give up wherever it waits: then its slot and the pacing section are free again, the time of the last
admission is what it was, and that caller is never admitted. -/
theorem admissions_paced {l : Limiter} {es : List Event} {s : State}
    (h : run l (.start l) es = some s) :
    let log := admissions l (.start l) es
    s.free + s.callers.countP Caller.isGranted + s.callers.countP Caller.isEntering =
      max 1 l.limit ∧
    s.callers.countP Caller.isGranted ≤ max 1 l.limit ∧
    (∀ i : Nat, s.pacer = some i ↔ ∃ t, s.callers[i]? = some (.pacing t)) ∧
    (∀ i k t u : Nat, s.callers[i]? = some (.pacing t) → s.callers[k]? = some (.pacing u) → i = k) ∧
    s.last = log.getLast?.map (·.2) ∧
    (log.map (·.2)).Pairwise (fun t u => t + l.interval ≤ u) ∧
    ∀ (i : Nat) (c : Caller), s.callers[i]? = some c → c.isWaiting →
      ∃ s', step l s (.abandon i) = some s' ∧ s'.free = s.free + c.isEntering.toNat ∧
        s'.pacer = (if s.pacer = some i then none else s.pacer) ∧ s'.last = s.last ∧
        s'.callers = s.callers.set i .abandoned ∧
        ∀ later, ∀ a ∈ admissions l s' later, a.1 ≠ i := by
  intro log
  have hs : Sound l s log := (sound_start l).run h
  have hslots : s.slots = max 1 l.limit := hs.slots
  refine ⟨?_, ?_, hs.pacer, fun i k t u => hs.pacing_eq, hs.last, hs.spaced, ?_⟩
  · rw [← hslots, State.slots, Nat.add_assoc, Caller.countP_ownsSlot]
  · rw [← hslots]
    exact s.countP_granted_le
  · intro i c hi hc
    obtain ⟨s', hstep, hfree, hpacer, hlast, hcallers⟩ := hs.exists_abandoned hi hc
    refine ⟨s', hstep, hfree, hpacer, hlast, hcallers, fun later => ne_of_mem_admissions ?_⟩
    rw [hcallers, List.getElem?_set_self (List.getElem?_eq_some_iff.1 hi).1]

/-- Two slots, and an interval of a tenth of a second. -/
def pacedLimiter : Limiter :=
  ⟨2, 100⟩

/-- A caller is admitted at once; another one gives up while it waits in the pacing section, and the
third, who had been waiting for a slot, takes its place. -/
def pacedEvents : List Event :=
  [.arrive, .arrive, .arrive, .takeSlot 0, .enter 0, .takeSlot 1, .enter 1, .pass 50, .abandon 1,
    .takeSlot 2, .enter 2, .pass 50, .wake 2]

/-- The third caller is admitted when the interval has passed since the first one was. -/
theorem admissions_paced_three_callers :
    ∃ s, run pacedLimiter (.start pacedLimiter) pacedEvents = some s ∧
      s.callers = [.granted 0, .abandoned, .granted 100] ∧
      admissions pacedLimiter (.start pacedLimiter) pacedEvents = [(0, 0), (2, 100)] ∧
      s.free = 0 ∧ s.last = some 100 := by
  have h : run pacedLimiter (.start pacedLimiter) pacedEvents = some _ := rfl
  obtain ⟨hslots, -, -, -, hlast, -, -⟩ := admissions_paced h
  refine ⟨_, h, rfl, rfl, ?_, hlast⟩
  exact Nat.add_right_cancel (Nat.add_right_cancel hslots)

end FolderCopy.Pacing
