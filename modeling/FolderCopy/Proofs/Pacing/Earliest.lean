import FolderCopy.Proofs.Pacing.Spacing

/-!
# Admission of a single caller

A limiter that has one caller at a time admits it at the earliest time that the slots and the
interval allow, or not at all if that is too late for the caller. `Schedule` says so without slots
that are taken, a section that is entered and callers that give up: it holds the clock, the time of
the last admission, and which permits are held. A limiter is seen as a schedule
(`Sole.schedule`), one operation is compared with the other, and then any number of them. Lengths of
time are any nanoseconds; what is waited for ends at a whole millisecond (`Clock.roundUp`). Main
statement: `admitted_earliest`.
-/

namespace FolderCopy.Pacing

open Clock (roundUp)

/-! ## Operations -/

/-- What a single caller does. All lengths of time are in nanoseconds. -/
inductive Op where
  /-- Asks for admission and gives up after a time. -/
  | ask (limit : Nat)
  /-- Gives the permit of an admission back, admissions counting from zero. -/
  | release (n : Nat)
  /-- Lets time pass. -/
  | sleep (time : Nat)
  deriving DecidableEq, Repr

/-- Whether the time that an operation is given is whole milliseconds long. -/
def Op.IsWhole : Op → Prop
  | .ask time | .sleep time => Clock.IsWhole time
  | .release _ => True

instance : DecidablePred Op.IsWhole
  | .ask time | .sleep time => inferInstanceAs (Decidable (Clock.IsWhole time))
  | .release _ => inferInstanceAs (Decidable True)

/-- What an operation comes to. -/
inductive Answer where
  | granted
  | timedOut
  /-- A permit was given back, if it was held. -/
  | gaveBack (held : Bool)
  | slept
  deriving DecidableEq, Repr

/-- What is seen after an operation. -/
structure Sight where
  answer : Answer
  now : Nat
  free : Nat
  deriving DecidableEq, Repr

namespace Sole

/-- What an operation comes to, and the limiter after it. -/
def perform (c : Sole) : Op → Answer × Sole
  | .ask limit => (if (c.acquire limit).1 then .granted else .timedOut, (c.acquire limit).2)
  | .release n => (.gaveBack (c.release n).1, (c.release n).2)
  | .sleep time => (.slept, c.sleep time)

/-- Whether an operation comes too late in the caller's turn: an attempt that gives up at once finds
a free slot with the last step of the turn, and none is left to go on with. -/
def isTired (c : Sole) : Op → Bool
  | .ask limit => c.tires limit
  | .release _ | .sleep _ => false

/-- The limiter after operations in turn. -/
def after (c : Sole) (ops : List Op) : Sole :=
  ops.foldl (fun c op => (c.perform op).2) c

/-- What is seen after each of some operations in turn. -/
def sights (c : Sole) : List Op → List Sight
  | [] => []
  | op :: ops =>
    let c' := (c.perform op).2
    ⟨(c.perform op).1, c'.state.now, c'.state.free⟩ :: c'.sights ops

/-- Which of some operations in turn come too late in the caller's turn. -/
def tired (c : Sole) : List Op → List Bool
  | [] => []
  | op :: ops => c.isTired op :: (c.perform op).2.tired ops

end Sole

/-! ## Schedules -/

/-- The clock, the time of the last admission, and for each admission whether its permit is held. -/
structure Schedule where
  now : Nat := 0
  last : Option Nat := none
  held : List Bool := []
  deriving DecidableEq, Repr

namespace Schedule

/-- How long it is until the interval since the last admission is over. -/
def wait (p : Schedule) (interval : Nat) : Nat :=
  match p.last with
  | none => 0
  | some t => if t + interval ≤ p.now then 0 else t + interval - p.now

/-- What an operation comes to, and the schedule after it, where to wait for a time takes as long as
`round` says. Who is tired is not admitted. -/
def next (round : Nat → Nat) (l : Limiter) (p : Schedule) (tired : Bool) : Op → Answer × Schedule
  | .ask limit =>
    let w := round (p.wait l.interval)
    if p.held.count true < max 1 l.limit ∧ w ≤ round limit ∧ tired = false then
      (.granted, { now := p.now + w, last := some (p.now + w), held := p.held ++ [true] })
    else (.timedOut, { p with now := p.now + round limit })
  | .release n =>
    if p.held[n]? = some true then (.gaveBack true, { p with held := p.held.set n false })
    else (.gaveBack false, p)
  | .sleep time => (.slept, { p with now := p.now + round time })

/-- What is seen after each of some operations in turn, with whether it finds its caller tired. -/
def sights (round : Nat → Nat) (l : Limiter) (p : Schedule) : List (Op × Bool) → List Sight
  | [] => []
  | (op, tired) :: ops =>
    let p' := (p.next round l tired op).2
    ⟨(p.next round l tired op).1, p'.now, max 1 l.limit - p'.held.count true⟩ ::
      p'.sights round l ops

/-- Whether the clock and the last admission of a schedule are at whole milliseconds. -/
structure IsWhole (p : Schedule) : Prop where
  now : Clock.IsWhole p.now
  last : ∀ t ∈ p.last, Clock.IsWhole t

end Schedule

/-! ## Single attempts -/

section Attempts

variable (l : Limiter) (s : State)

/-- A caller that gives up after it has taken a slot leaves nothing but that it has. -/
lemma run_tired (hf : s.free ≠ 0) :
    run l s [.arrive, .takeSlot s.callers.length, .abandon s.callers.length] =
      some { s with callers := s.callers ++ [.abandoned] } := by
  simp [run, step, State.set, hf]
  omega

/-- A caller that alone asks for admission is admitted when the wait is over, or leaves nothing but
that it has given up. -/
lemma attempt_eq (limit : Nat) (hp : s.pacer = none) (hnow : Clock.IsWhole s.now) :
    attempt l s limit = some (if s.free ≠ 0 ∧ roundUp (s.rest l) ≤ roundUp limit then
      { s with
        now := s.now + roundUp (s.rest l)
        free := s.free - 1
        last := some (s.now + roundUp (s.rest l))
        callers := s.callers ++ [.granted (s.now + roundUp (s.rest l))] }
    else { s with now := s.now + roundUp limit, callers := s.callers ++ [.abandoned] }) := by
  have hrest (free : Nat) (pacer : Option Nat) (callers : List Caller) :
      State.rest { s with free, pacer, callers } l = s.rest l := rfl
  have hwait : roundUp (s.now + s.rest l) = s.now + roundUp (s.rest l) :=
    Clock.roundUp_add hnow _
  have hlimit : roundUp (s.now + limit) = s.now + roundUp limit := Clock.roundUp_add hnow limit
  by_cases hf : s.free = 0
  · simp [attempt, step, State.set, giveUp, run, hf, hlimit]
  · by_cases hr : s.rest l = 0
    · simp [attempt, step, State.set, State.grant, hf, hp, hrest, hr, Clock.roundUp_zero]
    · by_cases hle : roundUp (s.rest l) ≤ roundUp limit
      · have hdue := Clock.le_roundUp (s.rest l)
        simp [attempt, step, State.set, State.grant, run, hf, hp, hrest, hr, hwait, hlimit, hle,
          hdue]
      · have hfree : s.free - 1 + 1 = s.free := Nat.succ_pred hf
        simp [attempt, step, State.set, giveUp, run, hf, hp, hrest, hr, hwait, hlimit, hle, hfree]

end Attempts

/-! ## The schedule of a limiter -/

/-- A limiter as a schedule. -/
def Sole.schedule (c : Sole) : Schedule where
  now := c.state.now
  last := c.state.last
  held := c.admitted.map c.state.holdsPermit

/-- What holds of a limiter between the operations of a single caller. -/
structure Sole.Settled (l : Limiter) (c : Sole) : Prop where
  limiter : c.limiter = l
  pacer : c.state.pacer = none
  past : ∀ t ∈ c.state.last, t ≤ c.state.now
  whole : Clock.IsWhole c.state.now
  slots : c.state.free + c.schedule.held.count true = max 1 l.limit
  known : ∀ i ∈ c.admitted, i < c.state.callers.length
  /-- Nobody is admitted twice. -/
  nodup : c.admitted.Nodup

/-- What asking for admission comes to, beside what is reported and the steps that it takes. -/
inductive Sole.Asked (l : Limiter) (c : Sole) (limit : Nat) : Bool × Sole → Prop where
  | granted {d : Sole}
    (h : c.state.free ≠ 0 ∧ roundUp (c.state.rest l) ≤ roundUp limit ∧ c.tires limit = false)
    (hlimiter : d.limiter = c.limiter)
    (hadmitted : d.admitted = c.admitted ++ [c.state.callers.length])
    (hstate : d.state = { c.state with
      now := c.state.now + roundUp (c.state.rest l)
      free := c.state.free - 1
      last := some (c.state.now + roundUp (c.state.rest l))
      callers := c.state.callers ++ [.granted (c.state.now + roundUp (c.state.rest l))] }) :
    Asked l c limit (true, d)
  | timedOut {d : Sole}
    (h : ¬ (c.state.free ≠ 0 ∧ roundUp (c.state.rest l) ≤ roundUp limit ∧ c.tires limit = false))
    (hlimiter : d.limiter = c.limiter) (hadmitted : d.admitted = c.admitted)
    (hstate : d.state = { c.state with
      now := c.state.now + roundUp limit
      callers := c.state.callers ++ [.abandoned] }) :
    Asked l c limit (false, d)

namespace Sole

variable {l : Limiter} {c d : Sole}

/-- At the start nobody is known, and all slots are free. -/
lemma settled_start (l : Limiter) : (start l).Settled l where
  limiter := rfl
  pacer := rfl
  past := nofun
  whole := Clock.isWhole_zero
  slots := Nat.add_zero _
  known := nofun
  nodup := .nil

/-- How long a caller has to wait is seen from the schedule. -/
lemma Settled.rest_eq (h : c.Settled l) : c.state.rest l = c.schedule.wait l.interval := by
  have hpast := h.past
  simp only [State.rest, Schedule.wait, schedule]
  cases hl : c.state.last with
  | none => rfl
  | some t =>
    have hle := hpast t hl
    show l.interval - (c.state.now - t) =
      if t + l.interval ≤ c.state.now then 0 else t + l.interval - c.state.now
    split <;> omega

/-- Only an attempt that gives up at once comes too late in the caller's turn. -/
lemma tires_iff {limit : Nat} :
    c.tires limit ↔ limit = 0 ∧ c.state.free ≠ 0 ∧ c.effort.left = 1 := by
  simp [tires, Nat.pos_iff_ne_zero, and_assoc]

/-- To ask for admission comes to being granted or to giving up. -/
lemma Settled.asked (h : c.Settled l) (limit : Nat) : Asked l c limit (c.acquire limit) := by
  obtain ⟨rfl, hp⟩ : c.limiter = l ∧ c.state.pacer = none := ⟨h.limiter, h.pacer⟩
  unfold acquire
  split
  case isTrue ht =>
    obtain ⟨rfl, hf, -⟩ := tires_iff.1 ht
    refine .timedOut (fun hn => ?_) rfl rfl ?_
    · rw [ht] at hn
      cases hn.2.2
    · simp only [run_tired c.limiter c.state hf, Clock.roundUp_zero]
      rfl
  case isFalse ht =>
    simp only [attempt_eq c.limiter c.state limit hp h.whole, Option.getD_some]
    by_cases hg : c.state.free ≠ 0 ∧ roundUp (c.state.rest c.limiter) ≤ roundUp limit
    · simp only [if_pos hg, List.getElem?_concat_length, acquire.isGranted, if_true]
      exact .granted ⟨hg.1, hg.2, by simpa using ht⟩ rfl rfl rfl
    · simp only [if_neg hg, List.getElem?_concat_length, acquire.isGranted, Bool.false_eq_true,
        if_false]
      exact .timedOut (fun hn => hg ⟨hn.1, hn.2.1⟩) rfl rfl rfl

/-- Whoever comes is put behind those that are known. -/
lemma Settled.held_append (h : c.Settled l) {s : State} {x : Caller}
    (hs : s.callers = c.state.callers ++ [x]) : c.admitted.map s.holdsPermit = c.schedule.held := by
  apply List.map_congr_left
  intro i hi
  simp only [State.holdsPermit, hs, List.getElem?_append_left (h.known i hi)]

/-- Whoever is admitted holds a permit from then on. -/
lemma Settled.granted (h : c.Settled l) (hf : c.state.free ≠ 0) {t : Nat} (ht : Clock.IsWhole t)
    (hlimiter : d.limiter = c.limiter)
    (hadmitted : d.admitted = c.admitted ++ [c.state.callers.length])
    (hstate : d.state = { c.state with
      now := t
      free := c.state.free - 1
      last := some t
      callers := c.state.callers ++ [.granted t] }) :
    d.schedule = ⟨t, some t, c.schedule.held ++ [true]⟩ ∧ d.Settled l := by
  have hheld : d.schedule.held = c.schedule.held ++ [true] := by
    show d.admitted.map d.state.holdsPermit = _
    rw [hadmitted, List.map_append, h.held_append (congrArg State.callers hstate)]
    simp [State.holdsPermit, hstate, Caller.isGranted]
  refine ⟨?_, ⟨hlimiter.trans h.limiter, ?_, ?_, ?_, ?_, ?_, ?_⟩⟩
  · rw [← hheld]
    simp only [schedule, hstate]
  · rw [hstate]
    exact h.pacer
  · rw [hstate]
    rintro t ⟨⟩
    exact Nat.le_refl _
  · rw [hstate]
    exact ht
  · have hslots := h.slots
    rw [hheld, hstate, List.count_append, List.count_singleton_self]
    show c.state.free - 1 + _ = _
    omega
  · rw [hadmitted, hstate, List.length_append]
    intro i hi
    rcases List.mem_append.1 hi with hi | hi
    · exact Nat.lt_succ_of_lt (h.known i hi)
    · rw [List.mem_singleton.1 hi]
      exact Nat.lt_succ_self _
  · rw [hadmitted, List.nodup_append]
    refine ⟨h.nodup, List.pairwise_singleton _ _, ?_⟩
    rintro i hi k hk rfl
    rw [List.mem_singleton.1 hk] at hi
    exact Nat.lt_irrefl _ (h.known _ hi)

/-- Whoever gives up leaves all permits where they are. -/
lemma Settled.timedOut (h : c.Settled l) {time : Nat} (ht : Clock.IsWhole time)
    (hlimiter : d.limiter = c.limiter) (hadmitted : d.admitted = c.admitted)
    (hstate : d.state = { c.state with
      now := c.state.now + time
      callers := c.state.callers ++ [.abandoned] }) :
    d.schedule = ⟨c.state.now + time, c.state.last, c.schedule.held⟩ ∧ d.Settled l := by
  have hheld : d.schedule.held = c.schedule.held := by
    show d.admitted.map d.state.holdsPermit = _
    rw [hadmitted, h.held_append (congrArg State.callers hstate)]
  refine ⟨?_, ⟨hlimiter.trans h.limiter, ?_, ?_, ?_, ?_, ?_, ?_⟩⟩
  · rw [← hheld]
    simp only [schedule, hstate]
  · rw [hstate]
    exact h.pacer
  · rw [hstate]
    exact fun t ht => Nat.le_trans (h.past t ht) (Nat.le_add_right _ _)
  · rw [hstate]
    exact h.whole.add ht
  · rw [hheld, hstate]
    exact h.slots
  · rw [hadmitted, hstate, List.length_append]
    exact fun i hi => Nat.lt_succ_of_lt (h.known i hi)
  · rw [hadmitted]
    exact h.nodup

/-- To ask for admission is one operation of the schedule. -/
lemma Asked.next {limit : Nat} {r : Bool × Sole} (h : c.Settled l) (ha : Asked l c limit r) :
    c.schedule.next roundUp l (c.tires limit) (.ask limit) =
        (if r.1 then .granted else .timedOut, r.2.schedule) ∧ r.2.Settled l := by
  have hfree : c.schedule.held.count true < max 1 l.limit ↔ c.state.free ≠ 0 := by
    have hslots := h.slots
    omega
  simp only [Schedule.next, hfree, ← h.rest_eq]
  cases ha with
  | granted hg hlimiter hadmitted hstate =>
    have hnow := h.whole.add (Clock.isWhole_roundUp (c.state.rest l))
    obtain ⟨hd, hsettled⟩ := h.granted hg.1 hnow hlimiter hadmitted hstate
    rw [if_pos hg, hd]
    exact ⟨rfl, hsettled⟩
  | timedOut hn hlimiter hadmitted hstate =>
    obtain ⟨hd, hsettled⟩ := h.timedOut (Clock.isWhole_roundUp limit) hlimiter hadmitted hstate
    rw [if_neg hn, hd]
    exact ⟨rfl, hsettled⟩

/-- A permit that is given back is no longer held, and all others are as they were. -/
lemma Settled.held_set (h : c.Settled l) {n i t : Nat} (hn : c.admitted[n]? = some i)
    (hi : c.state.callers[i]? = some (.granted t)) :
    c.admitted.map
        (State.holdsPermit { c.state.set i (.released t) with free := c.state.free + 1 }) =
      c.schedule.held.set n false := by
  have hlt := (List.getElem?_eq_some_iff.1 hi).1
  apply List.ext_getElem?
  intro k
  rw [List.getElem?_map]
  rcases eq_or_ne n k with rfl | hne
  · have hk : n < c.schedule.held.length := by
      rw [schedule, List.length_map]
      exact (List.getElem?_eq_some_iff.1 hn).1
    rw [hn, List.getElem?_set_self hk, Option.map_some]
    simp [State.holdsPermit, State.set, List.getElem?_set_self hlt, Caller.isGranted]
  · rw [List.getElem?_set_ne hne, schedule, List.getElem?_map]
    cases hk : c.admitted[k]? with
    | none => rfl
    | some m =>
      -- Nobody is admitted twice, so it is somebody else who was admitted there.
      have hm : i ≠ m := by
        rintro rfl
        have hplace := (List.getElem?_eq_some_iff.1 hn).1
        exact hne ((List.getElem?_inj hplace h.nodup).1 (hn.trans hk.symm))
      simp [State.holdsPermit, State.set, List.getElem?_set_ne hm]

/-- To give a permit back is one operation of the schedule. -/
lemma Settled.release_next (h : c.Settled l) (n : Nat) :
    c.schedule.next roundUp l false (.release n) =
        (.gaveBack (c.release n).1, (c.release n).2.schedule) ∧ (c.release n).2.Settled l := by
  have hheld : c.schedule.held[n]? = (c.admitted[n]?).map c.state.holdsPermit := List.getElem?_map
  simp only [Schedule.next, hheld]
  unfold release
  cases hn : c.admitted[n]? with
  | none => exact ⟨if_neg nofun, h⟩
  | some i =>
    rw [hn] at hheld
    by_cases hp : c.state.holdsPermit i
    case neg =>
      have hstep : step c.limiter c.state (.release i) = none := by
        simp only [step]
        split
        case h_1 t hi => simp [State.holdsPermit, hi, Caller.isGranted] at hp
        case h_2 => rfl
      simp only [hstep, Option.map_some, if_neg fun he => hp (Option.some.inj he)]
      exact ⟨trivial, h⟩
    case pos =>
      obtain ⟨t, hi⟩ : ∃ t, c.state.callers[i]? = some (.granted t) := by
        simp only [State.holdsPermit] at hp
        cases hi : c.state.callers[i]? with
        | none => simp [hi] at hp
        | some x =>
          rw [hi] at hp
          cases x with
          | granted t => exact ⟨t, rfl⟩
          | queued | slotted | pacing | released | abandoned => cases hp
      have hset := h.held_set hn hi
      have hheld : c.schedule.held[n]? = some true := hheld.trans (congrArg some hp)
      have hcount : (c.schedule.held.set n false).count true + 1 = c.schedule.held.count true :=
        countP_set_add (p := (· == true)) false hheld
      simp only [step, hi, Option.map_some, hp, if_true]
      refine ⟨by rw [← hset]; rfl, ⟨h.limiter, h.pacer, h.past, h.whole, ?_, ?_, h.nodup⟩⟩
      · have hslots := h.slots
        simp only [schedule, hset]
        show c.state.free + 1 + (c.schedule.held.set n false).count true = _
        omega
      · simp only [State.set, List.length_set]
        exact h.known

/-- A sleep moves the clock and nothing else. -/
lemma Settled.sleep_state (h : c.Settled l) (time : Nat) :
    (c.sleep time).state = { c.state with now := c.state.now + roundUp time } := by
  have htime : c.state.now + (roundUp (c.state.now + time) - c.state.now) =
      c.state.now + roundUp time := by
    rw [Clock.roundUp_add h.whole, Nat.add_sub_cancel_left]
  simp only [sleep, step, Option.getD_some, htime]

/-- To sleep leaves all permits where they are. -/
lemma Settled.sleep_schedule (h : c.Settled l) (time : Nat) :
    (c.sleep time).schedule = { c.schedule with now := c.state.now + roundUp time } := by
  have hadmitted : (c.sleep time).admitted = c.admitted := by simp only [sleep]
  have hheld : c.admitted.map (c.sleep time).state.holdsPermit = c.schedule.held := by
    refine List.map_congr_left fun i _ => ?_
    simp only [State.holdsPermit, h.sleep_state]
  rw [schedule, hadmitted, hheld, h.sleep_state]
  simp only [schedule]

/-- To let time pass is one operation of the schedule. -/
lemma Settled.sleep_next (h : c.Settled l) (time : Nat) :
    c.schedule.next roundUp l false (.sleep time) = (.slept, (c.sleep time).schedule) ∧
      (c.sleep time).Settled l := by
  have hstate := h.sleep_state time
  refine ⟨congrArg _ (h.sleep_schedule time).symm, ⟨h.limiter, ?_, ?_, ?_, ?_, ?_, h.nodup⟩⟩
  · rw [hstate]
    exact h.pacer
  · rw [hstate]
    exact fun t ht => Nat.le_trans (h.past t ht) (Nat.le_add_right _ _)
  · rw [hstate]
    exact h.whole.add (Clock.isWhole_roundUp time)
  · rw [h.sleep_schedule, hstate]
    exact h.slots
  · rw [hstate]
    exact h.known

/-- Every operation is one of the schedule. -/
lemma Settled.perform_next (h : c.Settled l) (op : Op) :
    c.schedule.next roundUp l (c.isTired op) op = ((c.perform op).1, (c.perform op).2.schedule) ∧
      (c.perform op).2.Settled l := by
  cases op with
  | ask limit => exact (h.asked limit).next h
  | release n => exact h.release_next n
  | sleep time => exact h.sleep_next time

/-- A limiter stays settled, whatever its caller does. -/
lemma Settled.after (h : c.Settled l) (ops : List Op) : (c.after ops).Settled l := by
  induction ops generalizing c with
  | nil => exact h
  | cons op ops ih => exact ih (h.perform_next op).2

/-- What is seen of a limiter is what is seen of its schedule. -/
lemma Settled.sights_eq (h : c.Settled l) (ops : List Op) :
    c.sights ops = c.schedule.sights roundUp l (ops.zip (c.tired ops)) := by
  induction ops generalizing c with
  | nil => rfl
  | cons op ops ih =>
    obtain ⟨hnext, h'⟩ := h.perform_next op
    have hfree : (c.perform op).2.state.free =
        max 1 l.limit - (c.perform op).2.schedule.held.count true := by
      have hslots := h'.slots
      omega
    rw [sights, tired, List.zip_cons_cons, Schedule.sights, hnext, hfree, ih h']
    rfl

/-! ## Turns of the caller -/

/-- Of all operations, only an attempt that gives up at once comes too late. -/
lemma isTired_iff {op : Op} :
    c.isTired op ↔ op = .ask 0 ∧ c.state.free ≠ 0 ∧ c.effort.left = 1 := by
  cases op with
  | ask limit => simp [isTired, tires_iff]
  | release n => simp [isTired]
  | sleep time => simp [isTired]

/-- Nobody is tired who does not give up at once. -/
lemma tired_eq_map {ops : List Op} (h : ∀ op ∈ ops, op ≠ .ask 0) :
    c.tired ops = ops.map fun _ => false := by
  induction ops generalizing c with
  | nil => rfl
  | cons op ops ih =>
    have hop : c.isTired op = false := by
      rw [Bool.eq_false_iff, ne_eq, isTired_iff]
      exact fun ht => h op List.mem_cons_self ht.1
    rw [tired, hop, ih fun op hm => h op (List.mem_cons_of_mem _ hm)]
    rfl

/-- What is left of a turn after an attempt hangs on whether time has passed and on what the attempt
came to. -/
lemma acquire_effort (limit : Nat) : (c.acquire limit).2.effort =
    if c.tires limit then c.effort.spend 1
    else if c.state.now < (c.acquire limit).2.state.now then Effort.full.step
    else c.effortAfter (c.acquire limit).1 := by
  unfold acquire
  split <;> rfl

/-- What is left of a turn hangs on the schedule and on what was left of it before. -/
lemma perform_effort (hc : c.Settled l) (hd : d.Settled l) (hs : c.schedule = d.schedule)
    (he : c.effort = d.effort) (op : Op) :
    c.isTired op = d.isTired op ∧ (c.perform op).2.effort = (d.perform op).2.effort := by
  have hfree : c.state.free = d.state.free := by
    have hslots := hc.slots
    rw [hs, ← hd.slots] at hslots
    exact Nat.add_right_cancel hslots
  have hnow : c.state.now = d.state.now := congrArg Schedule.now hs
  have htired : c.isTired op = d.isTired op := by
    rw [Bool.eq_iff_iff, isTired_iff, isTired_iff, hfree, he]
  refine ⟨htired, ?_⟩
  have hnext := (hc.perform_next op).1
  rw [hs, htired, (hd.perform_next op).1] at hnext
  obtain ⟨hanswer, hschedule⟩ := Prod.mk.inj hnext
  cases op with
  | ask limit =>
    have hnow' : (c.acquire limit).2.state.now = (d.acquire limit).2.state.now :=
      (congrArg Schedule.now hschedule).symm
    have hgranted : (c.acquire limit).1 = (d.acquire limit).1 := by
      revert hanswer
      simp only [perform]
      cases (c.acquire limit).1 <;> cases (d.acquire limit).1 <;> simp
    show (c.acquire limit).2.effort = (d.acquire limit).2.effort
    rw [acquire_effort, acquire_effort, hnow', hgranted, hnow, he,
      show c.tires limit = d.tires limit from htired]
    simp only [effortAfter, hfree, he]
  | release n =>
    have hkept (c : Sole) : (c.release n).2.effort = c.effort := by
      unfold release
      split
      · rfl
      · split <;> rfl
    exact (hkept c).trans (he.trans (hkept d).symm)
  | sleep time =>
    show (if time = 0 then c.effort.step else _) = if time = 0 then d.effort.step else _
    rw [he]

/-- Two limiters with the same schedule and turn find their callers tired at the same places. -/
lemma tired_eq (hc : c.Settled l) (hd : d.Settled l) (hs : c.schedule = d.schedule)
    (he : c.effort = d.effort) (ops : List Op) : c.tired ops = d.tired ops := by
  induction ops generalizing c d with
  | nil => rfl
  | cons op ops ih =>
    obtain ⟨htired, heffort⟩ := perform_effort hc hd hs he op
    have hnext := (hc.perform_next op).1
    rw [hs, htired, (hd.perform_next op).1] at hnext
    rw [tired, tired, htired, ih (hc.perform_next op).2 (hd.perform_next op).2
      (Prod.mk.inj hnext).2.symm heffort]

/-- Whoever has waited in vain leaves what it would leave after sleeping. -/
lemma Settled.schedule_of_timedOut (h : c.Settled l) {limit : Nat}
    (ht : (c.perform (.ask limit)).1 = .timedOut) :
    (c.acquire limit).2.schedule = (c.sleep limit).schedule := by
  have hnext := (h.perform_next (.ask limit)).1
  rw [ht] at hnext
  refine (congrArg Prod.snd hnext).symm.trans ?_
  refine Eq.trans ?_ (congrArg Prod.snd (h.sleep_next limit).1)
  -- The schedule moves the clock on, as it does for a sleep, and nothing else.
  revert hnext
  simp only [Schedule.next]
  split
  · exact fun hnext => nomatch congrArg Prod.fst hnext
  · exact fun _ => rfl

/-- Whoever has waited in vain has as much of its turn left as after sleeping. -/
lemma Settled.effort_of_timedOut (h : c.Settled l) {limit : Nat} (hlimit : 0 < limit)
    (ht : (c.perform (.ask limit)).1 = .timedOut) :
    (c.acquire limit).2.effort = (c.sleep limit).effort := by
  have htires : c.tires limit = false := by
    rw [Bool.eq_false_iff, ne_eq, tires_iff]
    omega
  have hnow : (c.acquire limit).2.state.now = c.state.now + roundUp limit := by
    have hsleep := congrArg Schedule.now (h.schedule_of_timedOut ht)
    simp only [schedule, h.sleep_state] at hsleep
    exact hsleep
  have hlater : c.state.now < c.state.now + roundUp limit :=
    Nat.lt_add_of_pos_right (Nat.lt_of_lt_of_le hlimit (Clock.le_roundUp limit))
  rw [acquire_effort, htires, hnow, if_neg Bool.false_ne_true, if_pos hlater]
  exact (if_neg (Nat.ne_of_gt hlimit)).symm

end Sole

/-! ## Whole milliseconds -/

section WholeTimes

variable {l : Limiter} {p : Schedule} {op : Op}

/-- A wait from one whole millisecond to another is whole milliseconds long. -/
lemma Schedule.IsWhole.wait (h : p.IsWhole) (hl : Clock.IsWhole l.interval) :
    Clock.IsWhole (p.wait l.interval) := by
  unfold Schedule.wait
  split
  case h_1 => exact Clock.isWhole_zero
  case h_2 t ht =>
    split
    case isTrue => exact Clock.isWhole_zero
    case isFalse => exact ((h.last t ht).add hl).sub h.now

/-- Where all times are whole milliseconds nothing is rounded, and they stay so. -/
lemma Schedule.IsWhole.next_eq (h : p.IsWhole) (hl : Clock.IsWhole l.interval) (ho : op.IsWhole)
    (tired : Bool) :
    p.next roundUp l tired op = p.next id l tired op ∧ (p.next roundUp l tired op).2.IsWhole := by
  cases op with
  | ask limit =>
    have hw := h.wait hl
    simp only [next, Clock.roundUp_of_isWhole hw, Clock.roundUp_of_isWhole ho]
    refine ⟨rfl, ?_⟩
    split
    case isTrue => exact ⟨h.now.add hw, fun t ht => Option.some.inj ht ▸ h.now.add hw⟩
    case isFalse => exact ⟨h.now.add ho, h.last⟩
  | release n =>
    refine ⟨rfl, ?_⟩
    simp only [next]
    split
    case isTrue => exact ⟨h.now, h.last⟩
    case isFalse => exact h
  | sleep time =>
    simp only [next, Clock.roundUp_of_isWhole ho]
    exact ⟨rfl, h.now.add ho, h.last⟩

/-- Where all times are whole milliseconds, the same is seen with rounding and without. -/
lemma Schedule.IsWhole.sights_eq (h : p.IsWhole) (hl : Clock.IsWhole l.interval)
    {ops : List (Op × Bool)} (ho : ∀ op ∈ ops, op.1.IsWhole) :
    p.sights roundUp l ops = p.sights id l ops := by
  induction ops generalizing p with
  | nil => rfl
  | cons op ops ih =>
    obtain ⟨hnext, hwhole⟩ := h.next_eq hl (ho op List.mem_cons_self) op.2
    rw [Schedule.sights, Schedule.sights, ih hwhole fun op hm => ho op (List.mem_cons_of_mem _ hm),
      hnext]

end WholeTimes

/-- A limiter with a single caller admits it at the earliest time that is possible: what is seen of
it is what is seen of a schedule, in which an attempt is granted exactly if a permit is left and the
wait until the interval since the last admission is over is not longer than the caller stays, and in
which it is granted then. Both of these end at whole milliseconds, where timers go off, so they are
rounded up; where all times are whole milliseconds they are taken as they are. Only an attempt that
gives up at once may be refused all the same, where a slot is free and the caller's turn has one
step left. An attempt that comes to nothing takes all of its time and is as good as a sleep to all
that follows. -/
theorem admitted_earliest (l : Limiter) (ops : List Op) :
    let c := Sole.start l
    c.sights ops = Schedule.sights roundUp l {} (ops.zip (c.tired ops)) ∧
    (Clock.IsWhole l.interval → (∀ op ∈ ops, op.IsWhole) →
      c.sights ops = Schedule.sights id l {} (ops.zip (c.tired ops))) ∧
    ((∀ op ∈ ops, op ≠ .ask 0) → c.tired ops = ops.map fun _ => false) ∧
    (∀ op, (c.after ops).isTired op ↔
      op = .ask 0 ∧ (c.after ops).state.free ≠ 0 ∧ (c.after ops).effort.left = 1) ∧
    ∀ limit, ((c.after ops).perform (.ask limit)).1 = .timedOut →
      let given := ((c.after ops).perform (.ask limit)).2
      let slept := ((c.after ops).perform (.sleep limit)).2
      ∀ later, 0 < limit ∨ given.tired later = slept.tired later →
        given.sights later = slept.sights later := by
  intro c
  have hc : c.Settled l := Sole.settled_start l
  refine ⟨hc.sights_eq ops, ?_, Sole.tired_eq_map, fun op => Sole.isTired_iff, ?_⟩
  · intro hl hops
    have hstart : Schedule.IsWhole {} := ⟨Clock.isWhole_zero, nofun⟩
    rw [hc.sights_eq ops]
    exact hstart.sights_eq hl fun op hm => hops op.1 (List.of_mem_zip hm).1
  · intro limit ht given slept later hlater
    have hd := hc.after ops
    have hgiven : given.Settled l := (hd.perform_next _).2
    have hslept : slept.Settled l := (hd.perform_next _).2
    have hschedule : given.schedule = slept.schedule := hd.schedule_of_timedOut ht
    have htired : given.tired later = slept.tired later := by
      rcases hlater with hlimit | htired
      · exact Sole.tired_eq hgiven hslept hschedule (hd.effort_of_timedOut hlimit ht) later
      · exact htired
    rw [hgiven.sights_eq, hslept.sights_eq, hschedule, htired]

/-- One slot and an interval of a tenth of a second. A caller finds no slot, then waits too short a
time, then just long enough. With an interval of half a millisecond it comes out of its wait at the
whole millisecond, and so does one that stays a shorter time than that. -/
theorem admitted_earliest_in_time :
    let ms := Clock.millisecond
    let ops := [Op.ask (5 * ms), .ask (30 * ms), .release 0, .ask (50 * ms), .ask (20 * ms),
      .release 0]
    let c := (Sole.start ⟨1, 100 * ms⟩).after (ops.take 3)
    (Sole.start ⟨1, 100 * ms⟩).sights ops =
        [⟨.granted, 0, 0⟩, ⟨.timedOut, 30 * ms, 0⟩, ⟨.gaveBack true, 30 * ms, 1⟩,
          ⟨.timedOut, 80 * ms, 1⟩, ⟨.granted, 100 * ms, 0⟩, ⟨.gaveBack false, 100 * ms, 0⟩] ∧
      (c.perform (.ask (50 * ms))).1 = .timedOut ∧
      (c.perform (.ask (50 * ms))).2.sights [.ask (20 * ms)] =
        (c.perform (.sleep (50 * ms))).2.sights [.ask (20 * ms)] ∧
      (Sole.start ⟨1, 500000⟩).sights [.ask 1, .release 0, .ask 400000] =
        [⟨.granted, 0, 0⟩, ⟨.gaveBack true, 0, 1⟩, ⟨.granted, ms, 0⟩] := by
  intro ms ops c
  have htired : (Sole.start ⟨1, 100 * ms⟩).tired ops = ops.map fun _ => false :=
    (admitted_earliest ⟨1, 100 * ms⟩ ops).2.2.1 (by decide +kernel)
  have hops : ∀ op ∈ ops, op.IsWhole := by decide +kernel
  have ht : (c.perform (.ask (50 * ms))).1 = .timedOut := by decide +kernel
  refine ⟨?_, ht, ?_, ?_⟩
  · rw [(admitted_earliest ⟨1, 100 * ms⟩ ops).2.1 (by decide +kernel) hops, htired]
    decide +kernel
  · have hlimit : 0 < 50 * ms := by decide +kernel
    exact (admitted_earliest ⟨1, 100 * ms⟩ (ops.take 3)).2.2.2.2 (50 * ms) ht _ (.inl hlimit)
  · rw [(admitted_earliest ⟨1, 500000⟩ _).1]
    decide +kernel

/-- The times alone do not decide. A caller has slept and then looked at the clock again and again:
a slot is free and no wait is due, but it has one step left to take the slot and gives up with it,
where it would have been admitted. And with an interval of half a millisecond, a caller that stays a
shorter time is admitted at the whole millisecond, where it would have been refused, and one that
stays that long is admitted then, where it would have been admitted earlier. -/
theorem times_alone_do_not_decide :
    let ms := Clock.millisecond
    let seen (l : Limiter) (ops : List Op) := ((Sole.start l).sights ops).getLast?
    let expected (l : Limiter) (ops : List Op) :=
      (Schedule.sights id l {} (ops.map (·, false))).getLast?
    let ops := .sleep ms :: List.replicate 126 (.sleep 0) ++ [.ask 0]
    (seen ⟨1, 0⟩ ops = some ⟨.timedOut, ms, 1⟩ ∧ expected ⟨1, 0⟩ ops = some ⟨.granted, ms, 0⟩) ∧
    (seen ⟨1, 500000⟩ [.ask 0, .release 0, .ask 400000] = some ⟨.granted, ms, 0⟩ ∧
      expected ⟨1, 500000⟩ [.ask 0, .release 0, .ask 400000] = some ⟨.timedOut, 400000, 1⟩) ∧
    (seen ⟨1, 500000⟩ [.ask 0, .release 0, .ask ms] = some ⟨.granted, ms, 0⟩ ∧
      expected ⟨1, 500000⟩ [.ask 0, .release 0, .ask ms] = some ⟨.granted, 500000, 0⟩) := by
  decide +kernel

end FolderCopy.Pacing
