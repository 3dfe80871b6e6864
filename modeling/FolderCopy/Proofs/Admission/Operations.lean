import FolderCopy.Proofs.Admission.Transfer
import FolderCopy.Proofs.Resolution.Walk

/-!
# Operations that share a limiter

An application asks the service for one thing and another, and all that it asked for goes on side by
side: the operations take their steps in any order, the limiter admits and refuses whom it likes,
and the store answers as it likes. `Standing.Step` says what one operation can do next, and `Run`
puts the steps of all of them into one log.
-/

namespace FolderCopy.Admission

open Transfer (Actor Job)

/-- What an application asks the service for. -/
inductive Request where
  | folder (path : String) (createMissing : Bool)
  | remove (path : String)
  | download (path destination : String) (options : DownloadOptions)

/-- What is done for a request. Where a job is the result, its transfer follows. -/
def Request.dialogue (p : Retry.Policy) : Request → Resolution.Operation (Option Job)
  | .folder path createMissing =>
    (Service.folder p path createMissing).andThen fun _ => .done (.ok none)
  | .remove path => (Service.remove p path).andThen fun _ => .done (.ok none)
  | .download path destination o =>
    (Service.download p path destination o).andThen fun job => .done (.ok (some job))

/-- Whatever is asked for, its dialogue heeds admission. -/
lemma Request.heeds (p : Retry.Policy) (r : Request) : Heeds (r.dialogue p) .idle := by
  cases r with
  | folder path createMissing => exact (heeds_folder p path createMissing).andThen fun _ => .inl rfl
  | remove path => exact (heeds_remove p path).andThen fun _ => .inl rfl
  | download path destination o =>
    exact (heeds_download p path destination o).andThen fun _ => .inl rfl

namespace Permit

def spend : Permit → Permit
  | .none => .none
  | .fresh | .used => .used

/-- The marks of a party that is given up. -/
def lost : Permit → List Mark
  | .none => []
  | .fresh => [.forfeited]
  | .used => [.interrupted]

end Permit

/-- Where an operation stands, with the permit that it holds. -/
inductive Standing where
  | talking (d : Resolution.Operation (Option Job)) (m : Permit)
  /-- A call to the store is under way. -/
  | awaiting (q : StoreCall)
    (next : Except CallError (StoreCall.Answer q) → Resolution.Operation (Option Job)) (m : Permit)
  | transferring (j : Job) (s : Transfer.State)
  /-- The application has dropped it. -/
  | dropped

namespace Standing

/-- What one who takes part in an operation holds. -/
def permit : Standing → Actor → Permit
  | .talking _ m, .main | .awaiting _ _ m, .main => m
  | .transferring _ s, a => s.permit a
  | _, _ => .none

/-- Whether one who takes part in an operation asks the limiter for admission. -/
def asks : Standing → Actor → Bool
  | .talking (.acquire _) _, .main => true
  | .transferring _ s, a => s.asks a
  | _, _ => false

/-- How many permits are held whose calls have not been started. -/
def unspent : Standing → Nat
  | .talking _ m | .awaiting _ _ m => m.isFresh.toNat
  | .transferring _ s => s.unspent
  | .dropped => 0

/-- Whether an operation waits for the limiter or the store, so that it can be dropped. -/
def waits : Standing → Bool
  | .talking (.acquire _) _ | .talking (.call ..) _ | .awaiting .. => true
  | _ => false

/-- The steps of an operation, with who takes them and what the limiter and the store see. -/
inductive Step : Standing → Actor → List Mark → Standing → Prop where
  | granted {next m} :
    Step (.talking (.acquire next) m) .main [.granted] (.talking (next (.ok ())) .fresh)
  | refused {next m} (e : CallError) :
    Step (.talking (.acquire next) m) .main [.refused] (.talking (next (.error e)) m)
  | started {q next m} :
    Step (.talking (.call q next) m) .main [.started q] (.awaiting q next m.spend)
  | returned {q next m} (r : Except CallError (StoreCall.Answer q)) :
    Step (.awaiting q next m) .main [.returned] (.talking (next r) m)
  | released {next m} : Step (.talking (.release next) m) .main [.released] (.talking next .none)
  | noted {e next m} : Step (.talking (.note e next) m) .main [] (.talking next m)
  | entered {sp next m} : Step (.talking (.enter sp next) m) .main [] (.talking next m)
  | left {next m} : Step (.talking (.leave next) m) .main [] (.talking next m)
  | began {job m} (disk : Disk) :
    Step (.talking (.done (.ok (some job))) m) .main [] (.transferring job (.start job disk))
  | dropped {o} (h : o.waits) : Step o .main (o.permit .main).lost .dropped
  | transferred {j s e s'} (h : Transfer.step j s e = some s') :
    Step (.transferring j s) e.actor (Transfer.marks s e s') (.transferring j s')

/-- Whether a phase goes with where an operation stands, for one who takes part in it. -/
def Fits : Standing → Actor → Phase → Prop
  | .talking d m, .main, ph => Heeds d ph ∧ ph.permit = m
  | .awaiting _ next m, .main, ph => ph = .calling ∧ m = .used ∧ ∀ r, Heeds (next r) .answered
  | .transferring _ s, a, ph => Transfer.Fits ph (s.permit a) (s.isDone a)
  | .dropped, .main, ph => ph.permit = .none
  | _, .download _, ph => ph = .idle

variable {o o' : Standing} {a : Actor} {ms : List Mark} {ph : Phase}

/-- The phase of a party tells the permit that it has. -/
lemma Fits.permit_eq (h : o.Fits a ph) : ph.permit = o.permit a := by
  cases a with
  | main =>
    cases o with
    | talking d m => exact h.2
    | awaiting q next m =>
      obtain ⟨rfl, rfl, -⟩ := h
      rfl
    | transferring j s => exact h.permit_eq
    | dropped => exact h
  | download i =>
    cases o with
    | transferring j s => exact h.permit_eq
    | talking | awaiting | dropped =>
      cases h
      rfl

/-- Whoever asks for admission is between two calls. -/
lemma Fits.idle_of_asks (h : o.Fits a ph) (ha : o.asks a) : ph = .idle := by
  cases o with
  | talking d m =>
    cases a with
    | main =>
      cases d with
      | acquire next => exact h.1.1
      | _ => cases ha
    | download i => exact h
  | transferring j s => exact Transfer.State.idle_of_asks ha h
  | awaiting | dropped => cases a <;> cases ha

/-- The marks of a step go on in order for the one who takes it. -/
theorem Step.fits (h : o.Step a ms o') (hf : o.Fits a ph) :
    ∃ ph', ph.after ms = some ph' ∧ o'.Fits a ph' := by
  cases h with
  | granted =>
    obtain ⟨⟨rfl, hnext, -⟩, -⟩ := hf
    exact ⟨.granted, rfl, hnext, rfl⟩
  | refused e =>
    obtain ⟨⟨rfl, -, hnext⟩, hm⟩ := hf
    exact ⟨.stopped, rfl, hnext e, hm⟩
  | started =>
    obtain ⟨⟨rfl, hnext⟩, rfl⟩ := hf
    exact ⟨.calling, rfl, rfl, rfl, hnext⟩
  | returned r =>
    obtain ⟨rfl, rfl, hnext⟩ := hf
    exact ⟨.answered, rfl, hnext r, rfl⟩
  | released =>
    obtain ⟨⟨rfl, hnext⟩, -⟩ := hf
    exact ⟨.idle, rfl, hnext, rfl⟩
  | noted | entered | left => exact ⟨ph, rfl, hf⟩
  | began disk =>
    obtain ⟨hd, -⟩ := hf
    -- Only who has not been refused comes to a job.
    rcases hd with rfl | ⟨-, e, he⟩
    · exact ⟨.idle, rfl, rfl, nofun, nofun⟩
    · cases he
  | dropped hw =>
    cases o with
    | talking d m =>
      obtain ⟨hd, rfl⟩ := hf
      cases d with
      | acquire next =>
        obtain ⟨rfl, -⟩ := hd
        exact ⟨.idle, rfl, rfl⟩
      | call q next =>
        obtain ⟨rfl, -⟩ := hd
        exact ⟨.stopped, rfl, rfl⟩
      | _ => cases hw
    | awaiting q next m =>
      obtain ⟨rfl, rfl, -⟩ := hf
      exact ⟨.stopped, rfl, rfl⟩
    | transferring | dropped => cases hw
  | transferred h => exact Transfer.fits_step h hf

/-- What all others hold stays as it is. -/
lemma Step.fits_of_ne {b : Actor} (h : o.Step a ms o') (hb : b ≠ a) (hf : o.Fits b ph) :
    o'.Fits b ph := by
  cases h with
  | transferred h =>
    obtain ⟨hpermit, hdone⟩ := Transfer.permit_step_of_ne h hb
    show Transfer.Fits ph _ _
    rw [hpermit, hdone]
    exact hf
  | began disk =>
    cases b with
    | main => exact absurd rfl hb
    | download i =>
      cases hf
      exact ⟨rfl, nofun, nofun⟩
  | dropped hw =>
    cases b with
    | main => exact absurd rfl hb
    | download i =>
      cases o with
      | talking | awaiting => exact hf
      | transferring | dropped => cases hw
  | _ =>
    cases b with
    | main => exact absurd rfl hb
    | download i => exact hf

/-- Only the permit of the one who takes it counts differently after a step. -/
lemma Step.unspent_eq (h : o.Step a ms o') :
    o'.unspent + (o.permit a).isFresh.toNat = o.unspent + (o'.permit a).isFresh.toNat := by
  cases h with
  | transferred h => exact Transfer.unspent_step h
  | dropped hw =>
    cases o with
    | talking | awaiting => exact Nat.add_comm 0 _
    | transferring | dropped => cases hw
  | _ => exact Nat.add_comm _ _

end Standing

/-- The marks of operations, each with the operation and the one who takes part in it. -/
abbrev Log :=
  List (Nat × Actor × Mark)

def marksOf (k : Nat) (a : Actor) (log : Log) : List Mark :=
  (log.filter fun x => x.1 == k && x.2.1 == a).map (·.2.2)

def permitOf (os : List Standing) (k : Nat) (a : Actor) : Permit :=
  (os[k]?.map (·.permit a)).getD .none

def asks (os : List Standing) (k : Nat) (a : Actor) : Bool :=
  os[k]?.any (·.asks a)

def unspent (os : List Standing) : Nat :=
  (os.map (·.unspent)).sum

/-- Operations that came one after the other and went on side by side, with the marks of all. -/
inductive Run : Log → List Standing → Prop where
  | start : Run [] []
  | came {log os} (h : Run log os) (p : Retry.Policy) (r : Request) :
    Run log (os ++ [.talking (r.dialogue p) .none])
  | step {log os k o a ms o'} (h : Run log os) (ho : os[k]? = some o) (hs : o.Step a ms o') :
    Run (log ++ ms.map (k, a, ·)) (os.set k o')

section Logs

variable {log : Log} {os : List Standing} {k l : Nat} {a b : Actor} {ms : List Mark}

/-- What a party does is put at the end of its own marks. -/
lemma marksOf_append_self :
    marksOf k a (log ++ ms.map (k, a, ·)) = marksOf k a log ++ ms := by
  simp [marksOf, List.filter_map, Function.comp_def]

/-- What a party does is not among the marks of another one. -/
lemma marksOf_append_of_ne (h : (k, a) ≠ (l, b)) :
    marksOf l b (log ++ ms.map (k, a, ·)) = marksOf l b log := by
  have hne : (k == l && a == b) = false := by
    simpa using h
  simp [marksOf, List.filter_map, Function.comp_def, hne]

/-- What holds of the marks of everyone who takes part in an operation, and of all of them. -/
structure Accounted (log : Log) (os : List Standing) : Prop where
  orderly : ∀ k a, ∃ ph, Phase.idle.after (marksOf k a log) = some ph ∧
    match os[k]? with
    | some o => o.Fits a ph
    | none => ph = .idle
  balanced : log.countP (·.2.2.isGranted) =
    log.countP (·.2.2.isStarted) + unspent os + log.countP (·.2.2.isForfeited)

/-- An operation that has just come has left no marks. -/
lemma Accounted.came (h : Accounted log os) (p : Retry.Policy) (r : Request) :
    Accounted log (os ++ [.talking (r.dialogue p) .none]) := by
  constructor
  · intro k a
    obtain ⟨ph, hph, hfits⟩ := h.orderly k a
    refine ⟨ph, hph, ?_⟩
    rcases Nat.lt_trichotomy k os.length with hlt | rfl | hgt
    · rwa [List.getElem?_append_left hlt]
    · rw [List.getElem?_eq_none (Nat.le_refl _)] at hfits
      rw [List.getElem?_concat_length]
      cases a with
      | main => exact ⟨hfits ▸ r.heeds p, hfits ▸ rfl⟩
      | download i => exact hfits
    · rw [List.getElem?_eq_none (Nat.le_of_lt hgt)] at hfits
      rw [List.getElem?_eq_none (by simpa using Nat.succ_le_of_lt hgt)]
      exact hfits
  · simpa [unspent, Standing.unspent, Permit.isFresh] using h.balanced

/-- One step of an operation keeps all accounts. -/
lemma Accounted.step {o o' : Standing} (h : Accounted log os) (ho : os[k]? = some o)
    (hs : o.Step a ms o') : Accounted (log ++ ms.map (k, a, ·)) (os.set k o') := by
  have hk := (List.getElem?_eq_some_iff.1 ho).1
  obtain ⟨ph, hph, hfits⟩ := h.orderly k a
  rw [ho] at hfits
  obtain ⟨ph', hph', hfits'⟩ := hs.fits hfits
  constructor
  · -- The marks of one party grow; everybody else has the same marks and still fits them.
    intro l b
    by_cases heq : (k, a) = (l, b)
    · cases heq
      rw [marksOf_append_self, List.getElem?_set_self hk]
      exact ⟨ph', Phase.after_append hph hph', hfits'⟩
    · rw [marksOf_append_of_ne heq]
      obtain ⟨ph₀, hph₀, hfits₀⟩ := h.orderly l b
      refine ⟨ph₀, hph₀, ?_⟩
      by_cases hkl : k = l
      · subst hkl
        rw [ho] at hfits₀
        rw [List.getElem?_set_self hk]
        exact hs.fits_of_ne (fun hb => heq (by rw [hb])) hfits₀
      · rwa [List.getElem?_set_ne hkl]
  · -- The marks of the step balance with what its actor holds before and after it.
    have hms := Phase.countP_after hph'
    rw [hfits.permit_eq, hfits'.permit_eq] at hms
    have hset : unspent (os.set k o') + o.unspent = unspent os + o'.unspent :=
      sum_map_set (·.unspent) o' ho
    have hpermit := hs.unspent_eq
    have hbalanced := h.balanced
    have hcount (f : Mark → Bool) : (log ++ ms.map (k, a, ·)).countP (fun x => f x.2.2) =
        log.countP (fun x => f x.2.2) + ms.countP f := by
      rw [List.countP_append, List.countP_map]
      rfl
    rw [hcount Mark.isGranted, hcount Mark.isStarted, hcount Mark.isForfeited]
    omega

/-- The marks of every run are accounted for. -/
lemma Run.accounted (h : Run log os) : Accounted log os := by
  induction h with
  | start => exact ⟨fun k a => ⟨.idle, rfl, rfl⟩, rfl⟩
  | came _ p r ih => exact ih.came p r
  | step _ ho hs ih => exact ih.step ho hs

end Logs

/-- Every call to the store has a permit of its own. Whoever takes part in an operation is admitted,
starts one call, waits for it, and gives the permit back before asking for another one, again and
again, and holds no permit while asking; who is refused calls nothing any more. So the permits that
were granted are as many as the calls that were started, the permits held whose calls have not been
started, and those given back without a call by a party that was given up. -/
theorem calls_admitted {log : Log} {os : List Standing} (h : Run log os) :
    (∀ k a, ∃ (cs : List StoreCall) (tail : List Mark) (ph : Phase),
      marksOf k a log = cs.flatMap round ++ tail ∧ Phase.Tail ph tail ∧
      ph.permit = permitOf os k a ∧ (asks os k a → ph = .idle)) ∧
    log.countP (·.2.2.isGranted) =
      log.countP (·.2.2.isStarted) + unspent os + log.countP (·.2.2.isForfeited) := by
  refine ⟨fun k a => ?_, h.accounted.balanced⟩
  obtain ⟨ph, hph, hfits⟩ := h.accounted.orderly k a
  obtain ⟨cs, tail, hmarks, htail⟩ := Phase.exists_rounds hph
  refine ⟨cs, tail, ph, hmarks, htail, ?_⟩
  unfold permitOf asks
  cases ho : os[k]? with
  | none =>
    rw [ho] at hfits
    cases hfits
    exact ⟨rfl, fun _ => rfl⟩
  | some o =>
    rw [ho] at hfits
    exact ⟨hfits.permit_eq, hfits.idle_of_asks⟩

/-- Steps of one operation, one after the other. -/
inductive Path : Standing → List (Actor × Mark) → Standing → Prop where
  | refl {o} : Path o [] o
  | step {o a ms o' ms' o''} (h : o.Step a ms o') (hp : Path o' ms' o'') :
    Path o (ms.map (a, ·) ++ ms') o''

/-- The marks of what passes between a dialogue and its host. -/
def exchangeMarks : Exchange StoreCall StoreCall.Answer → List Mark
  | .admission (.ok ()) => [.granted]
  | .admission (.error _) => [.refused]
  | .release => [.released]
  | .call q _ => [.started q, .returned]

/-- What a dialogue does with a host is one of the ways in which the operation can go. -/
lemma path_of_run {σ : Type} (h : Host StoreCall StoreCall.Answer σ)
    (d : Resolution.Operation (Option Job)) (s : σ) (m : Permit) :
    ∃ m', Path (.talking d m) (((d.exchanges h s).flatMap exchangeMarks).map (.main, ·))
      (.talking (.done (d.run h s).1) m') := by
  induction d generalizing s m with
  | done r => exact ⟨m, .refl⟩
  | acquire next ih =>
    unfold Dialogue.exchanges Dialogue.run
    cases (h.acquire s).1 with
    | ok u =>
      obtain ⟨m', hp⟩ := ih (.ok ()) (h.acquire s).2 .fresh
      exact ⟨m', .step .granted hp⟩
    | error e =>
      obtain ⟨m', hp⟩ := ih (.error e) (h.acquire s).2 m
      exact ⟨m', .step (.refused e) hp⟩
  | release next ih =>
    obtain ⟨m', hp⟩ := ih (h.release s) .none
    exact ⟨m', .step .released hp⟩
  | call q next ih =>
    obtain ⟨m', hp⟩ := ih (h.call q s).1 (h.call q s).2 m.spend
    exact ⟨m', .step .started (.step (.returned _) hp)⟩
  | note e next ih =>
    obtain ⟨m', hp⟩ := ih (h.note e s) m
    exact ⟨m', .step .noted hp⟩
  | enter sp next ih =>
    obtain ⟨m', hp⟩ := ih (h.enter sp s) m
    exact ⟨m', .step .entered hp⟩
  | leave next ih =>
    obtain ⟨m', hp⟩ := ih (h.leave s) m
    exact ⟨m', .step .left hp⟩

/-- Steps of one operation in turn are a run of them all. -/
lemma Run.path {log : Log} {os : List Standing} {k : Nat} {o o' : Standing}
    {ms : List (Actor × Mark)} (h : Run log os) (ho : os[k]? = some o) (hp : Path o ms o') :
    Run (log ++ ms.map (k, ·)) (os.set k o') := by
  induction hp generalizing log os with
  | refl =>
    obtain ⟨hk, rfl⟩ := List.getElem?_eq_some_iff.1 ho
    simpa using h
  | @step o a ms o' ms' o'' hs hp ih =>
    have hk := (List.getElem?_eq_some_iff.1 ho).1
    have hrun := ih (h.step ho hs) (List.getElem?_set_self hk)
    rw [List.set_set] at hrun
    simpa [List.append_assoc, Function.comp_def] using hrun

/-- A folder is looked up while the main loop of a transfer holds a permit and has not called yet.
-/
theorem calls_admitted_two_operations :
    let lookup : StoreCall := .list none (.folderNamed "a") none
    ∃ os, Run ((round lookup ++ [Mark.granted]).map (0, .main, ·) ++
        (round lookup).map (1, .main, ·)) os ∧
      permitOf os 0 .main = .fresh ∧ 3 = 2 + unspent os + 0 := by
  intro lookup
  let d : Simulation.Drive := { folders := [⟨"1", "a", none⟩] }
  let r₀ : Request := .download "a" "/out" ⟨2, false⟩
  let r₁ : Request := .folder "a" false
  let job : Job :=
    { folder := "1", destination := "/out", concurrency := 2, deleteAfter := false,
      policy := .standard }
  obtain ⟨m₀, hp₀⟩ := path_of_run Resolution.openDrive (r₀.dialogue .standard) d .none
  obtain ⟨m₁, hp₁⟩ := path_of_run Resolution.openDrive (r₁.dialogue .standard) d .none
  have hmarks (r : Request) (hr : r = r₀ ∨ r = r₁) :
      ((r.dialogue .standard).exchanges Resolution.openDrive d).flatMap exchangeMarks =
        round lookup := by
    rcases hr with rfl | rfl <;> decide +kernel
  have hjob : ((r₀.dialogue .standard).run Resolution.openDrive d).1 = .ok (some job) := rfl
  rw [hmarks r₀ (.inl rfl), hjob] at hp₀
  rw [hmarks r₁ (.inr rfl)] at hp₁
  have h₀ := (Run.start.came .standard r₀).came .standard r₁
  have h₁ := (h₀.path (k := 0) rfl hp₀).step (k := 0) rfl (.began {})
  have h₂ := h₁.step (k := 0) rfl (.transferred (e := .directory (.ok ())) rfl)
  have h₃ := h₂.step (k := 0) rfl (.transferred (e := .admission .main (.ok ())) rfl)
  have h₄ := h₃.path (k := 1) rfl hp₁
  obtain ⟨-, hbalanced⟩ := calls_admitted h₄
  exact ⟨_, h₄, rfl, hbalanced⟩

end FolderCopy.Admission
