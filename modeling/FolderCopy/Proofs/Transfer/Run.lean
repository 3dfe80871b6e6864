import Mathlib.Logic.Basic
import Mathlib.Data.List.Induction
import FolderCopy.Proofs.Transfer.Inversion

/-!
# Runs of a transfer

`Step` puts the turns of the main loop and the moves of the downloads together, and `Run` lists the
events of a transfer from its start. What holds along every run is proved by induction on it.
-/

namespace FolderCopy.Transfer

/-! ## Steps -/

/-- A step: a turn of the main loop or the consumer, or a move of a download. -/
inductive Step (j : Job) (s : State) : Event → State → Prop where
  | turn {e s'} (h : Turn j s e s') : Step j s e s'
  | move {e i d d' fs} (hi : e.download? = some i) (hd : s.downloads[i]? = some d)
    (hp : s.permits e) (h : Download.Move j d e d' fs) :
    Step j s e (s.advance j i d' fs)

/-- What is left of `step` for an event of a download. -/
lemma step_eq_download {j : Job} {s : State} {e : Event} {i : Nat} (he : e.download? = some i) :
    step j s e = s.download j i e := by
  cases e with
  | admission a r | start a =>
    cases a <;> cases he
    rfl
  | stream | opened | read | stored | written | closed | abandon =>
    cases he
    rfl
  | _ => cases he

/-- Every step of a transfer is one of the steps listed here. -/
lemma Step.of_step {j : Job} {s s' : State} {e : Event} (h : step j s e = some s') :
    Step j s e s' := by
  -- Which half of `step` takes an event hangs on whether it is about a download.
  cases he : e.download? with
  | none => exact .turn (.of_step he h)
  | some i =>
    rw [step_eq_download he, State.download] at h
    split at h
    case h_1 => cases h
    case h_2 d hd =>
      split at h
      case isFalse => cases h
      case isTrue hp =>
        obtain ⟨⟨d', fs⟩, hm, rfl⟩ := Option.map_eq_some_iff.1 h
        exact .move he hd hp (Download.step_eq_some_iff.1 hm)

/-! ## What turns leave alone -/

namespace State

/-- Seeing to the remote folder changes where the main loop stands. -/
lemma cleanUp_eq (s : State) (j : Job) :
    s.cleanUp j = { s with stage := (s.cleanUp j).stage } := by
  unfold cleanUp
  split <;> rfl

/-- To settle the counters changes the stage and the progress only. -/
lemma settle_eq (s : State) (j : Job) :
    s.settle j =
      { s with stage := (s.settle j).stage, progress := (s.settle j).progress } := by
  unfold settle
  split
  · rfl
  · rw [cleanUp_eq]

/-- To go on after a record changes the stage only. -/
lemma resume_eq (s : State) (j : Job) (next : Next) :
    s.resume j next = { s with stage := (s.resume j next).stage } := by
  cases next with
  | cleanUp => exact s.cleanUp_eq j
  | _ => rfl

/-- A page of the first listing changes its entries, the counters, and where the main loop
stands. -/
lemma countPage_eq (s : State) (t : Totals) (p : Page) :
    s.countPage t p =
      { s with
        stage := (s.countPage t p).stage
        progress := (s.countPage t p).progress
        counted := s.counted ++ p.entries } := by
  unfold countPage
  split <;> rfl

/-- A slot for the next entry changes the downloads, what is left of the listing, and where the
main loop stands. -/
lemma supply_eq (s : State) (entries : List Entry) :
    s.supply entries =
      { s with
        stage := (s.supply entries).stage
        page := entries.tail
        exhausted := (s.supply entries).exhausted
        free := (s.supply entries).free
        downloads := s.downloads ++ (entries.head?.map fun e => { entry := e }).toList } := by
  cases entries with
  | cons e rest => rfl
  | nil => by_cases hc : s.cursor.isFinished <;> simp [supply, hc]

end State

/-- What turns do to the downloads: nothing, or one is scheduled, or the result of one is taken. -/
inductive Turn.OnDownloads (ds : List Download) : List Download → Prop where
  | same : OnDownloads ds ds
  | scheduled (e : Entry) : OnDownloads ds (ds ++ [{ entry := e }])
  | joined {i : Nat} {d : Download} {r : Except CopyError Unit} (hd : ds[i]? = some d)
    (hf : d.stage = .finished r) : OnDownloads ds (ds.set i { d with joined := true })

/-- Every download stays where it is, and keeps its entry. -/
lemma Turn.OnDownloads.kept {ds ds' : List Download} (h : OnDownloads ds ds') {i : Nat}
    {d : Download} (hd : ds[i]? = some d) : ∃ d', ds'[i]? = some d' ∧ d'.entry = d.entry := by
  have hi := (List.getElem?_eq_some_iff.1 hd).1
  cases h with
  | same => exact ⟨d, hd, rfl⟩
  | scheduled e => exact ⟨d, by rw [List.getElem?_append_left hi, hd], rfl⟩
  | @joined k d₀ r hd₀ hf =>
    rcases eq_or_ne k i with rfl | hne
    · rw [hd₀] at hd
      cases hd
      exact ⟨_, List.getElem?_set_self hi, rfl⟩
    · exact ⟨d, by rw [List.getElem?_set_ne hne, hd], rfl⟩

/-- Every download was there before, maybe without its result taken, or is a new one at the end. -/
lemma Turn.OnDownloads.origin {ds ds' : List Download} (h : OnDownloads ds ds') {i : Nat}
    {d' : Download} (hd' : ds'[i]? = some d') :
    ds[i]? = some d' ∨
      (∃ d r, ds[i]? = some d ∧ d.stage = .finished r ∧ d' = { d with joined := true }) ∨
      i = ds.length ∧ d' = { entry := d'.entry } := by
  cases h with
  | same => exact .inl hd'
  | scheduled e =>
    rcases Nat.lt_or_ge i ds.length with hlt | hge
    · rw [List.getElem?_append_left hlt] at hd'
      exact .inl hd'
    · rw [List.getElem?_append_right hge] at hd'
      obtain ⟨hi, hd'⟩ := List.getElem?_eq_some_iff.1 hd'
      simp only [List.length_singleton] at hi
      simp only [List.getElem_singleton] at hd'
      subst hd'
      exact .inr (.inr ⟨by omega, rfl⟩)
  | @joined k d₀ r hd₀ hf =>
    rcases eq_or_ne k i with rfl | hne
    · rw [List.getElem?_set_self (List.getElem?_eq_some_iff.1 hd₀).1] at hd'
      cases hd'
      exact .inr (.inl ⟨d₀, r, hd₀, hf, rfl⟩)
    · rw [List.getElem?_set_ne hne] at hd'
      exact .inl hd'

/-- No download goes away. -/
lemma Turn.OnDownloads.length_le {ds ds' : List Download} (h : OnDownloads ds ds') :
    ds.length ≤ ds'.length := by
  cases h <;> simp

/-- Supplying an entry schedules it. -/
lemma Turn.OnDownloads.of_supply {s : State} {ds : List Download} (entries : List Entry)
    (hs : s.downloads = ds) : OnDownloads ds (s.supply entries).downloads := by
  rw [s.supply_eq]
  subst hs
  cases entries with
  | nil =>
    simp only [List.head?_nil, Option.map_none, Option.toList_none, List.append_nil]
    exact .same
  | cons e rest => exact .scheduled e

/-- What turns do to the records of a transfer. -/
inductive Turn.OnRecords (s s' : State) : Prop where
  | same (hs : s'.sent = s.sent) (hc : s'.channel = s.channel) (hr : s'.received = s.received)
    (hl : s'.listening = s.listening) : OnRecords s s'
  | sent {r : Status} {next : Next} (h : s.stage = .sending r next) (hl : s.listening)
    (hs : s'.sent = s.sent ++ [r]) (hc : s'.channel = s.channel ++ [r])
    (hr : s'.received = s.received) : OnRecords s s'
  | took {r : Status} (h : s.channel = r :: s'.channel) (hs : s'.sent = s.sent)
    (hr : s'.received = s.received ++ [r]) (hl : s'.listening = s.listening) : OnRecords s s'
  | hungUp (hs : s'.sent = s.sent) (hc : s'.channel = []) (hr : s'.received = s.received)
    (hl : s'.listening = false) : OnRecords s s'

section Turns

variable {j : Job} {s s' : State} {e : Event}

/-- A turn reports no changes and stores nothing. -/
lemma Turn.outputs_eq (h : Turn j s e s') : s'.deltas = s.deltas ∧ s'.disk = s.disk := by
  cases h with
  | counted =>
    rw [State.countPage_eq]
    exact ⟨rfl, rfl⟩
  | supplied | acquired =>
    rw [State.supply_eq]
    exact ⟨rfl, rfl⟩
  | drained =>
    rw [State.settle_eq]
    exact ⟨rfl, rfl⟩
  | sent =>
    rw [State.resume_eq]
    exact ⟨rfl, rfl⟩
  | _ => exact ⟨rfl, rfl⟩

/-- A turn puts the waiting record into the channel, or is one of the consumer, or leaves the
records alone. -/
lemma Turn.onRecords (h : Turn j s e s') : OnRecords s s' := by
  cases h with
  | counted =>
    rw [State.countPage_eq]
    exact .same rfl rfl rfl rfl
  | supplied | acquired =>
    rw [State.supply_eq]
    exact .same rfl rfl rfl rfl
  | drained =>
    rw [State.settle_eq]
    exact .same rfl rfl rfl rfl
  | sent hs hl =>
    rw [State.resume_eq]
    exact .sent hs hl rfl rfl rfl
  | took hc => exact .took hc rfl rfl rfl
  | hungUp => exact .hungUp rfl rfl rfl rfl
  | _ => exact .same rfl rfl rfl rfl

/-- A turn calls nothing but the remote store. -/
lemma Turn.mem_calls (h : Turn j s e s') {c : Call} (hc : c ∈ s'.calls) :
    c ∈ s.calls ∨ ∃ q, c = .store q := by
  cases h with
  | started =>
    rcases List.mem_append.1 hc with hc | hc
    · exact .inl hc
    · exact .inr ⟨_, List.mem_singleton.1 hc⟩
  | counted =>
    rw [State.countPage_eq] at hc
    exact .inl hc
  | supplied | acquired =>
    rw [State.supply_eq] at hc
    exact .inl hc
  | drained =>
    rw [State.settle_eq] at hc
    exact .inl hc
  | sent =>
    rw [State.resume_eq] at hc
    exact .inl hc
  | _ => exact .inl hc

/-- A turn schedules a download, takes the result of one, or leaves them all alone. -/
lemma Turn.onDownloads (h : Turn j s e s') : OnDownloads s.downloads s'.downloads := by
  cases h with
  | joined h hd hj hf => exact .joined hd hf
  | failed h hd hj hf => exact .joined hd hf
  | supplied | acquired => exact .of_supply _ rfl
  | counted =>
    rw [State.countPage_eq]
    exact .same
  | drained =>
    rw [State.settle_eq]
    exact .same
  | sent =>
    rw [State.resume_eq]
    exact .same
  | _ => exact .same

end Turns

/-! ## Runs -/

/-- The runs of a transfer from its start, with the events in the order in which they happened. -/
inductive Run (j : Job) (disk : Disk) : List Event → State → Prop where
  | start : Run j disk [] (.start j disk)
  | step {es s e s'} (hr : Run j disk es s) (h : Step j s e s') : Run j disk (es ++ [e]) s'

/-- What `run` computes is a run. -/
theorem Run.of_run {j : Job} {disk : Disk} {es : List Event} {s : State}
    (h : run j (.start j disk) es = some s) : Run j disk es s := by
  -- From the back: a run grows at its end, where `run` has folded from the left.
  induction es using List.reverseRecOn generalizing s with
  | nil =>
    cases h
    exact .start
  | append_singleton es e ih =>
    rw [run, List.foldlM_append] at h
    obtain ⟨s₀, hs₀, he⟩ := Option.bind_eq_some_iff.1 h
    rw [List.foldlM_cons] at he
    obtain ⟨s₁, hs₁, he⟩ := Option.bind_eq_some_iff.1 he
    cases he
    exact .step (ih hs₀) (.of_step hs₁)

end FolderCopy.Transfer
