import FolderCopy.Proofs.Transfer.Run

/-!
# What a download has done

The downloads of a transfer run side by side, but each of them goes on as it would alone: the events
that are about it, taken out of the run, are a history of that download by itself (`Run.history`).
What a download has reported and stored is then read off its own events, whatever the others did.
-/

namespace FolderCopy.Transfer

/-! ## The events of one download -/

/-- The events that are about a download. -/
def eventsOf (i : Nat) (es : List Event) : List Event :=
  es.filter (·.download? == some i)

/-- The changes that a download has reported. -/
def changesOf (i : Nat) (cs : List Change) : List Progress.Delta :=
  (cs.filter (·.origin == i)).map (·.delta)

/-- An event of a download comes after its earlier ones. -/
lemma eventsOf_snoc_self {i : Nat} {e : Event} (es : List Event) (he : e.download? = some i) :
    eventsOf i (es ++ [e]) = eventsOf i es ++ [e] := by
  simp [eventsOf, he]

/-- An event of another download is none of its own. -/
lemma eventsOf_snoc_of_ne {i : Nat} {e : Event} (es : List Event) (he : e.download? ≠ some i) :
    eventsOf i (es ++ [e]) = eventsOf i es := by
  simp [eventsOf, he]

/-- An event of a download is one of its events exactly if it has happened. -/
lemma mem_eventsOf {i : Nat} {e : Event} {es : List Event} (he : e.download? = some i) :
    e ∈ eventsOf i es ↔ e ∈ es := by
  simp [eventsOf, he]

/-- Changes in two parts are a download's if they are in one of the parts. -/
lemma changesOf_append (i : Nat) (cs cs' : List Change) :
    changesOf i (cs ++ cs') = changesOf i cs ++ changesOf i cs' := by
  simp [changesOf]

/-- The changes that a download makes are its own. -/
lemma changesOf_map_self (i : Nat) (ds : List Progress.Delta) :
    changesOf i (ds.map (⟨i, ·⟩)) = ds := by
  simp [changesOf, List.filter_map, Function.comp_def]

/-- The changes that one download makes are not those of another. -/
lemma changesOf_map_of_ne {i k : Nat} (h : k ≠ i) (ds : List Progress.Delta) :
    changesOf i (ds.map (⟨k, ·⟩)) = [] := by
  simp [changesOf, List.filter_map, Function.comp_def, h]

/-- A change is among those of a download exactly if it is marked as the download's. -/
lemma mem_changesOf {i : Nat} {δ : Progress.Delta} {cs : List Change} :
    δ ∈ changesOf i cs ↔ ⟨i, δ⟩ ∈ cs := by
  rw [changesOf, List.mem_map]
  constructor
  · rintro ⟨c, hmem, rfl⟩
    obtain ⟨hc, hk⟩ := List.mem_filter.1 hmem
    rw [← beq_iff_eq.1 hk]
    exact hc
  · intro hmem
    exact ⟨⟨i, δ⟩, List.mem_filter.2 ⟨hmem, beq_self_eq_true i⟩, rfl⟩

/-! ## Effects on one file -/

namespace Effect

/-- What becomes of the content of the local file that a download writes. -/
def onContent (content : Option Bytes) : Effect → Option Bytes
  | .empty => some []
  | .store bytes => some (content.getD [] ++ bytes)
  | .call _ | .report _ => content

/-- Effects change the file at their path as they change its content, and no other file. -/
lemma read?_foldl_onDisk (path q : String) (fs : List Effect) (disk : Disk) :
    (fs.foldl (onDisk path) disk).read? q =
      if q = path then fs.foldl onContent (disk.read? path) else disk.read? q := by
  -- For all disks at once, since every effect leaves another one for those after it.
  induction fs generalizing disk with
  | nil =>
    split
    · next h => rw [h]; rfl
    · rfl
  | cons f fs ih =>
    rw [List.foldl_cons, ih]
    cases f with
    | empty => by_cases h : q = path <;> simp [onDisk, onContent, Disk.read?_truncate, h]
    | store bytes => by_cases h : q = path <;> simp [onDisk, onContent, Disk.read?_append, h]
    | call | report => rfl

end Effect

/-! ## Histories -/

/-- The events of the download number `i` since it was scheduled, where it stands after them, and
what else it has done. -/
inductive Download.History (j : Job) (i : Nat) (entry : Entry) :
    List Event → Download → List Effect → Prop where
  | scheduled : History j i entry [] { entry } []
  | move {es d fs e d' fs'} (hh : History j i entry es d fs) (hi : e.download? = some i)
    (h : Move j d e d' fs') : History j i entry (es ++ [e]) d' (fs ++ fs')
  | joined {es d fs} (hh : History j i entry es d fs) :
    History j i entry es { d with joined := true } fs

/-- A download copies one entry from beginning to end. -/
lemma Download.Move.entry_eq {j : Job} {d d' : Download} {e : Event} {fs : List Effect}
    (h : Move j d e d' fs) : d'.entry = d.entry := by
  cases h <;> rfl

/-- A download is of the entry that it was scheduled for. -/
lemma Download.History.entry_eq {j : Job} {i : Nat} {entry : Entry} {es : List Event}
    {d : Download} {fs : List Effect} (h : History j i entry es d fs) : d.entry = entry := by
  induction h with
  | scheduled => rfl
  | move hh hi h ih => rw [h.entry_eq, ih]
  | joined hh ih => exact ih

/-- No other download writes to the local file of the download number `i`. -/
def State.SoleWriter (s : State) (j : Job) (i : Nat) (d : Download) : Prop :=
  ∀ k d', s.downloads[k]? = some d' → j.target d'.entry = j.target d.entry → k = i

/-- What a run has in store for the download number `i`. -/
structure Recorded (j : Job) (disk : Disk) (es : List Event) (s : State) (i : Nat) (d : Download)
    (fs : List Effect) : Prop where
  history : d.History j i d.entry (eventsOf i es) fs
  changes : changesOf i s.deltas = fs.filterMap Effect.delta?
  content : s.SoleWriter j i d →
    s.disk.read? (j.target d.entry) = fs.foldl Effect.onContent (disk.read? (j.target d.entry))

/-- What a run has in store for all of its downloads, and for the files that none of them writes. -/
structure Chronicle (j : Job) (disk : Disk) (es : List Event) (s : State) : Prop where
  unscheduled : ∀ i, s.downloads.length ≤ i → eventsOf i es = [] ∧ changesOf i s.deltas = []
  recorded : ∀ i d, s.downloads[i]? = some d → ∃ fs, Recorded j disk es s i d fs
  untouched : ∀ q, (∀ d ∈ s.downloads, j.target d.entry ≠ q) → s.disk.read? q = disk.read? q

section Steps

variable {j : Job} {disk : Disk} {es : List Event} {s s' : State} {e : Event}

/-- Where a turn leaves a download with the same writers, it was alone before if it is now. -/
lemma State.SoleWriter.of_turn {i : Nat} {d : Download} (ht : Turn j s e s')
    (h : s'.SoleWriter j i d) : s.SoleWriter j i d := by
  intro k d₁ hk hd₁
  obtain ⟨d₂, hk', he⟩ := ht.onDownloads.kept hk
  exact h k d₂ hk' (he ▸ hd₁)

/-- A turn keeps what is recorded of a download. -/
lemma Recorded.turn {i : Nat} {d : Download} {fs : List Effect} (h : Recorded j disk es s i d fs)
    (ht : Turn j s e s') : Recorded j disk (es ++ [e]) s' i d fs := by
  refine ⟨?_, ?_, ?_⟩
  · rw [eventsOf_snoc_of_ne es (by simp [ht.download?])]
    exact h.history
  · rw [ht.outputs_eq.1]
    exact h.changes
  · intro hw
    rw [ht.outputs_eq.2]
    exact h.content (hw.of_turn ht)

/-- Taking the result of a download changes nothing that is recorded of it. -/
lemma Recorded.joined {i : Nat} {d : Download} {fs : List Effect}
    (h : Recorded j disk es s i d fs) : Recorded j disk es s i { d with joined := true } fs :=
  ⟨h.history.joined, h.changes, h.content⟩

/-- A download that has just been scheduled has done nothing. -/
lemma Recorded.scheduled (h : Chronicle j disk es s) (entry : Entry) (ht : Turn j s e s') :
    Recorded j disk (es ++ [e]) s' s.downloads.length { entry } [] := by
  obtain ⟨hev, hch⟩ := h.unscheduled _ (Nat.le_refl _)
  refine ⟨?_, ?_, ?_⟩
  · rw [eventsOf_snoc_of_ne es (by simp [ht.download?]), hev]
    exact .scheduled
  · rw [ht.outputs_eq.1]
    exact hch
  · intro hw
    rw [ht.outputs_eq.2]
    -- A download that wrote this path before would be a second writer.
    apply h.untouched _
    intro d' hd' ht'
    obtain ⟨k, hk, rfl⟩ := List.mem_iff_getElem.1 hd'
    have := hw.of_turn ht k _ (List.getElem?_eq_getElem hk) ht'
    omega

/-- A turn keeps the records of a run. -/
lemma Chronicle.turn (h : Chronicle j disk es s) (ht : Turn j s e s') :
    Chronicle j disk (es ++ [e]) s' := by
  refine ⟨?_, ?_, ?_⟩
  · intro i hi
    rw [eventsOf_snoc_of_ne es (by simp [ht.download?]), ht.outputs_eq.1]
    exact h.unscheduled i (Nat.le_trans ht.onDownloads.length_le hi)
  · intro i d hd
    rcases ht.onDownloads.origin hd with hd' | ⟨d₀, r, hd₀, -, rfl⟩ | ⟨rfl, hnew⟩
    · obtain ⟨fs, hr⟩ := h.recorded i d hd'
      exact ⟨fs, hr.turn ht⟩
    · obtain ⟨fs, hr⟩ := h.recorded i d₀ hd₀
      exact ⟨fs, hr.joined.turn ht⟩
    · rw [hnew]
      exact ⟨[], .scheduled h d.entry ht⟩
  · intro q hq
    rw [ht.outputs_eq.2]
    apply h.untouched q
    intro d hd
    obtain ⟨i, hi, rfl⟩ := List.mem_iff_getElem.1 hd
    obtain ⟨d', hd', he⟩ := ht.onDownloads.kept (List.getElem?_eq_getElem hi)
    exact he ▸ hq d' (List.mem_of_getElem? hd')

section Moves

variable {k : Nat} {d d' : Download} {fs : List Effect}

/-- A move changes one download and keeps its entry. -/
lemma State.getElem?_advance (hd : s.downloads[k]? = some d) (hm : Download.Move j d e d' fs)
    {i : Nat} {d₁ : Download} (h : s.downloads[i]? = some d₁) :
    ∃ d₂, (s.advance j k d' fs).downloads[i]? = some d₂ ∧ d₂.entry = d₁.entry := by
  have hi := (List.getElem?_eq_some_iff.1 h).1
  rcases eq_or_ne k i with rfl | hne
  · rw [hd] at h
    cases h
    exact ⟨d', List.getElem?_set_self hi, hm.entry_eq⟩
  · exact ⟨d₁, (List.getElem?_set_ne hne).trans h, rfl⟩

/-- A download that is alone with its file after a move was so before. -/
lemma State.SoleWriter.of_move (hd : s.downloads[k]? = some d) (hm : Download.Move j d e d' fs)
    {i : Nat} {d₁ : Download} (h : (s.advance j k d' fs).SoleWriter j i d₁) :
    s.SoleWriter j i d₁ := by
  intro m d₂ hd₂ ht
  obtain ⟨d₃, hd₃, he⟩ := State.getElem?_advance hd hm hd₂
  exact h m d₃ hd₃ (he ▸ ht)

/-- What is recorded of a download takes in what it does. -/
lemma Recorded.move {fs₀ : List Effect} (h : Recorded j disk es s k d fs₀)
    (hd : s.downloads[k]? = some d) (hk : e.download? = some k)
    (hm : Download.Move j d e d' fs) :
    Recorded j disk (es ++ [e]) (s.advance j k d' fs) k d' (fs₀ ++ fs) := by
  refine ⟨?_, ?_, ?_⟩
  · rw [eventsOf_snoc_self es hk, hm.entry_eq]
    exact h.history.move hk hm
  · rw [List.filterMap_append, ← h.changes, State.advance, changesOf_append, changesOf_map_self]
  · intro hw
    have hw : s.SoleWriter j k d := by
      intro m d₂ hd₂ ht
      exact hw.of_move hd hm m d₂ hd₂ (hm.entry_eq ▸ ht)
    rw [State.advance, Effect.read?_foldl_onDisk, if_pos rfl, List.foldl_append, hm.entry_eq,
      h.content hw]

/-- A move keeps what is recorded of every other download. -/
lemma Recorded.move_other {i : Nat} {d₁ : Download} {fs₁ : List Effect}
    (h : Recorded j disk es s i d₁ fs₁) (hne : k ≠ i) (hd : s.downloads[k]? = some d)
    (hk : e.download? = some k) (hm : Download.Move j d e d' fs) :
    Recorded j disk (es ++ [e]) (s.advance j k d' fs) i d₁ fs₁ := by
  refine ⟨?_, ?_, ?_⟩
  · rw [eventsOf_snoc_of_ne es (by simp [hk, hne])]
    exact h.history
  · rw [State.advance, changesOf_append, changesOf_map_of_ne hne, List.append_nil]
    exact h.changes
  · intro hw
    have hw := hw.of_move hd hm
    -- What `d` stores goes to another path, or `d₁` would not be alone.
    have hq : j.target d₁.entry ≠ j.target d'.entry := by
      rw [hm.entry_eq]
      exact fun ht => hne (hw k d hd ht.symm)
    rw [State.advance, Effect.read?_foldl_onDisk, if_neg hq]
    exact h.content hw

/-- A move keeps the records of a run. -/
lemma Chronicle.move (h : Chronicle j disk es s) (hd : s.downloads[k]? = some d)
    (hk : e.download? = some k) (hm : Download.Move j d e d' fs) :
    Chronicle j disk (es ++ [e]) (s.advance j k d' fs) := by
  have hlt := (List.getElem?_eq_some_iff.1 hd).1
  refine ⟨?_, ?_, ?_⟩
  · intro i hi
    rw [State.advance, State.setDownload, List.length_set] at hi
    have hne : k ≠ i := by omega
    obtain ⟨hev, hch⟩ := h.unscheduled i hi
    rw [eventsOf_snoc_of_ne es (by simp [hk, hne]), State.advance, changesOf_append,
      changesOf_map_of_ne hne, hch]
    exact ⟨hev, rfl⟩
  · intro i d₁ hd₁
    rcases eq_or_ne k i with rfl | hne
    · rw [State.advance, State.setDownload, List.getElem?_set_self hlt] at hd₁
      cases hd₁
      obtain ⟨fs₀, hr⟩ := h.recorded k d hd
      exact ⟨_, hr.move hd hk hm⟩
    · rw [State.advance, State.setDownload, List.getElem?_set_ne hne] at hd₁
      obtain ⟨fs₁, hr⟩ := h.recorded i d₁ hd₁
      exact ⟨fs₁, hr.move_other hne hd hk hm⟩
  · intro q hq
    have hne : q ≠ j.target d'.entry := by
      have := hq d' (List.mem_of_getElem? (List.getElem?_set_self hlt))
      exact this.symm
    rw [State.advance, Effect.read?_foldl_onDisk, if_neg hne]
    apply h.untouched q
    intro d₁ hd₁
    obtain ⟨i, hi, rfl⟩ := List.mem_iff_getElem.1 hd₁
    obtain ⟨d₂, hd₂, he⟩ := State.getElem?_advance hd hm (List.getElem?_eq_getElem hi)
    exact he ▸ hq d₂ (List.mem_of_getElem? hd₂)

end Moves

end Steps

/-- A run keeps records of all of its downloads. -/
theorem Run.chronicle {j : Job} {disk : Disk} {es : List Event} {s : State}
    (h : Run j disk es s) : Chronicle j disk es s := by
  induction h with
  | start => exact ⟨fun _ _ => ⟨rfl, rfl⟩, fun i d hd => (by cases hd), fun _ _ => rfl⟩
  | step hr h ih =>
    cases h with
    | turn ht => exact ih.turn ht
    | move hi hd hp hm => exact ih.move hd hi hm

/-- A download that an event is about or that has reported something has been scheduled. -/
lemma Run.scheduled {j : Job} {disk : Disk} {es : List Event} {s : State}
    (h : Run j disk es s) {i : Nat}
    (hi : eventsOf i es ≠ [] ∨ changesOf i s.deltas ≠ []) : ∃ d, s.downloads[i]? = some d := by
  by_contra hno
  have hle : s.downloads.length ≤ i := by
    rw [← List.getElem?_eq_none_iff, Option.eq_none_iff_forall_ne_some]
    exact fun d hd => hno ⟨d, hd⟩
  obtain ⟨hev, hch⟩ := h.chronicle.unscheduled i hle
  rcases hi with hi | hi
  · exact hi hev
  · exact hi hch

end FolderCopy.Transfer
