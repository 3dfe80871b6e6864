import FolderCopy.Proofs.Transfer.Counters
import FolderCopy.Proofs.Transfer.Grounds
import FolderCopy.Proofs.Transfer.Mirror

/-!
# What the answers settle

What a complete transfer leaves behind is settled by the answers that it got, each series by itself.
In what order answers of different series came leaves no trace, and neither does the number of
downloads that could run at a time.
-/

namespace FolderCopy.Transfer

/-- Whether runs got the same answers, each series by itself. -/
structure SameAnswers (es₁ es₂ : List Event) : Prop where
  answers : answers es₁ = answers es₂
  streams : ∀ i, streams (eventsOf i es₁) = streams (eventsOf i es₂)
  reads : ∀ i, reads (eventsOf i es₁) = reads (eventsOf i es₂)
  removals : removals es₁ = removals es₂

/-- Whether transfers leave the same behind: the same local files, as many calls for each content,
the same calls for pages and deletions, the same reports up to their order, and as many records of
progress with the same first and the same last one. -/
structure SameResult (s₁ s₂ : State) : Prop where
  files : ∀ path, s₁.disk.read? path = s₂.disk.read? path
  fetched : ∀ id,
    s₁.calls.count (.store (.download id)) = s₂.calls.count (.store (.download id))
  listed : s₁.calls.filter Call.lists = s₂.calls.filter Call.lists
  deleted : s₁.calls.filter Call.deletes = s₂.calls.filter Call.deletes
  reported : s₁.deltas.Perm s₂.deltas
  told : s₁.told.length = s₂.told.length
  first : s₁.told.head? = s₂.told.head?
  last : s₁.told.getLast? = s₂.told.getLast?

/-! ## What is read off the answers -/

/-- The pages that were read are those among the answers. -/
lemma pagesRead_eq (es : List Event) : pagesRead es = (answers es).filterMap Except.toOption := by
  rw [pagesRead, answers, List.filterMap_filterMap]
  apply List.filterMap_congr
  intro e _
  cases e with
  | page r => cases r <;> rfl
  | _ => rfl

/-- The chunks that were read are what reading has given up to the end of the content. -/
lemma chunksRead_eq (es : List Event) :
    chunksRead es = (reads es).filterMap fun r => (Event.read 0 r).chunk? := by
  rw [chunksRead, reads, List.filterMap_filterMap]
  apply List.filterMap_congr
  intro e _
  cases e with
  | read i r =>
    cases r with
    | ok chunk => cases chunk <;> rfl
    | error m => rfl
  | _ => rfl

section Same

variable {es₁ es₂ : List Event}

/-- Runs with the same answers have read the same pages. -/
lemma SameAnswers.pages (h : SameAnswers es₁ es₂) : pagesRead es₁ = pagesRead es₂ := by
  rw [pagesRead_eq, pagesRead_eq, h.answers]

/-- Runs with the same answers have listed the same entries. -/
lemma SameAnswers.entries (h : SameAnswers es₁ es₂) : entriesListed es₁ = entriesListed es₂ := by
  rw [entriesListed, entriesListed, h.pages]

/-- Runs with the same answers have counted the same totals. -/
lemma SameAnswers.totals (h : SameAnswers es₁ es₂) : totalsCounted es₁ = totalsCounted es₂ := by
  rw [totalsCounted, totalsCounted, entriesCounted, entriesCounted, h.pages]

/-- Runs with the same answers have read the same chunks of each file. -/
lemma SameAnswers.chunks (h : SameAnswers es₁ es₂) (i : Nat) :
    chunksRead (eventsOf i es₁) = chunksRead (eventsOf i es₂) := by
  rw [chunksRead_eq, chunksRead_eq, h.reads]

end Same

/-! ## Complete transfers -/

section Runs

variable {j : Job} {disk : Disk} {es : List Event} {s : State} {c : Cleanup}

/-- In a complete transfer the download number `i` is one of the entry listed at this place, which
it has copied. -/
lemma Run.copied_of_completed (h : Run j disk es s) (hc : .completed c ∈ s.sent) {i : Nat}
    {entry : Entry} (hi : (entriesListed es)[i]? = some entry) :
    ∃ d, s.downloads[i]? = some d ∧ d.entry = entry ∧ d.stage = .finished (.ok ()) := by
  rw [← h.downloads_eq_of_completed hc, List.getElem?_map] at hi
  obtain ⟨d, hd, hentry⟩ := Option.map_eq_some_iff.1 hi
  exact ⟨d, hd, hentry, (h.of_completed hc).1.copied d (List.mem_of_getElem? hd)⟩

/-- A download that has finished well has reported all chunks that it has read, and its
completion. -/
lemma Run.changesOf_finished (h : Run j disk es s) {i : Nat} {d : Download}
    (hd : s.downloads[i]? = some d) (hf : d.stage = .finished (.ok ())) :
    changesOf i s.deltas =
      (chunksRead (eventsOf i es)).map (fun c => ⟨-c.length, 0⟩) ++ [⟨0, -1⟩] := by
  obtain ⟨fs, hrec⟩ := h.chronicle.recorded i d hd
  have hm := hrec.history.milestones
  rw [hf] at hm
  have hclosed := (any_closesFile_iff hrec.history.download?_eq).2 (hm.subset (by simp))
  rw [h.changesOf_eq, hrec.history.stored hf, if_pos hclosed]

/-- Where names differ, a complete transfer leaves each file as its content was read. -/
lemma Run.file_completed (h : Run j disk es s) (hc : .completed c ∈ s.sent)
    (hn : ((entriesListed es).map fun e => localName e.name).Nodup) {i : Nat} {entry : Entry}
    (hi : (entriesListed es)[i]? = some entry) :
    s.disk.read? (j.target entry) = some (served i es) := by
  obtain ⟨d, hd, rfl, hf⟩ := h.copied_of_completed hc hi
  rw [← h.listed.2] at hn
  exact (h.mirrored hd (h.sound.soleWriter hn hd) hf).2

/-- A file that no entry is copied to stays as it was. -/
lemma Run.file_untouched (h : Run j disk es s) {path : String}
    (hp : ∀ entry ∈ entriesListed es, j.target entry ≠ path) :
    s.disk.read? path = disk.read? path := by
  rw [← h.listed.2] at hp
  exact h.chronicle.untouched path fun d hd => hp d.entry (h.sound.entry_mem hd)

/-- What the downloads of a complete transfer have reported. -/
lemma Run.changesOf_completed (h : Run j disk es s) (hc : .completed c ∈ s.sent) (i : Nat) :
    changesOf i s.deltas =
      if i < (entriesListed es).length then
        (chunksRead (eventsOf i es)).map (fun c => ⟨-c.length, 0⟩) ++ [⟨0, -1⟩]
      else [] := by
  split
  case isTrue hi =>
    obtain ⟨d, hd, -, hf⟩ := h.copied_of_completed hc (List.getElem?_eq_getElem hi)
    exact h.changesOf_finished hd hf
  case isFalse hi =>
    apply (h.chronicle.unscheduled i _).2
    rw [← h.downloads_eq_of_completed hc, List.length_map] at hi
    exact Nat.not_lt.1 hi

/-- A change is reported as often as its download has reported it. -/
lemma count_deltas (cs : List Change) (change : Change) :
    cs.count change = (changesOf change.origin cs).count change.delta := by
  obtain ⟨i, δ⟩ := change
  rw [changesOf, List.count, List.count, List.countP_map, List.countP_filter]
  apply List.countP_congr
  intro c _
  obtain ⟨k, δ'⟩ := c
  simp [and_comm]

/-- A download that has finished well has made a call for its content for each answer to one. -/
lemma Run.countP_fetches (h : Run j disk es s) {i : Nat} {d : Download}
    (hd : s.downloads[i]? = some d) (hf : d.stage = .finished (.ok ())) :
    (fetchesOf i es).countP (·.starts?.isSome) = (streams (eventsOf i es)).length := by
  obtain ⟨fs, hrec⟩ := h.chronicle.recorded i d hd
  have hfetch := hrec.history.fetching
  rw [hf] at hfetch
  obtain ⟨cs, hcs⟩ := hfetch
  rw [fetchesOf, hcs.events, hcs.streams_eq, List.countP_append, countP_failedFetches,
    List.length_append, List.length_map]
  rfl

/-- Where ids differ, a complete transfer has called for each content as often as it was answered.
-/
lemma Run.count_fetched_completed (h : Run j disk es s) (hc : .completed c ∈ s.sent)
    (hn : ((entriesListed es).map (·.id)).Nodup) {i : Nat} {entry : Entry}
    (hi : (entriesListed es)[i]? = some entry) :
    s.calls.count (.store (.download entry.id)) = (streams (eventsOf i es)).length := by
  obtain ⟨d, hd, rfl, hf⟩ := h.copied_of_completed hc hi
  rw [← h.downloads_eq_of_completed hc, List.map_map] at hn
  rw [h.count_fetched hn hd, h.countP_fetches hd hf]

/-- No content is asked for but that of listed entries. -/
lemma Run.count_fetched_unlisted (h : Run j disk es s) {id : String}
    (hid : id ∉ (entriesListed es).map (·.id)) : s.calls.count (.store (.download id)) = 0 := by
  apply List.count_eq_zero.2
  intro hmem
  have hfetched : id ∈ s.calls.filterMap Call.fetched? := List.mem_filterMap.2 ⟨_, hmem, rfl⟩
  obtain ⟨n, hn, hget⟩ := List.mem_iff_getElem.1 hfetched
  have hall := List.forall₂_iff_get.1 h.fetched_calls
  obtain ⟨d, hd, hd'⟩ := Option.map_eq_some_iff.1 (hall.2 n hn (hall.1 ▸ hn))
  have hentry := h.sound.entry_mem (List.mem_of_getElem? hd)
  rw [h.listed.2] at hentry
  apply hid
  rw [← hget]
  exact List.mem_map.2 ⟨d.entry, hentry, hd'⟩

/-- A complete transfer has called for each page that was answered, and for no other. -/
lemma Run.lists_completed (h : Run j disk es s) (hc : .completed c ∈ s.sent) :
    s.calls.filter Call.lists = ((requests es).take (answers es).length).map (·.call j) := by
  obtain ⟨first, later, copying, hp⟩ := h.phases
  have hle := hp.made.le
  have hdue := List.prefix_iff_eq_take.1 hp.due
  have hlt : (first ++ later).length < (requests es).length := by
    by_contra hge
    -- The call that is due after all answers would be one of a third listing.
    have hall := hp.due.eq_of_length_le (Nat.not_lt.1 hge)
    have hlast := getElem?_requests (Nat.le_refl (answers es).length)
    rw [List.take_length, ← hall] at hlast
    have hlisting : (requestAfter (answers es)).listing = 2 := by
      rw [listing_requestAfter]
      exact (h.reason hc).1.listings
    rcases List.mem_append.1 (List.mem_of_getElem? hlast) with hmem | hmem
    · rw [hp.ofFirst _ hmem] at hlisting
      cases hlisting
    · rw [hp.ofLater _ hmem] at hlisting
      cases hlisting
  have hn : (first ++ later).length = (answers es).length := by
    rw [length_requests] at hlt
    omega
  rw [hp.lists_eq, hdue, hn]

/-- The deletions of a run are as many calls of the same kind. -/
lemma Run.deletes_eq (h : Run j disk es s) :
    s.calls.filter Call.deletes = List.replicate (s.calls.countP Call.deletes) j.deletion := by
  obtain ⟨k, hdel⟩ := h.deleting
  obtain ⟨before, hcalls, hbefore⟩ := hdel.calls
  rw [hdel.countP_deletes, hcalls, List.filter_append, List.filter_eq_nil_iff.2 hbefore,
    List.nil_append]
  exact List.filter_eq_self.2 fun c hmem => by rw [List.eq_of_mem_replicate hmem]; rfl

/-- The first record of a complete transfer tells the totals that were counted. -/
lemma Run.head?_told (h : Run j disk es s) (hc : .completed c ∈ s.sent) :
    s.told.head? = some (.ofTotals (totalsCounted es)) := by
  rw [h.told_of_completed hc, List.range_succ_eq_map, List.map_cons, List.cons_append,
    List.head?_cons, h.leftAfter_eq]
  rfl

/-- There are counters for the totals, one after each report, and those of zero where they are not
there yet. -/
lemma Run.length_told (h : Run j disk es s) (hc : .completed c ∈ s.sent) :
    s.told.length = s.deltas.length + 1 +
      if leftOf (totalsCounted es) s.deltas = .zero then 0 else 1 := by
  rw [h.told_of_completed hc, h.leftAfter_eq, List.take_length, List.length_append, List.length_map,
    List.length_range]
  split <;> rfl

/-- The order of reports does not change what they leave. -/
lemma leftOf_perm (t : Totals) {cs cs' : List Change} (h : cs.Perm cs') :
    leftOf t cs = leftOf t cs' := by
  have htaken (counter : Progress.Delta → Int) : taken counter cs = taken counter cs' := by
    induction h with
    | nil => rfl
    | cons c h ih => exact congrArg (_ + ·) ih
    | swap c c' cs =>
      show _ + (_ + _) = _ + (_ + _)
      omega
    | trans h₁ h₂ ih₁ ih₂ => exact ih₁.trans ih₂
  rw [leftOf, leftOf, bytesOf, bytesOf, filesOf, filesOf, htaken, htaken]

end Runs

/-! ## Complete transfers with the same answers -/

section Same

variable {j : Job} {n₁ n₂ : Nat} {disk : Disk} {es₁ es₂ : List Event} {s₁ s₂ : State}
  {c₁ c₂ : Cleanup}

/-- The answers to the deletions say how these have gone, and how often they were called. -/
lemma Swept.eq_of_removals {k₁ k₂ : Nat} (h₁ : Swept { j with concurrency := n₁ } es₁ k₁ c₁)
    (h₂ : Swept { j with concurrency := n₂ } es₂ k₂ c₂) (hr : removals es₁ = removals es₂)
    (hd₁ : ∀ e ∈ es₁, e.denies = false) (hd₂ : ∀ e ∈ es₂, e.denies = false) :
    c₁ = c₂ ∧ k₁ = k₂ := by
  cases h₁ with
  | denied h hd => simp [hd₁ _ h] at hd
  | notRequested ha₁ hr₁ hk₁ =>
    cases h₂ with
    | denied h hd => simp [hd₂ _ h] at hd
    | notRequested ha₂ hr₂ hk₂ => exact ⟨rfl, hk₁.trans hk₂.symm⟩
    | deleted ha₂ | failed ha₂ => exact (Bool.false_ne_true (ha₁.symm.trans ha₂)).elim
  | deleted ha₁ hr₁ ht₁ hk₁ =>
    rw [hr₁] at hr
    cases h₂ with
    | denied h hd => simp [hd₂ _ h] at hd
    | notRequested ha₂ => exact (Bool.false_ne_true (ha₂.symm.trans ha₁)).elim
    | deleted ha₂ hr₂ ht₂ hk₂ =>
      rw [hr₂] at hr
      have hlen := congrArg List.length hr
      simp only [List.length_append, List.length_map, List.length_singleton] at hlen
      exact ⟨rfl, by rw [hk₁, hk₂, hlen]⟩
    | failed ha₂ hr₂ =>
      rw [hr₂] at hr
      cases (List.append_inj' hr rfl).2
  | failed ha₁ hr₁ ht₁ he₁ hk₁ =>
    rw [hr₁] at hr
    cases h₂ with
    | denied h hd => simp [hd₂ _ h] at hd
    | notRequested ha₂ => exact (Bool.false_ne_true (ha₂.symm.trans ha₁)).elim
    | deleted ha₂ hr₂ =>
      rw [hr₂] at hr
      cases (List.append_inj' hr rfl).2
    | failed ha₂ hr₂ ht₂ he₂ hk₂ =>
      rw [hr₂] at hr
      obtain ⟨hcs, hc⟩ := List.append_inj' hr rfl
      cases hc
      have hlen := congrArg List.length hcs
      simp only [List.length_map] at hlen
      rw [hlen] at he₁
      cases he₁.symm.trans he₂
      exact ⟨rfl, by rw [hk₁, hk₂, hlen]⟩

/-- Complete transfers that got the same answers, were denied nothing and had entries with different
ids and names to copy have come to the same, however many downloads they could run at a time. -/
theorem SameAnswers.sameResult (h : SameAnswers es₁ es₂)
    (h₁ : Run { j with concurrency := n₁ } disk es₁ s₁)
    (h₂ : Run { j with concurrency := n₂ } disk es₂ s₂)
    (hc₁ : .completed c₁ ∈ s₁.sent) (hc₂ : .completed c₂ ∈ s₂.sent)
    (hd₁ : ∀ e ∈ es₁, e.denies = false) (hd₂ : ∀ e ∈ es₂, e.denies = false)
    (hids : ((entriesListed es₁).map (·.id)).Nodup)
    (hnames : ((entriesListed es₁).map fun e => localName e.name).Nodup) :
    c₁ = c₂ ∧ SameResult s₁ s₂ := by
  have hentries := h.entries
  obtain ⟨hc, hk⟩ := (h₁.founded hc₁).eq_of_removals (h₂.founded hc₂) h.removals hd₁ hd₂
  have hreported : s₁.deltas.Perm s₂.deltas := by
    apply List.perm_iff_count.2
    intro change
    rw [count_deltas, count_deltas, h₁.changesOf_completed hc₁, h₂.changesOf_completed hc₂,
      hentries, h.chunks]
  refine ⟨hc, ⟨?files, ?fetched, ?listed, ?deleted, hreported, ?told, ?first, ?last⟩⟩
  case files =>
    intro path
    by_cases hp : ∃ entry ∈ entriesListed es₁, j.target entry = path
    case pos =>
      obtain ⟨entry, hmem, rfl⟩ := hp
      obtain ⟨i, hi⟩ := List.mem_iff_getElem?.1 hmem
      have hfile₁ := h₁.file_completed hc₁ hnames hi
      have hfile₂ := h₂.file_completed hc₂ (hentries ▸ hnames) (hentries ▸ hi)
      rw [served, ← h.chunks] at hfile₂
      exact hfile₁.trans hfile₂.symm
    case neg =>
      have hp₁ : ∀ entry ∈ entriesListed es₁, j.target entry ≠ path :=
        fun entry hmem ht => hp ⟨entry, hmem, ht⟩
      exact (h₁.file_untouched hp₁).trans (h₂.file_untouched (hentries ▸ hp₁)).symm
  case fetched =>
    intro id
    by_cases hid : id ∈ (entriesListed es₁).map (·.id)
    case pos =>
      obtain ⟨entry, hmem, rfl⟩ := List.mem_map.1 hid
      obtain ⟨i, hi⟩ := List.mem_iff_getElem?.1 hmem
      rw [h₁.count_fetched_completed hc₁ hids hi, h.streams]
      exact (h₂.count_fetched_completed hc₂ (hentries ▸ hids) (hentries ▸ hi)).symm
    case neg =>
      rw [h₁.count_fetched_unlisted hid, h₂.count_fetched_unlisted (hentries ▸ hid)]
  case listed =>
    rw [h₁.lists_completed hc₁, h₂.lists_completed hc₂, requests, requests, h.answers]
    rfl
  case deleted =>
    rw [h₁.deletes_eq, h₂.deletes_eq, hk]
    rfl
  case told =>
    rw [h₁.length_told hc₁, h₂.length_told hc₂, hreported.length_eq, leftOf_perm _ hreported,
      h.totals]
  case first => rw [h₁.head?_told hc₁, h₂.head?_told hc₂, h.totals]
  case last => rw [h₁.getLast?_told hc₁, h₂.getLast?_told hc₂]

end Same

end FolderCopy.Transfer
