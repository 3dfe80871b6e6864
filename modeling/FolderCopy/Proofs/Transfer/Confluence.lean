import FolderCopy.Proofs.Transfer.Agreement
import FolderCopy.Proofs.Transfer.Termination
import FolderCopy.Proofs.Transfer.World

/-!
# Confluence

In a world, what a transfer comes to depends neither on the order in which events come nor on the
number of downloads that can run at a time. Every series of answers follows its script, and a
transfer that has come to its end has followed to their ends those that its end goes back to.
-/

namespace FolderCopy.Transfer

/-! ## Series that are at their end -/

section Ends

variable {j : Job} {disk : Disk} {es : List Event} {s : State}

/-- An empty chunk leaves nothing more to read. -/
lemma ReadingOn.not_ended {rs : List (Except String Bytes)} : ¬ ReadingOn (rs ++ [.ok []]) := by
  intro h
  obtain ⟨chunk, hc, hne⟩ := h (.ok []) (by simp)
  cases hc
  exact hne rfl

/-- A broken stream leaves nothing more to read. -/
lemma ReadingOn.not_broken {rs : List (Except String Bytes)} {m : String} :
    ¬ ReadingOn (rs ++ [.error m]) := by
  intro h
  obtain ⟨chunk, hc, -⟩ := h (.error m) (by simp)
  cases hc

/-- A complete transfer has read both of its listings to their end. -/
lemma Run.not_listingOn (h : Run j disk es s) {c : Cleanup} (hc : .completed c ∈ s.sent) :
    ¬ ListingOn j (answers es) := by
  rintro ⟨-, hl⟩
  rw [listing_requestAfter, (h.reason hc).1.listings] at hl
  exact Nat.lt_irrefl 2 hl

/-- The calls for the content of a file that was copied came to a success. -/
lemma Run.streams_finished (h : Run j disk es s) {i : Nat} {d : Download}
    (hd : s.downloads[i]? = some d) (hf : d.stage = .finished (.ok ())) :
    ∃ rs, streams (eventsOf i es) = rs ++ [.ok ()] := by
  obtain ⟨fs, hrec⟩ := h.chronicle.recorded i d hd
  have hfetch := hrec.history.fetching
  rw [hf] at hfetch
  obtain ⟨cs, hcs⟩ := hfetch
  exact ⟨_, hcs.streams_eq⟩

/-- The content of a file that was copied was read to its end. -/
lemma Run.reads_finished (h : Run j disk es s) {i : Nat} {d : Download}
    (hd : s.downloads[i]? = some d) (hf : d.stage = .finished (.ok ())) :
    ∃ rs, reads (eventsOf i es) = rs ++ [.ok []] := by
  obtain ⟨fs, hrec⟩ := h.chronicle.recorded i d hd
  have hg := hrec.history.grounds
  rw [hf] at hg
  obtain ⟨rs, hrs, -⟩ := hg
  exact ⟨rs, hrs⟩

/-- A deletion that has come to its end is not called again. -/
lemma Swept.not_trying {called : Nat} {c : Cleanup} (h : Swept j es called c)
    (hd : ∀ e ∈ es, e.denies = false) :
    j.deleteAfter = false ∧ removals es = [] ∨
      j.deleteAfter ∧ ¬ Retry.Trying j.policy j.folder (removals es) := by
  cases h with
  | notRequested ha hr => exact .inl ⟨ha, hr⟩
  | denied hmem he => simp [hd _ hmem] at he
  | deleted ha hr =>
    refine .inr ⟨ha, fun ht => ht.ok_not_mem ?_⟩
    simp [hr]
  | failed ha hr ht he =>
    refine .inr ⟨ha, fun ht => ?_⟩
    rw [hr] at ht
    exact ht.not_settled he

end Ends

/-! ## Plays that have come to their end -/

namespace World

/-- Whether events in turn bring a transfer to where nothing more can come in a world. -/
structure Final (w : World) (j : Job) (disk : Disk) (es : List Event) (s : State) : Prop where
  play : w.play j [] (.start j disk) es = some s
  stuck : ∀ e, w.allows j es s e → step j s e = none

section Final

variable {w : World} {j : Job} {disk : Disk} {es : List Event} {s : State}

/-- What has come to its end in a world was played in it. -/
lemma Final.played (h : w.Final j disk es s) : w.Played j disk es s := by
  simpa using Played.of_play .start h.play

/-- A world answers every question that is awaited. -/
lemma served (w : World) (j : Job) (es : List Event) (s : State) :
    s.Served j fun e => w.allows j es s e := by
  refine ⟨?_, ?_⟩
  · intro e he
    cases e with
    | start | join | acquire | fold | drain | send | take => rfl
    | _ => cases he
  · intro q hq
    cases q with
    | directory => exact ⟨.directory (.ok ()), rfl, trivial, by simp [allows]⟩
    | admission a => exact ⟨.admission a (.ok ()), rfl, trivial, by simp [allows]⟩
    | page => exact ⟨.page _, rfl, trivial, decide_eq_true rfl⟩
    | removal => exact ⟨.removal _, rfl, trivial, decide_eq_true rfl⟩
    | stream i =>
      -- What is awaited is the answer to a download that there is.
      have hs := hq (.stream i (.ok ())) rfl trivial
      cases hd : s.downloads[i]? with
      | none => simp [step, State.download, Event.download?, hd] at hs
      | some d =>
        refine ⟨.stream i (w.answer (.download d.entry.id) (s.earlier (.download d.entry.id))), rfl,
          trivial, ?_⟩
        simp [allows, hd]
    | opened i => exact ⟨.opened i (.ok ()), rfl, trivial, by simp [allows]⟩
    | read i =>
      refine ⟨.read i (w.read i (reads (eventsOf i es)).length), rfl, ?_, by simp [allows]⟩
      cases hr : w.read i (reads (eventsOf i es)).length with
      | ok chunk => exact w.read_le i _ chunk hr
      | error m => trivial
    | written i => exact ⟨.written i (.ok ()), rfl, trivial, by simp [allows]⟩
    | closed i => exact ⟨.closed i (.ok ()), rfl, trivial, by simp [allows]⟩

/-- A play that has come to its end has given a terminal record as the last one. -/
lemma Final.last (h : w.Final j disk es s) (hj : j.slots ≤ slotLimit) :
    ∃ r ∈ s.sent, r.isTerminal ∧ s.received.getLast? = some r := by
  have hr := h.played.run
  have hl := h.played.listening
  obtain ⟨r, hmem, ht⟩ := hr.delivered_of_stuck hj hl (w.served j es s) h.stuck
  have htold := hr.told
  -- Before the end only progress has been told, and a consumer that has something to take goes on.
  have hend : s.stage = .ended := by
    by_contra hne
    have hsent := hr.delivered.order.subset (List.mem_append_left _ hmem)
    rw [htold.progress hr.sound.standing hne hsent] at ht
    cases ht
  have htaken : s.channel = [] := by
    by_contra hne
    obtain ⟨r', rest, hc⟩ := List.exists_cons_of_ne_nil hne
    have htake := h.stuck .take rfl
    simp [step, State.take, hc] at htake
  rw [hend] at htold
  obtain ⟨ps, r', hsent, -, hr'⟩ := (State.Ending.isStream htold).2 hl hj
  have hall := hr.delivered.all hl
  rw [htaken, List.append_nil] at hall
  refine ⟨r', by simp [hsent], hr', ?_⟩
  rw [hall, hsent, List.getLast?_concat]

end Final

/-! ## Two plays -/

section Two

variable {w : World} {j : Job} {n₁ n₂ : Nat} {disk : Disk} {es₁ es₂ : List Event} {s₁ s₂ : State}
  {c₁ c₂ : Cleanup}

/-- Where one play is complete, another one gets no other pages. -/
lemma Played.entries_le (h₁ : w.Played { j with concurrency := n₁ } disk es₁ s₁)
    (h₂ : w.Played { j with concurrency := n₂ } disk es₂ s₂) (hc₁ : .completed c₁ ∈ s₁.sent) :
    entriesListed es₂ <+: entriesListed es₁ := by
  have hle := h₁.answers.prefix_of_closed h₂.answers (h₁.run.not_listingOn hc₁)
  apply entriesListed_mono
  rw [pagesRead_eq, pagesRead_eq]
  exact hle.filterMap _

/-- Where one play is complete, a download of another one has its counterpart there. -/
lemma Played.counterpart (h₁ : w.Played { j with concurrency := n₁ } disk es₁ s₁)
    (h₂ : w.Played { j with concurrency := n₂ } disk es₂ s₂) (hc₁ : .completed c₁ ∈ s₁.sent)
    {i : Nat} {d₂ : Download} (hd₂ : s₂.downloads[i]? = some d₂) :
    ∃ d₁, s₁.downloads[i]? = some d₁ ∧ d₁.entry = d₂.entry ∧ d₁.stage = .finished (.ok ()) := by
  apply h₁.run.copied_of_completed hc₁
  have hle := h₂.run.downloads_in_order.trans (h₁.entries_le h₂ hc₁)
  have hi : (s₂.downloads.map (·.entry))[i]? = some d₂.entry := by
    rw [List.getElem?_map, hd₂]
    rfl
  obtain ⟨rest, hrest⟩ := hle
  rw [← hrest, List.getElem?_append_left (List.getElem?_eq_some_iff.1 hi).1, hi]

/-- Where one download has finished well and its counterpart asks for its content no more, both have
got the same answers. -/
lemma Played.streams_eq (h₁ : w.Played { j with concurrency := n₁ } disk es₁ s₁)
    (h₂ : w.Played { j with concurrency := n₂ } disk es₂ s₂)
    (hids₁ : ((entriesListed es₁).map (·.id)).Nodup)
    (hids₂ : ((entriesListed es₂).map (·.id)).Nodup) {i : Nat} {d₁ d₂ : Download}
    (hd₁ : s₁.downloads[i]? = some d₁) (hd₂ : s₂.downloads[i]? = some d₂)
    (hentry : d₁.entry = d₂.entry) (hf₁ : d₁.stage = .finished (.ok ()))
    (ht₂ : ¬ Retry.Trying j.policy d₂.entry.name (Transfer.streams (eventsOf i es₂))) :
    Transfer.streams (eventsOf i es₁) = Transfer.streams (eventsOf i es₂) := by
  obtain ⟨rs, hrs⟩ := h₁.run.streams_finished hd₁ hf₁
  have hs₁ := h₁.streams hids₁ hd₁
  rw [hentry] at hs₁
  exact hs₁.eq_of_closed (h₂.streams hids₂ hd₂) (fun ht => ht.ok_not_mem (by simp [hrs])) ht₂

/-- Where one download has finished well and its counterpart reads no more, both have read the
same. -/
lemma Played.reads_eq (h₁ : w.Played { j with concurrency := n₁ } disk es₁ s₁)
    (h₂ : w.Played { j with concurrency := n₂ } disk es₂ s₂) {i : Nat} {d₁ : Download}
    (hd₁ : s₁.downloads[i]? = some d₁) (hf₁ : d₁.stage = .finished (.ok ()))
    (hr₂ : ¬ ReadingOn (Transfer.reads (eventsOf i es₂))) :
    Transfer.reads (eventsOf i es₁) = Transfer.reads (eventsOf i es₂) := by
  obtain ⟨rs, hrs⟩ := h₁.run.reads_finished hd₁ hf₁
  exact (h₁.reads i).eq_of_closed (h₂.reads i) (hrs ▸ ReadingOn.not_ended) hr₂

/-- Where one play is complete, no other one fails. -/
lemma Played.not_failed (h₁ : w.Played { j with concurrency := n₁ } disk es₁ s₁)
    (h₂ : w.Played { j with concurrency := n₂ } disk es₂ s₂)
    (hids₁ : ((entriesListed es₁).map (·.id)).Nodup)
    (hids₂ : ((entriesListed es₂).map (·.id)).Nodup)
    (hc₁ : .completed c₁ ∈ s₁.sent) {err : CopyError} (hf₂ : .failed err ∈ s₂.sent) : False := by
  have hcause : Cause _ es₂ s₂.downloads := h₂.run.founded hf₂
  cases hcause with
  | denied hmem hd => simp [h₂.not_denied _ hmem] at hd
  | @listing rs c err' hrs he =>
    have hclosed : ¬ ListingOn { j with concurrency := n₂ } (Transfer.answers es₂) := by
      rintro ⟨hon, -⟩
      rw [hon rs c [] hrs] at he
      cases he
    have heq := h₁.answers.eq_of_closed h₂.answers (h₁.run.not_listingOn hc₁) hclosed
    -- The failure leaves the listing open that it belongs to, but both have been read to their end.
    obtain ⟨-, -, hopen⟩ := h₂.answers rs (.error c) [] hrs
    have hlisting := listing_requestAfter es₁
    rw [(h₁.run.reason hc₁).1.listings, heq, hrs, requestAfter, List.foldl_append] at hlisting
    exact Nat.ne_of_lt hopen hlisting
  | @download d₂ err' hmem hf =>
    obtain ⟨i, hi⟩ := List.mem_iff_getElem?.1 hmem
    obtain ⟨d₁, hd₁, hentry, hf₁⟩ := h₁.counterpart h₂ hc₁ hi
    obtain ⟨fs, hrec⟩ := h₂.run.chronicle.recorded i d₂ hi
    have hg := hrec.history.grounds
    rw [hf] at hg
    cases hg with
    | @fetching cs c hfetch =>
      obtain ⟨e, he⟩ := hfetch.settled c rfl
      have hclosed : ¬ Retry.Trying j.policy d₂.entry.name (Transfer.streams (eventsOf i es₂)) := by
        rw [hfetch.streams_eq]
        exact fun ht => ht.not_settled he
      have heq := h₁.streams_eq h₂ hids₁ hids₂ hd₁ hi hentry hf₁ hclosed
      obtain ⟨rs, hrs⟩ := h₁.run.streams_finished hd₁ hf₁
      rw [hrs, hfetch.streams_eq] at heq
      cases (List.append_inj' heq rfl).2
    | @reading rs₂ m hrs₂ hon =>
      have heq := h₁.reads_eq h₂ hd₁ hf₁ (hrs₂ ▸ ReadingOn.not_broken)
      obtain ⟨rs₁, hrs₁⟩ := h₁.run.reads_finished hd₁ hf₁
      rw [hrs₁, hrs₂] at heq
      cases (List.append_inj' heq rfl).2
    | denied hmem hd =>
      have hmem' := (List.mem_filter.1 hmem).1
      simp [h₂.not_denied _ hmem'] at hd

/-- Complete plays have got the same answers. -/
lemma Played.sameAnswers (h₁ : w.Played { j with concurrency := n₁ } disk es₁ s₁)
    (h₂ : w.Played { j with concurrency := n₂ } disk es₂ s₂)
    (hids₁ : ((entriesListed es₁).map (·.id)).Nodup)
    (hids₂ : ((entriesListed es₂).map (·.id)).Nodup)
    (hc₁ : .completed c₁ ∈ s₁.sent) (hc₂ : .completed c₂ ∈ s₂.sent) : SameAnswers es₁ es₂ := by
  have hscheduled (i : Nat) : s₁.downloads.length ≤ i ∧ s₂.downloads.length ≤ i ∨
      ∃ d₁ d₂, s₁.downloads[i]? = some d₁ ∧ s₂.downloads[i]? = some d₂ ∧ d₁.entry = d₂.entry ∧
        d₁.stage = .finished (.ok ()) ∧ d₂.stage = .finished (.ok ()) := by
    cases hd₂ : s₂.downloads[i]? with
    | some d₂ =>
      obtain ⟨d₁, hd₁, hentry, hf₁⟩ := h₁.counterpart h₂ hc₁ hd₂
      have hf₂ := (h₂.run.of_completed hc₂).1.copied d₂ (List.mem_of_getElem? hd₂)
      exact .inr ⟨d₁, d₂, hd₁, rfl, hentry, hf₁, hf₂⟩
    | none =>
      cases hd₁ : s₁.downloads[i]? with
      | some d₁ =>
        obtain ⟨d₂, hd₂', -⟩ := h₂.counterpart h₁ hc₂ hd₁
        rw [hd₂] at hd₂'
        cases hd₂'
      | none => exact .inl ⟨List.getElem?_eq_none_iff.1 hd₁, List.getElem?_eq_none_iff.1 hd₂⟩
  refine ⟨?answers, ?streams, ?reads, ?removals⟩
  case answers =>
    exact h₁.answers.eq_of_closed h₂.answers (h₁.run.not_listingOn hc₁) (h₂.run.not_listingOn hc₂)
  case streams =>
    intro i
    rcases hscheduled i with ⟨hi₁, hi₂⟩ | ⟨d₁, d₂, hd₁, hd₂, hentry, hf₁, hf₂⟩
    · rw [(h₁.run.chronicle.unscheduled i hi₁).1, (h₂.run.chronicle.unscheduled i hi₂).1]
    · obtain ⟨rs, hrs⟩ := h₂.run.streams_finished hd₂ hf₂
      exact h₁.streams_eq h₂ hids₁ hids₂ hd₁ hd₂ hentry hf₁ fun ht => ht.ok_not_mem (by simp [hrs])
  case reads =>
    intro i
    rcases hscheduled i with ⟨hi₁, hi₂⟩ | ⟨d₁, d₂, hd₁, hd₂, hentry, hf₁, hf₂⟩
    · rw [(h₁.run.chronicle.unscheduled i hi₁).1, (h₂.run.chronicle.unscheduled i hi₂).1]
    · obtain ⟨rs, hrs⟩ := h₂.run.reads_finished hd₂ hf₂
      exact h₁.reads_eq h₂ hd₁ hf₁ (hrs ▸ ReadingOn.not_ended)
  case removals =>
    have hswept₁ := (h₁.run.founded hc₁).not_trying h₁.not_denied
    have hswept₂ := (h₂.run.founded hc₂).not_trying h₂.not_denied
    rcases hswept₁ with ⟨ha₁, hr₁⟩ | ⟨ha₁, ht₁⟩
    · rcases hswept₂ with ⟨-, hr₂⟩ | ⟨ha₂, -⟩
      · rw [hr₁, hr₂]
      · exact (Bool.false_ne_true (ha₁.symm.trans ha₂)).elim
    · rcases hswept₂ with ⟨ha₂, -⟩ | ⟨-, ht₂⟩
      · exact (Bool.false_ne_true (ha₂.symm.trans ha₁)).elim
      · exact h₁.removals.eq_of_closed h₂.removals ht₁ ht₂

end Two

/-! ## Endless plays -/

section Endless

variable {w : World} {j : Job} {n₁ n₂ : Nat} {disk : Disk} {es : List Event} {s : State}
  {c : Cleanup} {σ : Nat → Event}

/-- The first events of a sequence begin with fewer of them. -/
lemma firstEvents_le {m n : Nat} (h : m ≤ n) : firstEvents σ m <+: firstEvents σ n := by
  induction n, h using Nat.le_induction with
  | base => exact List.prefix_rfl
  | succ n h ih =>
    rw [firstEvents_succ]
    exact ih.trans (List.prefix_append _ _)

/-- What happens no more than a number of times happens no more from some point on. -/
lemma exists_never {p : Event → Bool} {m : Nat} (h : ∀ n, (firstEvents σ n).countP p ≤ m) :
    ∃ N, ∀ n ≥ N, p (σ n) = false := by
  by_contra hno
  have hmore (k : Nat) : ∃ n, k ≤ (firstEvents σ n).countP p := by
    induction k with
    | zero => exact ⟨0, Nat.zero_le _⟩
    | succ k ih =>
      obtain ⟨n, hn⟩ := ih
      obtain ⟨n', hle, hp⟩ : ∃ n' ≥ n, p (σ n') = true := by
        by_contra hnone
        exact hno ⟨n, fun n' hle => by_contra fun hp => hnone ⟨n', hle, by simpa using hp⟩⟩
      refine ⟨n' + 1, ?_⟩
      have hcount := (firstEvents_le (σ := σ) hle).sublist.countP_le (p := p)
      rw [firstEvents_succ, List.countP_append, List.countP_singleton, if_pos hp]
      omega
  obtain ⟨n, hn⟩ := hmore (m + 1)
  exact Nat.not_succ_le_self m (Nat.le_trans hn (h n))

/-- Where one play is complete, no other one goes on for ever. -/
lemma Played.exists_play_eq_none (h : w.Played { j with concurrency := n₁ } disk es s)
    (hc : .completed c ∈ s.sent) (σ : Nat → Event) :
    ∃ n, w.play { j with concurrency := n₂ } [] (.start { j with concurrency := n₂ } disk)
      (firstEvents σ n) = none := by
  by_contra hno
  have hplayed (n : Nat) :
      ∃ s', w.Played { j with concurrency := n₂ } disk (firstEvents σ n) s' := by
    obtain ⟨s', hs'⟩ := Option.ne_none_iff_exists'.1 fun hn => hno ⟨n, hn⟩
    exact ⟨s', by simpa using Played.of_play .start hs'⟩
  -- No more pages and chunks come in than in the play that is complete.
  have hpages : ∃ N, ∀ n ≥ N, (σ n).page? = none := by
    have hle (n : Nat) : (firstEvents σ n).countP (·.page?.isSome) ≤ (pagesRead es).length := by
      obtain ⟨s', h'⟩ := hplayed n
      have hpages := (h.answers.prefix_of_closed h'.answers (h.run.not_listingOn hc)).filterMap
        Except.toOption
      rw [← pagesRead_eq, ← pagesRead_eq] at hpages
      rw [← List.length_filterMap_eq_countP]
      exact hpages.length_le
    obtain ⟨N, hN⟩ := exists_never hle
    exact ⟨N, fun n hn => by simpa using hN n hn⟩
  have hchunks (i : Nat) : ∃ N, ∀ n ≥ N, (σ n).download? = some i → (σ n).chunk? = none := by
    have hle (n : Nat) : (firstEvents σ n).countP
        (fun e => e.chunk?.isSome && e.download? == some i) ≤
          (chunksRead (eventsOf i es)).length := by
      obtain ⟨s', h'⟩ := hplayed n
      rw [← List.countP_filter, ← List.length_filterMap_eq_countP]
      show (chunksRead (eventsOf i (firstEvents σ n))).length ≤ _
      cases hd' : s'.downloads[i]? with
      | none =>
        rw [(h'.run.chronicle.unscheduled i (List.getElem?_eq_none_iff.1 hd')).1]
        exact Nat.zero_le _
      | some d' =>
        obtain ⟨d, hd, -, hf⟩ := h.counterpart h' hc hd'
        obtain ⟨rs, hrs⟩ := h.run.reads_finished hd hf
        have hreads := (h.reads i).prefix_of_closed (h'.reads i) (hrs ▸ ReadingOn.not_ended)
        rw [chunksRead_eq, chunksRead_eq]
        exact (hreads.filterMap _).length_le
    obtain ⟨N, hN⟩ := exists_never hle
    refine ⟨N, fun n hn hi => ?_⟩
    simpa [hi] using hN n hn
  have hrun (n : Nat) : ∃ s', Run { j with concurrency := n₂ } disk (firstEvents σ n) s' :=
    (hplayed n).imp fun _ h' => h'.run
  exact not_forall_run hpages hchunks hrun

end Endless

end World

/-- In a world in which the limiter and the local files never say no, the answers of the store
depend on the call and on how often it was made before, and those of reading on the file and on what
was read of it before, what a transfer comes to depends neither on the order in which events come
nor on the number of downloads that can run at a time, as long as the listed entries have different
ids and names. Two plays that have come to their end are either both complete, with the same
deletion, and leave the same behind, or have both failed; and where one is complete, no other one
goes on for ever. -/
theorem outcome_independent {w : World} {j : Job} {n₁ n₂ : Nat} {disk : Disk}
    {es₁ es₂ : List Event} {s₁ s₂ : State}
    (hn₁ : max 1 n₁ ≤ slotLimit) (hn₂ : max 1 n₂ ≤ slotLimit)
    (h₁ : w.Final { j with concurrency := n₁ } disk es₁ s₁)
    (h₂ : w.Final { j with concurrency := n₂ } disk es₂ s₂)
    (hids₁ : ((entriesListed es₁).map (·.id)).Nodup)
    (hids₂ : ((entriesListed es₂).map (·.id)).Nodup)
    (hnames : ((entriesListed es₁).map fun e => localName e.name).Nodup) :
    ((∃ c, s₁.received.getLast? = some (.completed c) ∧
        s₂.received.getLast? = some (.completed c) ∧ SameResult s₁ s₂) ∨
      ∃ e₁ e₂, s₁.received.getLast? = some (.failed e₁) ∧
        s₂.received.getLast? = some (.failed e₂)) ∧
    ((∃ c, s₁.received.getLast? = some (.completed c)) → ∀ σ : Nat → Event, ∃ n,
      w.play { j with concurrency := n₂ } [] (.start { j with concurrency := n₂ } disk)
        ((List.range n).map σ) = none) := by
  have p₁ := h₁.played
  have p₂ := h₂.played
  obtain ⟨r₁, hr₁, ht₁, hlast₁⟩ := h₁.last hn₁
  obtain ⟨r₂, hr₂, ht₂, hlast₂⟩ := h₂.last hn₂
  refine ⟨?_, ?_⟩
  · cases r₁ with
    | progress u => cases ht₁
    | completed c₁ =>
      cases r₂ with
      | progress u => cases ht₂
      | completed c₂ =>
        have same := p₁.sameAnswers p₂ hids₁ hids₂ hr₁ hr₂
        obtain ⟨rfl, hres⟩ := same.sameResult p₁.run p₂.run hr₁ hr₂ p₁.not_denied p₂.not_denied
          hids₁ hnames
        exact .inl ⟨c₁, hlast₁, hlast₂, hres⟩
      | failed e₂ => exact (p₁.not_failed p₂ hids₁ hids₂ hr₁ hr₂).elim
    | failed e₁ =>
      cases r₂ with
      | progress u => cases ht₂
      | completed c₂ => exact (p₂.not_failed p₁ hids₂ hids₁ hr₂ hr₁).elim
      | failed e₂ => exact .inr ⟨e₁, e₂, hlast₁, hlast₂⟩
  · rintro ⟨c, hc⟩ σ
    obtain rfl : r₁ = .completed c := Option.some.inj (hlast₁.symm.trans hc)
    exact p₁.exists_play_eq_none hr₁ σ

/-- A job that copies a folder and then deletes it, in two attempts for each call at most. -/
def steadyJob : Job where
  folder := "f"
  destination := "d"
  concurrency := 0
  deleteAfter := true
  policy := .ofNat 2

/-- A world with two files, in which the store is busy at the first listing call and at the first
call for the second content. -/
def steadyWorld : World where
  answer
    | .list _ _ none, 0 => .error (.httpStatus 503 "busy")
    | .list _ _ none, _ => .ok ⟨[⟨"a", "x", some 2⟩, ⟨"b", "y", none⟩], none⟩
    | .download "b", 0 => .error (.httpStatus 503 "busy")
    | .download _, _ => .ok ()
    | .delete _, _ => .ok ()
    | _, _ => .error (.notFound "nothing")
  read
    | 0, 0 => .ok [1, 2]
    | 1, 0 => .ok [3]
    | _, _ => .ok []
  read_le := by
    intro i n chunk h
    split at h <;> cases h <;> decide

/-- The beginning of a play in this world, up to where the first page of the second listing is
answered. -/
def steadyBeginning : List Event :=
  let listing (r : Except CallError Page) : List Event :=
    [.admission .main (.ok ()), .start .main, .page r]
  let entries : List Entry := [⟨"a", "x", some 2⟩, ⟨"b", "y", none⟩]
  List.flatten
    [[.directory (.ok ())], listing (.error (.httpStatus 503 "busy")),
      listing (.ok ⟨entries, none⟩), [.send, .acquire], listing (.ok ⟨entries, none⟩)]

/-- The end of a play in this world, from where all has been joined and applied. -/
def steadyEnd : List Event :=
  [.drain, .admission .main (.ok ()), .start .main, .removal (.ok ()), .send, .take, .take, .take,
    .take, .take, .take]

/-- A play in which one file is copied after the other. -/
def playInTurn : List Event :=
  let fetching (i : Nat) (r : Except CallError Unit) : List Event :=
    [.admission (.download i) (.ok ()), .start (.download i), .stream i r]
  let copying (i : Nat) (chunk : Bytes) : List Event :=
    [.opened i (.ok ()), .read i (.ok chunk), .written i (.ok ()), .read i (.ok []),
      .closed i (.ok ()), .fold, .send, .fold, .send, .join i, .acquire]
  List.flatten
    [steadyBeginning, fetching 0 (.ok ()), copying 0 [1, 2],
      fetching 1 (.error (.httpStatus 503 "busy")), fetching 1 (.ok ()), copying 1 [3], steadyEnd]

/-- A play in which both are copied at a time, and the second one is done first. -/
def playAtOnce : List Event :=
  let asking (i : Nat) : List Event := [.admission (.download i) (.ok ()), .start (.download i)]
  List.flatten
    [steadyBeginning, [.acquire], asking 0, asking 1, [.stream 1 (.error (.httpStatus 503 "busy"))],
      asking 1,
      [.stream 1 (.ok ()), .opened 1 (.ok ()), .stream 0 (.ok ()), .read 1 (.ok [3]),
        .opened 0 (.ok ()), .read 0 (.ok [1, 2]), .stored 0 1, .written 1 (.ok ()),
        .read 1 (.ok []), .closed 1 (.ok ()), .join 1, .fold, .written 0 (.ok ()), .send,
        .read 0 (.ok []), .fold, .send, .acquire, .closed 0 (.ok ()), .fold, .send, .join 0, .fold,
        .send],
      steadyEnd]

/-- These plays, the one with a single slot and the other with three, are complete and leave the
same behind. -/
theorem outcome_independent_two_files :
    ∃ s₁ s₂, steadyWorld.Final { steadyJob with concurrency := 1 } {} playInTurn s₁ ∧
      steadyWorld.Final { steadyJob with concurrency := 3 } {} playAtOnce s₂ ∧
      s₁.received.getLast? = some (.completed .deleted) ∧
      s₂.received.getLast? = some (.completed .deleted) ∧ SameResult s₁ s₂ := by
  have hfinal {n : Nat} (es : List Event) {s : State}
      (h : steadyWorld.play { steadyJob with concurrency := n } []
        (.start { steadyJob with concurrency := n } {}) es = some s) (hd : s.Done) :
      steadyWorld.Final { steadyJob with concurrency := n } {} es s :=
    ⟨h, fun e he => hd.step_eq_none fun heq => by rw [heq] at he; cases he⟩
  have h₁ := hfinal (n := 1) playInTurn rfl ⟨rfl, rfl, rfl⟩
  have h₂ := hfinal (n := 3) playAtOnce rfl ⟨rfl, rfl, rfl⟩
  obtain ⟨hout, -⟩ := outcome_independent (by decide) (by decide) h₁ h₂ (by decide) (by decide)
    (by decide)
  refine ⟨_, _, h₁, h₂, rfl, rfl, ?_⟩
  rcases hout with ⟨c, -, -, hres⟩ | ⟨e₁, e₂, hfailed, -⟩
  · exact hres
  · cases hfailed

end FolderCopy.Transfer
