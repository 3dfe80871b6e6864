import FolderCopy.Proofs.Transfer.Fetches
import FolderCopy.Proofs.Transfer.Phases

/-!
# The schedule of a transfer

What a transfer calls, and when: the calls stand in phases and are those that have become due, every
entry of the second listing is scheduled in its place and no page is asked for before all entries of
the one before it are, and every download asks for its content in attempts one after the other until
one of them succeeds.
-/

namespace FolderCopy.Transfer

section Runs

variable {j : Job} {disk : Disk} {es : List Event} {s s' : State}

/-- Downloads are scheduled in the order in which their entries were listed. -/
lemma Run.downloads_in_order (h : Run j disk es s) :
    s.downloads.map (·.entry) <+: entriesListed es := by
  rw [← h.listed.2, h.sound.schedule]
  exact List.prefix_append _ _

/-- When a page of the second listing is asked for, all entries of the pages before it have been
scheduled. -/
lemma Run.downloads_eq_of_start (h : Run j disk es s) (hl : listingsRead es = 1)
    (hs : Transfer.step j s (.start .main) = some s') :
    s.downloads.map (·.entry) = entriesListed es := by
  have hc := h.course
  have hst := h.sound.standing
  cases Step.of_step hs with
  | move hi => cases hi
  | turn ht =>
    cases ht with
    | @started k n hk =>
      rw [hk] at hc hst
      cases k with
      | counting c t =>
        have h0 : listingsRead es = 0 := hc.2.1
        omega
      | paging => rw [← h.listed.2, h.sound.schedule, hst.2.1, List.append_nil]
      | cleaning =>
        have h2 : listingsRead es = 2 := hc.2.1
        omega

/-- In a complete transfer, every listed entry has its download. -/
lemma Run.downloads_eq_of_completed (h : Run j disk es s) {c : Cleanup}
    (hc : .completed c ∈ s.sent) : s.downloads.map (·.entry) = entriesListed es := by
  have hd := (h.of_completed hc).1
  rw [← h.listed.2, h.sound.schedule, (h.sound.exhausted hd.exhausted).2, List.append_nil]

/-- The record that was told first, once there is one after the first listing. -/
lemma Begun.head?_sent (h : Begun es s) (hr : Run j disk es s) :
    s.sent.head? = some (.ofSnapshot (.ofTotals (totalsCounted es))) := by
  obtain ⟨r, rest, hsent⟩ := List.exists_cons_of_ne_nil h.told
  have hhead : s.sent.head? = some r := by rw [hsent, List.head?_cons]
  rw [hhead, hr.head?_sent h.counted hhead, totalsCounted, ← hr.listed.1]
  rfl

/-- All that a run has called, in its phases. -/
lemma Run.calls_eq (h : Run j disk es s) :
    ∃ first later copying k, Phases j es s first later copying ∧
      s.calls = .createDirectory j.destination ::
        (first.map (·.call j) ++ copying ++ List.replicate k j.deletion) := by
  obtain ⟨first, later, copying, hp⟩ := h.phases
  obtain ⟨k, hdel⟩ := h.deleting
  obtain ⟨before, hcalls, hbefore⟩ := hdel.calls
  refine ⟨first, later, copying, k, hp, ?_⟩
  have heq := hp.calls
  have hkeep : before.filter (fun c => !c.deletes) = before :=
    List.filter_eq_self.2 fun c hc => by simpa using hbefore c hc
  have hdrop : (List.replicate k j.deletion).filter (fun c => !c.deletes) = [] := by
    simp [Job.deletion, Call.deletes]
  rw [hcalls, List.filter_append, hkeep, hdrop, List.append_nil] at heq
  rw [hcalls, heq]
  rfl

end Runs

/-- Every attempt is started once. -/
lemma countP_failedFetches (i : Nat) (cs : List CallError) :
    (failedFetches i cs).countP (·.starts?.isSome) = cs.length := by
  induction cs with
  | nil => rfl
  | cons c cs ih =>
    show List.countP _ ([_, _] ++ failedFetches i cs) = _
    rw [List.countP_append, ih]
    show 1 + _ = _
    rw [List.length_cons, Nat.add_comm]

/-- Of a series of attempts that are followed by further ones and a last one there are no more than
the policy allows. -/
lemma Download.Fetched.count_le {j : Job} {i : Nat} {entry : Entry} {es : List Event}
    {cs : List CallError} {last : LastFetch} (h : Fetched j i entry es cs last) :
    (es.filter Event.fetches).countP (·.starts?.isSome) ≤ j.policy.maxAttempts := by
  have hlast : (last.events i).countP (·.starts?.isSome) ≤ 1 := by
    cases last <;> simp [LastFetch.events, Event.starts?]
  have hlt := h.retried.length_lt
  rw [h.events, List.countP_append, countP_failedFetches]
  omega

/-- The calls of a transfer are those that have become due, in phases: the destination, without
which nothing else is called, the first listing, the second listing together with the downloads,
which begins behind the baseline, and the deletion. Each listing begins with its first page. The
entries of the second listing are scheduled in order as their pages come in, and the next page is
asked for when all of them are. Content is asked for by scheduled downloads only, and by each in
attempts one after the other, no more than allowed and none behind one that succeeded. A complete
transfer has scheduled every entry, and each download has succeeded in its last attempt. -/
theorem calls_scheduled {j : Job} {disk : Disk} {es : List Event} {s : State}
    (h : run j (.start j disk) es = some s) :
    (∃ first later copying k,
      s.calls = .createDirectory j.destination ::
        (first.map (·.call j) ++ copying ++ List.replicate k (.store (.delete j.folder))) ∧
      first ++ later <+: requests es ∧
      (∀ q ∈ first, q.listing = 0) ∧ (∀ q ∈ later, q.listing = 1) ∧
      copying.filter Call.lists = later.map (·.call j) ∧ (∀ c ∈ copying, c.lists ∨ c.copies) ∧
      (copying ≠ [] → listingsRead es ≠ 0 ∧
        s.sent.head? = some (.ofSnapshot (.ofTotals (totalsCounted es))))) ∧
    (∀ qs q, qs ++ [q] <+: requests es → (∀ q' ∈ qs, q'.listing ≠ q.listing) → q.token = none) ∧
    (∀ c, .directory (.error c) ∈ es → s.calls = [.createDirectory j.destination]) ∧
    s.downloads.map (·.entry) <+: entriesListed es ∧
    (∀ s', listingsRead es = 1 → step j s (.start .main) = some s' →
      s.downloads.map (·.entry) = entriesListed es) ∧
    List.Forall₂ (fun id i => s.id? i = some id) (s.calls.filterMap Call.fetched?)
      (es.filterMap Event.starts?) ∧
    (∀ i d, s.downloads[i]? = some d →
      (fetchesOf i es).countP (·.starts?.isSome) ≤ j.policy.maxAttempts ∧
      ∃ (cs : List CallError) (last : LastFetch),
        fetchesOf i es = failedFetches i cs ++ last.events i ∧
        (d.stage = .finished (.ok ()) → last = .succeeded)) ∧
    (∀ c, .completed c ∈ s.sent → listingsRead es = 2 ∧
      s.downloads.map (·.entry) = entriesListed es ∧
      ∀ i < (entriesListed es).length, ∃ cs, fetchesOf i es = failedFetches i cs ++
        [.start (.download i), .stream i (.ok ())]) := by
  have hr := Run.of_run h
  have hfetched (i : Nat) (d : Download) (hd : s.downloads[i]? = some d) :
      Download.Fetching j i d.entry (eventsOf i es) d.stage := by
    obtain ⟨fs, hrec⟩ := hr.chronicle.recorded i d hd
    exact hrec.history.fetching
  refine ⟨?_, fun qs q => token_of_first, ?_, hr.downloads_in_order,
    fun s' => hr.downloads_eq_of_start, hr.fetched_calls, ?_, ?_⟩
  · obtain ⟨first, later, copying, k, hp, hcalls⟩ := hr.calls_eq
    refine ⟨first, later, copying, k, hcalls, hp.due, hp.ofFirst, hp.ofLater, hp.listed, hp.kinds,
      fun hne => ?_⟩
    exact ⟨(hp.begun hne).counted, (hp.begun hne).head?_sent hr⟩
  · intro c hc
    exact hr.uncalled (hr.directory_error hc).2
  · intro i d hd
    have hst := hfetched i d hd
    obtain ⟨cs, last, hf⟩ := hst.exists_fetched
    refine ⟨hf.count_le, ?_⟩
    by_cases hok : d.stage = .finished (.ok ())
    · rw [hok] at hst
      obtain ⟨cs, hf⟩ := hst
      exact ⟨cs, .succeeded, hf.events, fun _ => rfl⟩
    · exact ⟨cs, last, hf.events, fun hf => absurd hf hok⟩
  · intro c hc
    have hall := hr.downloads_eq_of_completed hc
    have hlistings : listingsRead es = 2 := (hr.reason hc).1.listings
    refine ⟨hlistings, hall, ?_⟩
    intro i hi
    rw [← hall, List.length_map] at hi
    have hd := List.getElem?_eq_getElem hi
    have hst := hfetched i _ hd
    rw [(hr.of_completed hc).1.copied _ (List.mem_of_getElem? hd)] at hst
    obtain ⟨cs, hf⟩ := hst
    exact ⟨cs, hf.events⟩

/-- A job that copies a folder with two downloads at a time and two attempts for each call, and then
deletes it. -/
def schedulingJob : Job where
  folder := "f"
  destination := "d"
  concurrency := 2
  deleteAfter := true
  policy := .ofNat 2

/-- A run of this job with three files. The first listing is asked for twice, the second one has two
pages, and the first file is asked for twice. -/
def schedulingRun : List Event :=
  let listing (r : Except CallError Page) : List Event :=
    [.admission .main (.ok ()), .start .main, .page r]
  let fetching (i : Nat) (r : Except CallError Unit) : List Event :=
    [.admission (.download i) (.ok ()), .start (.download i), .stream i r]
  let copying (i : Nat) : List Event := [.opened i (.ok ()), .read i (.ok []), .closed i (.ok ())]
  List.flatten
    [[.directory (.ok ())], listing (.error (.httpStatus 503 "busy")),
      listing (.ok ⟨[⟨"a", "x", none⟩, ⟨"b", "y", none⟩, ⟨"c", "z", none⟩], none⟩),
      [.send, .acquire], listing (.ok ⟨[⟨"a", "x", none⟩, ⟨"b", "y", none⟩], some "next"⟩),
      [.acquire], fetching 0 (.error (.httpStatus 503 "busy")), fetching 1 (.ok ()), copying 1,
      [.acquire], listing (.ok ⟨[⟨"c", "z", none⟩], none⟩), fetching 2 (.ok ()),
      fetching 0 (.ok ()), copying 0, copying 2,
      [.join 0, .join 1, .join 2, .acquire, .fold, .send, .fold, .send, .fold, .send, .drain,
        .admission .main (.ok ()), .start .main, .removal (.ok ()), .send]]

/-- This run calls for its pages and files in order, and gets every file in its last attempt. -/
theorem calls_scheduled_three_files :
    ∃ s, run schedulingJob (.start schedulingJob {}) schedulingRun = some s ∧
      s.calls.filter Call.lists = (requests schedulingRun).dropLast.map (·.call schedulingJob) ∧
      s.calls.filterMap Call.fetched? = ["a", "b", "c", "a"] ∧
      s.downloads.map (·.entry) = entriesListed schedulingRun ∧
      ∀ i < 3, ∃ cs, fetchesOf i schedulingRun = failedFetches i cs ++
        [.start (.download i), .stream i (.ok ())] := by
  have h : run schedulingJob (.start schedulingJob {}) schedulingRun = some _ := rfl
  obtain ⟨-, -, -, -, -, -, -, hcompleted⟩ := calls_scheduled h
  obtain ⟨-, hall, hfetched⟩ := hcompleted .deleted (List.mem_of_getElem? (i := 4) rfl)
  exact ⟨_, h, rfl, rfl, hall, hfetched⟩

end FolderCopy.Transfer
