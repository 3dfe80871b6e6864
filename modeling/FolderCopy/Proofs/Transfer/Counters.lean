import FolderCopy.Proofs.Counting
import FolderCopy.Proofs.Transfer.Account
import FolderCopy.Proofs.Transfer.Records

/-!
# The counters

What the progress records of a transfer say. Every download reports each chunk that it has stored
and at last its completion, and the counters go from the totals of the first listing down by what
was reported, stopping at zero. No report is lost or counted twice: a complete transfer has told of
all of them, and has brought the counters to zero.
-/

namespace FolderCopy

/-- The totals of entries are counts of 64 bits. -/
lemma Enumeration.totalsOf_le (entries : List Entry) :
    (totalsOf entries).files ≤ maxCount ∧ (totalsOf entries).bytes ≤ maxCount := by
  induction entries using List.reverseRecOn with
  | nil => exact ⟨Nat.zero_le _, Nat.zero_le _⟩
  | append_singleton entries e ih =>
    rw [totalsOf, List.foldl_append]
    exact ⟨Totals.wrap_le _, Totals.wrap_le _⟩

namespace Transfer

/-! ## What changes take away -/

/-- How much changes take from one of the counters. -/
def taken (counter : Progress.Delta → Int) : List Change → Nat
  | [] => 0
  | c :: cs => (-counter c.delta).toNat + taken counter cs

/-- The bytes that changes take from those left. -/
def bytesOf (cs : List Change) : Nat :=
  taken (·.bytes) cs

/-- The files that changes take from those left. -/
def filesOf (cs : List Change) : Nat :=
  taken (·.files) cs

/-- What is left of totals after changes, never less than nothing. -/
def leftOf (t : Totals) (cs : List Change) : Progress.Snapshot :=
  ⟨t.bytes - bytesOf cs, t.files - filesOf cs⟩

/-- Changes in two parts take what each part takes. -/
lemma taken_append (counter : Progress.Delta → Int) (cs cs' : List Change) :
    taken counter (cs ++ cs') = taken counter cs + taken counter cs' := by
  induction cs with
  | nil => exact (Nat.zero_add _).symm
  | cons c cs ih =>
    show _ + taken counter (cs ++ cs') = _ + taken counter cs + _
    rw [ih, Nat.add_assoc]

/-- Changes in two parts take the bytes that each part takes. -/
lemma bytesOf_append (cs cs' : List Change) : bytesOf (cs ++ cs') = bytesOf cs + bytesOf cs' :=
  taken_append _ cs cs'

/-- Changes in two parts take the files that each part takes. -/
lemma filesOf_append (cs cs' : List Change) : filesOf (cs ++ cs') = filesOf cs + filesOf cs' :=
  taken_append _ cs cs'

/-- More changes take at least as much. -/
lemma leftOf_take_le (t : Totals) (cs : List Change) {m n : Nat} (h : m ≤ n) :
    (leftOf t (cs.take n)).bytes ≤ (leftOf t (cs.take m)).bytes ∧
      (leftOf t (cs.take n)).files ≤ (leftOf t (cs.take m)).files := by
  have hsplit := (List.take_append_drop m (cs.take n)).symm
  rw [List.take_take, Nat.min_eq_left h] at hsplit
  rw [hsplit, leftOf, leftOf, bytesOf_append, filesOf_append]
  constructor <;> simp only <;> omega

/-- Applying changes that only take away leaves what they do not take. -/
lemma foldl_apply_eq_leftOf {t : Totals} (hf : t.files ≤ maxCount) (hb : t.bytes ≤ maxCount)
    {cs : List Change} (h : ∀ c ∈ cs, c.delta.bytes ≤ 0 ∧ c.delta.files ≤ 0) :
    (cs.map (·.delta)).foldl Progress.Snapshot.apply (.ofTotals t) = leftOf t cs := by
  -- From the back, as the counters are folded; none of them is ever above the totals.
  induction cs using List.reverseRecOn with
  | nil => rfl
  | append_singleton cs c ih =>
    have hc := h c (by simp)
    rw [List.map_append, List.foldl_append, ih fun c hmem => h c (List.mem_append_left _ hmem)]
    show Progress.Snapshot.apply (leftOf t cs) c.delta = leftOf t (cs ++ [c])
    rw [leftOf, leftOf, bytesOf_append, filesOf_append, Progress.Snapshot.apply,
      Progress.shift_of_nonpos (Nat.le_trans (Nat.sub_le _ _) hb) hc.1,
      Progress.shift_of_nonpos (Nat.le_trans (Nat.sub_le _ _) hf) hc.2]
    simp [bytesOf, filesOf, taken, Nat.sub_sub]

/-! ## What downloads report -/

/-- A chunk is reported with its length. -/
lemma received_of_le {chunk : Bytes} (h : chunk.length ≤ chunkLimit) :
    Progress.Delta.received chunk.length = ⟨-chunk.length, 0⟩ := by
  have hle : (chunk.length : Int) ≤ Json.maxInt := by
    rw [chunkLimit] at h
    rw [Json.maxInt]
    omega
  rw [Progress.Delta.received, Int.min_eq_left hle]

section Runs

variable {j : Job} {disk : Disk} {es : List Event} {s : State}

/-- A download reports the length of each chunk that it has stored, in order, and its completion
when its local file has been closed. -/
lemma Run.changesOf_eq (h : Run j disk es s) (i : Nat) :
    changesOf i s.deltas = (chunksStored (eventsOf i es)).map (fun c => ⟨-c.length, 0⟩) ++
      if (eventsOf i es).any Event.closesFile then [⟨0, -1⟩] else [] := by
  by_cases hsch : ∃ d, s.downloads[i]? = some d
  · obtain ⟨d, hd⟩ := hsch
    obtain ⟨fs, hrec⟩ := h.chronicle.recorded i d hd
    rw [hrec.changes, hrec.history.reports]
    refine congrArg (· ++ _) (List.map_congr_left ?_)
    intro c hc
    exact received_of_le (hrec.history.chunk_le c (List.mem_of_mem_take hc))
  -- A number that no download has yet is that of no event and of no report.
  · have hnone : eventsOf i es = [] ∧ changesOf i s.deltas = [] := by
      constructor
      · exact not_not.1 fun hne => hsch (h.scheduled (.inl hne))
      · exact not_not.1 fun hne => hsch (h.scheduled (.inr hne))
    rw [hnone.1, hnone.2]
    rfl

/-- What downloads report only takes from the counters. -/
lemma Run.nonpos (h : Run j disk es s) :
    ∀ c ∈ s.deltas, c.delta.bytes ≤ 0 ∧ c.delta.files ≤ 0 := by
  intro c hc
  have hmem : c.delta ∈ changesOf c.origin s.deltas := mem_changesOf.2 hc
  rw [h.changesOf_eq] at hmem
  rcases List.mem_append.1 hmem with hmem | hmem
  · obtain ⟨chunk, -, hchunk⟩ := List.mem_map.1 hmem
    rw [← hchunk]
    exact ⟨by simp, Int.le_refl 0⟩
  · split at hmem
    case isTrue =>
      rw [List.mem_singleton.1 hmem]
      exact ⟨Int.le_refl 0, by decide⟩
    case isFalse => cases hmem

/-- What is left after the first `n` changes. -/
lemma Run.leftAfter_eq (h : Run j disk es s) (n : Nat) :
    s.leftAfter n = leftOf (totalsCounted es) (s.deltas.take n) := by
  obtain ⟨hf, hb⟩ := Enumeration.totalsOf_le s.counted
  rw [totalsCounted, ← h.listed.1, State.leftAfter, State.baseline]
  exact foldl_apply_eq_leftOf hf hb fun c hc => h.nonpos c (List.mem_of_mem_take hc)

end Runs

/-! ## What is told of them -/

/-- The counters that a transfer has told, in order. -/
def State.told (s : State) : List Progress.Snapshot :=
  s.sent.filterMap Status.snapshot?

/-- Counters that are told: those after the first changes one by one, and behind all of these at
most once those of zero. -/
def State.Counts (s : State) (ps : List Progress.Snapshot) : Prop :=
  ∃ k ≤ s.deltas.length + 1, ∃ rest, ps = (List.range k).map s.leftAfter ++ rest ∧
    (rest = [] ∨ s.Drained ∧ k = s.deltas.length + 1 ∧ s.leftAfter s.deltas.length ≠ .zero ∧
      rest = [.zero])

/-- The loop tells the counters after each change that was applied. -/
lemma State.loopRecords_eq {s : State} (h : s.folded ≤ s.deltas.length) :
    s.loopRecords = (List.range (s.folded + 1)).map fun n => .ofSnapshot (s.leftAfter n) := by
  apply List.ext_getElem?
  intro n
  rw [List.getElem?_map]
  rcases Nat.lt_or_ge n (s.folded + 1) with hlt | hge
  · rw [s.getElem?_loopRecords h (Nat.le_of_lt_succ hlt), List.getElem?_range hlt]
    rfl
  · have hlen : s.loopRecords.length = s.folded + 1 := by
      rw [State.loopRecords, List.length_map, List.length_scanl, State.applied, List.length_map,
        List.length_take, Nat.min_eq_left h]
    rw [List.getElem?_eq_none (hlen ▸ hge), List.getElem?_eq_none (by simpa using hge)]
    rfl

/-- The counters of progress records are read off them. -/
lemma filterMap_snapshot? {α : Type} (f : α → Progress.Snapshot) (ns : List α) :
    (ns.map fun n => Status.ofSnapshot (f n)).filterMap Status.snapshot? = ns.map f := by
  rw [List.filterMap_map]
  exact congrFun List.filterMap_eq_map ns

/-- A terminal record tells no counters. -/
lemma filterMap_snapshot?_snoc {r : Status} (rs : List Status) (h : r.isTerminal) :
    (rs ++ [r]).filterMap Status.snapshot? = rs.filterMap Status.snapshot? := by
  cases r with
  | progress => cases h
  | completed | failed =>
    rw [List.filterMap_append]
    exact List.append_nil _

/-- The end of the loop tells the counters of zero where they are not there yet. -/
lemma State.settling_eq {s : State} (h : s.Drained) :
    s.settling.filterMap Status.snapshot? =
      if s.leftAfter s.deltas.length = .zero then [] else [.zero] := by
  have hleft : s.left = s.leftAfter s.deltas.length := by
    rw [State.left, State.applied, h.folded]
    rfl
  rw [State.settling, hleft, Progress.Snapshot.settle?]
  by_cases hz : s.leftAfter s.deltas.length = .zero
  · rw [if_pos (Progress.Snapshot.isSettled_iff.2 hz), if_pos hz]
    rfl
  · rw [if_neg (Progress.Snapshot.isSettled_iff.not.2 hz), if_neg hz]
    rfl

/-- The counters of a drained transfer that has told of the end of its loop. -/
lemma State.snapshots_of_drained {s : State} (h : s.Drained) :
    (s.loopRecords ++ s.settling).filterMap Status.snapshot? =
      (List.range (s.deltas.length + 1)).map s.leftAfter ++
        if s.leftAfter s.deltas.length = .zero then [] else [.zero] := by
  rw [List.filterMap_append, s.settling_eq h, s.loopRecords_eq (Nat.le_of_eq h.folded),
    filterMap_snapshot?, h.folded]

/-- The counters of what has been told so far. -/
lemma State.SoFar.counts {s : State} {rs : List Status} (h : s.SoFar rs)
    (hle : s.folded ≤ s.deltas.length) : s.Counts (rs.filterMap Status.snapshot?) := by
  rcases h with h | ⟨hd, rfl⟩
  · rw [List.prefix_iff_eq_take, s.loopRecords_eq hle, ← List.map_take, List.take_range] at h
    have hps := congrArg (List.filterMap Status.snapshot?) h
    rw [filterMap_snapshot?] at hps
    exact ⟨min rs.length (s.folded + 1), by omega, [], by rw [hps, List.append_nil], .inl rfl⟩
  · refine ⟨s.deltas.length + 1, Nat.le_refl _, _, s.snapshots_of_drained hd, ?_⟩
    split
    case isTrue => exact .inl rfl
    case isFalse hz => exact .inr ⟨hd, rfl, hz, rfl⟩

section Runs

variable {j : Job} {disk : Disk} {es : List Event} {s : State}

/-- The counters that a run has told. -/
lemma Run.counts (h : Run j disk es s) : s.Counts s.told := by
  have hle := h.sound.folded_le
  rcases h.sent with hsofar | hending
  · exact hsofar.counts hle
  · rw [State.told]
    generalize s.sent = rs at hending
    cases hending with
    | cut hl hsofar => exact hsofar.counts hle
    | failedEarly => exact ⟨0, Nat.zero_le _, [], rfl, .inl rfl⟩
    | failed =>
      rw [filterMap_snapshot?_snoc _ rfl]
      exact State.SoFar.counts (.inl List.prefix_rfl) hle
    | completed hd =>
      rw [filterMap_snapshot?_snoc _ rfl]
      exact State.SoFar.counts (.inr ⟨hd, rfl⟩) hle

/-- The counters that a complete run has told. -/
lemma Run.told_of_completed (h : Run j disk es s) {c : Cleanup} (hc : .completed c ∈ s.sent) :
    s.told = (List.range (s.deltas.length + 1)).map s.leftAfter ++
      if s.leftAfter s.deltas.length = .zero then [] else [.zero] := by
  obtain ⟨hd, hsent⟩ := h.of_completed hc
  rw [State.told, hsent, filterMap_snapshot?_snoc _ rfl, s.snapshots_of_drained hd]

/-- The counters that a complete run has told end at zero. -/
lemma Run.getLast?_told (h : Run j disk es s) {c : Cleanup} (hc : .completed c ∈ s.sent) :
    s.told.getLast? = some .zero := by
  rw [h.told_of_completed hc]
  split
  case isTrue hz =>
    rw [List.append_nil, List.range_succ, List.map_append, List.map_singleton,
      List.getLast?_concat, hz]
  case isFalse => exact List.getLast?_concat

/-- The counters that a run has told never go up. -/
lemma Run.told_pairwise (h : Run j disk es s) :
    s.told.Pairwise fun p q => q.bytes ≤ p.bytes ∧ q.files ≤ p.files := by
  obtain ⟨k, -, rest, hps, hrest⟩ := h.counts
  rw [hps, List.pairwise_append]
  refine ⟨?_, ?_, ?_⟩
  · rw [List.pairwise_map]
    apply List.pairwise_lt_range.imp
    intro m n hlt
    rw [h.leftAfter_eq, h.leftAfter_eq]
    exact leftOf_take_le _ _ (Nat.le_of_lt hlt)
  · rcases hrest with rfl | ⟨-, -, -, rfl⟩
    · exact .nil
    · exact List.pairwise_singleton _ _
  · intro p _ q hq
    rcases hrest with rfl | ⟨-, -, -, rfl⟩
    · cases hq
    · cases List.mem_singleton.1 hq
      exact ⟨Nat.zero_le _, Nat.zero_le _⟩

end Runs

/-! ## Files -/

/-- Whether a download has finished well. -/
def Download.isCopied (d : Download) : Bool :=
  match d.stage with
  | .finished (.ok ()) => true
  | _ => false

/-- A download that runs has not finished well. -/
lemma Download.isCopied_of_isRunning {d : Download} (h : d.isRunning) : d.isCopied = false := by
  unfold Download.isCopied
  split
  case h_1 hs => simp [Download.isRunning, hs] at h
  case h_2 => rfl

/-- A download reports one file when it finishes well. -/
lemma Download.Move.filesOf_eq {j : Job} {d d' : Download} {e : Event} {fs : List Effect}
    (h : Download.Move j d e d' fs) (i : Nat) :
    filesOf ((fs.filterMap Effect.delta?).map (⟨i, ·⟩)) = if d'.isCopied then 1 else 0 := by
  cases h <;> rfl

/-- A turn changes no download that has finished well, and makes none finish. -/
lemma Turn.OnDownloads.countP_isCopied {ds ds' : List Download} (h : Turn.OnDownloads ds ds') :
    ds'.countP Download.isCopied = ds.countP Download.isCopied := by
  cases h with
  | same => rfl
  | scheduled e =>
    rw [List.countP_append]
    rfl
  | @joined i d r hd hf =>
    exact countP_set_of_eq hd rfl

section Runs

variable {j : Job} {disk : Disk} {es : List Event} {s : State}

/-- As many files are reported as downloads have finished well. -/
lemma Run.filesOf_eq (h : Run j disk es s) :
    filesOf s.deltas = s.downloads.countP Download.isCopied := by
  induction h with
  | start => rfl
  | @step es s e s' hr h ih =>
    cases h with
    | turn ht => rw [ht.outputs_eq.1, ih, ht.onDownloads.countP_isCopied]
    | @move i d d' fs hi hd hp hm =>
      obtain ⟨hlt, rfl⟩ := List.getElem?_eq_some_iff.1 hd
      show filesOf (s.deltas ++ _) = (s.downloads.set i d').countP _
      rw [filesOf_append, ih, hm.filesOf_eq, List.countP_set hlt,
        Download.isCopied_of_isRunning hm.isRunning]
      rfl

/-- No more files are reported than listed. -/
lemma Run.filesOf_take_le (h : Run j disk es s) (n : Nat) :
    filesOf (s.deltas.take n) ≤ (entriesListed es).length := by
  have hs := h.sound
  calc filesOf (s.deltas.take n)
      ≤ filesOf (s.deltas.take n) + filesOf (s.deltas.drop n) := Nat.le_add_right _ _
    _ = filesOf s.deltas := by rw [← filesOf_append, List.take_append_drop]
    _ = s.downloads.countP Download.isCopied := h.filesOf_eq
    _ ≤ s.downloads.length := List.countP_le_length
    _ ≤ s.listed.length := by simp [hs.schedule]
    _ = (entriesListed es).length := by rw [h.listed.2]

/-- A drained run has reported every file that was listed. -/
lemma Run.filesOf_of_drained (h : Run j disk es s) (hd : s.Drained) :
    filesOf s.deltas = (entriesListed es).length := by
  have hs := h.sound
  have hall : s.downloads.countP Download.isCopied = s.downloads.length := by
    apply List.countP_eq_length.2
    intro d hmem
    rw [Download.isCopied, hd.copied d hmem]
  rw [h.filesOf_eq, hall, ← h.listed.2, hs.schedule, (hs.exhausted hd.exhausted).2]
  simp

/-- The files that are told as left are exact where the second listing has no more than the
first. -/
lemma Run.files_exact (h : Run j disk es s)
    (hle : (entriesListed es).length ≤ (totalsCounted es).files) {n : Nat}
    {p : Progress.Snapshot} (hp : s.told[n]? = some p) :
    p.files + filesOf (s.deltas.take n) = (totalsCounted es).files ∨
      n = s.deltas.length + 1 ∧
        (entriesListed es).length < (totalsCounted es).files := by
  obtain ⟨k, hk, rest, hps, hrest⟩ := h.counts
  have hlen : ((List.range k).map s.leftAfter).length = k := by simp
  rw [hps] at hp
  rcases Nat.lt_or_ge n k with hlt | hge
  · rw [List.getElem?_append_left (by rwa [hlen]), List.getElem?_map, List.getElem?_range hlt] at hp
    cases hp
    have hfiles := Nat.le_trans (h.filesOf_take_le n) hle
    rw [h.leftAfter_eq]
    exact .inl (Nat.sub_add_cancel hfiles)
  -- Behind the records of the changes comes that of zero only, where all files are reported.
  · rw [List.getElem?_append_right (by rwa [hlen]), hlen] at hp
    rcases hrest with rfl | ⟨hd, rfl, -, rfl⟩
    · cases hp
    · obtain ⟨hn, rfl⟩ : n = s.deltas.length + 1 ∧ p = .zero := by
        have hlt := (List.getElem?_eq_some_iff.1 hp).1
        rw [List.length_singleton] at hlt
        obtain rfl : n = s.deltas.length + 1 := by omega
        rw [Nat.sub_self] at hp
        exact ⟨rfl, (Option.some.inj hp).symm⟩
      rw [hn, List.take_of_length_le (Nat.le_succ _), h.filesOf_of_drained hd]
      show 0 + _ = _ ∨ _
      omega

end Runs

/-- Every download reports the length of each chunk that it has stored, and its completion when its
local file has been closed. What is told behind the baseline are the totals of the first listing
less the reports, one after the other and stopping at zero, and the counters never go up. A complete
transfer has told of all reports, then once of zero if that was not reached, and ends at zero. If
the second listing has as many files as the first, the files told as left are those not
reported. -/
theorem progress_exact {j : Job} {disk : Disk} {es : List Event} {s : State}
    (h : run j (.start j disk) es = some s) :
    (∀ i, changesOf i s.deltas =
      (chunksStored (eventsOf i es)).map (fun c => ⟨-c.length, 0⟩) ++
        if (eventsOf i es).any Event.closesFile then [⟨0, -1⟩] else []) ∧
    (∃ k ≤ s.deltas.length + 1, ∃ rest,
      s.told = (List.range k).map
        (fun n => leftOf (totalsCounted es) (s.deltas.take n)) ++ rest ∧
      (rest = [] ∨ s.Drained ∧ k = s.deltas.length + 1 ∧
        leftOf (totalsCounted es) s.deltas ≠ .zero ∧ rest = [.zero])) ∧
    s.told.Pairwise (fun p q => q.bytes ≤ p.bytes ∧ q.files ≤ p.files) ∧
    (∀ c, .completed c ∈ s.sent →
      s.told = (List.range (s.deltas.length + 1)).map
        (fun n => leftOf (totalsCounted es) (s.deltas.take n)) ++
          (if leftOf (totalsCounted es) s.deltas = .zero then []
            else [.zero]) ∧
      s.told.getLast? = some .zero ∧ filesOf s.deltas = (entriesListed es).length) ∧
    ((entriesListed es).length ≤ (totalsCounted es).files →
      ∀ n p, s.told[n]? = some p →
        p.files + filesOf (s.deltas.take n) = (totalsCounted es).files ∨
          n = s.deltas.length + 1 ∧
            (entriesListed es).length < (totalsCounted es).files) := by
  have hr := Run.of_run h
  have hleft : s.leftAfter =
      fun n => leftOf (totalsCounted es) (s.deltas.take n) :=
    funext hr.leftAfter_eq
  have hwhole : s.leftAfter s.deltas.length =
      leftOf (totalsCounted es) s.deltas := by
    rw [hr.leftAfter_eq, List.take_length]
  refine ⟨hr.changesOf_eq, ?_, hr.told_pairwise, ?_,
    fun hle n p hp => hr.files_exact hle hp⟩
  · rw [← hleft, ← hwhole]
    exact hr.counts
  · intro c hc
    rw [← hleft, ← hwhole]
    exact ⟨hr.told_of_completed hc, hr.getLast?_told hc,
      hr.filesOf_of_drained (hr.of_completed hc).1⟩

/-- A job that copies a folder and keeps it. -/
def keepingJob : Job where
  folder := "f"
  destination := "d"
  concurrency := 4
  deleteAfter := false
  policy := .standard

/-- A run of this job where the second listing lacks a file of the first, and the other file is
smaller than listed. -/
def shrunkRun : List Event :=
  let listing (entries : List Entry) : List Event :=
    [.admission .main (.ok ()), .start .main, .page (.ok ⟨entries, none⟩)]
  .directory (.ok ()) :: listing [⟨"a", "x", some 10⟩, ⟨"b", "y", none⟩] ++ [.send, .acquire] ++
    listing [⟨"a", "x", some 10⟩] ++
    [.admission (.download 0) (.ok ()), .start (.download 0), .stream 0 (.ok ()),
      .opened 0 (.ok ()), .read 0 (.ok [1, 2]), .stored 0 1, .written 0 (.ok ()), .fold,
      .read 0 (.ok [3]), .send, .written 0 (.ok ()), .read 0 (.ok []), .closed 0 (.ok ()), .acquire,
      .join 0, .fold, .send, .fold, .send, .drain, .send, .send]

/-- This run tells of each report and then brings the counters to zero. -/
theorem progress_exact_shrunk :
    ∃ s, run keepingJob (.start keepingJob {}) shrunkRun = some s ∧
      .completed .notRequested ∈ s.sent ∧
      s.told = [⟨10, 2⟩, ⟨8, 2⟩, ⟨7, 2⟩, ⟨7, 1⟩, ⟨0, 0⟩] ∧ s.told.getLast? = some .zero := by
  have h : run keepingJob (.start keepingJob {}) shrunkRun = some _ := rfl
  obtain ⟨-, -, -, hcompleted, -⟩ := progress_exact h
  obtain ⟨htold, hlast, -⟩ := hcompleted .notRequested (List.mem_of_getElem? (i := 5) rfl)
  exact ⟨_, h, List.mem_of_getElem? (i := 5) rfl, htold, hlast⟩

end Transfer

end FolderCopy
