import FolderCopy.Proofs.Transfer.Grounds
import FolderCopy.Proofs.Transfer.Mirror

/-!
# Namesakes

A local file is named after the remote one, and different remote names may come to one local name.
Every download opens the file of its own entry, once; so a local file is opened twice where two
entries are namesakes and nowhere else. The file of an entry without namesake is stored in full,
whatever becomes of the others; of two namesakes only one may be left.
-/

namespace FolderCopy.Transfer

/-- The local file that a call opens. -/
def Call.opened? : Call → Option String
  | .openFile path => some path
  | _ => none

/-- The download that has got its content and opens its local file. -/
def Event.opens? : Event → Option Nat
  | .stream i (.ok ()) => some i
  | _ => none

/-- Inside the destination, entries have one path where their names are namesakes. -/
lemma Job.target_eq_iff {j : Job} {a b : Entry} :
    j.target a = j.target b ↔ Namesakes a.name b.name := by
  rw [← localName_eq_iff]
  exact ⟨joinPath_inj, fun h => by rw [Job.target, Job.target, h]⟩

section Runs

variable {j : Job} {disk : Disk} {es : List Event} {s s' : State} {e : Event}

/-- A turn opens no file. -/
lemma Turn.opened_eq (h : Turn j s e s') :
    s'.calls.filterMap Call.opened? = s.calls.filterMap Call.opened? ∧ e.opens? = none := by
  cases h with
  | started =>
    refine ⟨?_, rfl⟩
    show (s.calls ++ [Call.store _]).filterMap _ = _
    rw [List.filterMap_append]
    exact List.append_nil _
  | counted => exact ⟨by rw [State.countPage_eq], rfl⟩
  | supplied | acquired => exact ⟨by rw [State.supply_eq], rfl⟩
  | drained => exact ⟨by rw [State.settle_eq], rfl⟩
  | sent => exact ⟨by rw [State.resume_eq], rfl⟩
  | _ => exact ⟨rfl, rfl⟩

/-- A download opens its own file, and does so when it has got its content. -/
lemma Download.Move.opened_eq {i : Nat} {d d' : Download} {fs : List Effect}
    (h : Download.Move j d e d' fs) (hi : e.download? = some i) :
    (fs.filterMap Effect.call?).filterMap Call.opened? = [] ∧ e.opens? = none ∨
      (fs.filterMap Effect.call?).filterMap Call.opened? = [j.target d.entry] ∧
        e.opens? = some i := by
  cases h with
  | fetched => exact .inr ⟨rfl, hi⟩
  | _ => exact .inl ⟨rfl, rfl⟩

/-- The files that are opened are those of the entries whose content was got, in this order. -/
lemma Run.opened_calls (h : Run j disk es s) :
    (s.calls.filterMap Call.opened?).map some =
      (es.filterMap Event.opens?).map fun i => (entriesListed es)[i]?.map j.target := by
  have hf := h.forall₂_calls rfl Turn.opened_eq Download.Move.opened_eq
  rw [← h.listed.2]
  refine List.forall₂_eq_eq_eq ▸ List.forall₂_map_left_iff.2 (List.forall₂_map_right_iff.2 ?_)
  refine hf.imp ?_
  intro path i hi
  obtain ⟨d, hd, rfl⟩ := Option.map_eq_some_iff.1 hi
  rw [h.sound.getElem?_listed hd]
  rfl

/-- The attempts of a download that got its content: as many as there are events in the run. -/
lemma count_opens (i : Nat) (es : List Event) :
    (es.filterMap Event.opens?).count i = (streams (eventsOf i es)).countP (·.isOk) := by
  rw [List.count, List.countP_filterMap, streams, List.countP_filterMap, eventsOf,
    List.countP_filter]
  apply List.countP_congr
  intro e _
  cases e with
  | stream k r => cases r <;> simp [Event.opens?, Event.stream?, Event.download?, Except.isOk,
      Except.toBool]
  | _ => simp [Event.opens?, Event.stream?]

/-- A download gets its content once. -/
lemma Run.nodup_opens (h : Run j disk es s) : (es.filterMap Event.opens?).Nodup := by
  rw [List.nodup_iff_count_le_one]
  intro i
  rw [count_opens]
  rcases lt_or_ge i s.downloads.length with hlt | hge
  · obtain ⟨fs, hrec⟩ := h.chronicle.recorded i _ (List.getElem?_eq_getElem hlt)
    obtain ⟨cs, last, hf⟩ := hrec.history.fetching.exists_fetched
    have hfailed : (cs.map (Except.error (α := Unit))).countP (·.isOk) = 0 := by
      simp [List.countP_eq_zero, Except.isOk, Except.toBool]
    rw [hf.streams_eq, List.countP_append, hfailed]
    cases last <;> simp [LastFetch.answer?, Except.isOk, Except.toBool]
  · rw [(h.chronicle.unscheduled i hge).1]
    exact Nat.zero_le _

/-- A download that has finished well has got its content. -/
lemma Run.opens_of_finished (h : Run j disk es s) {i : Nat} {d : Download}
    (hd : s.downloads[i]? = some d) (hf : d.stage = .finished (.ok ())) :
    i ∈ es.filterMap Event.opens? := by
  obtain ⟨fs, hrec⟩ := h.chronicle.recorded i d hd
  have hst := hrec.history.fetching
  rw [hf] at hst
  obtain ⟨cs, hfetched⟩ := hst
  rw [← List.count_pos_iff, count_opens, hfetched.streams_eq]
  simp [LastFetch.answer?, Except.isOk, Except.toBool]

/-- An entry without namesake has a local file that only its own download writes. -/
lemma State.Sound.soleWriter_of_no_namesake (h : s.Sound) {i : Nat} {d : Download}
    (hn : ∀ k other, s.listed[k]? = some other → Namesakes other.name d.entry.name → k = i) :
    s.SoleWriter j i d := by
  intro k d' hk ht
  exact hn k d'.entry (h.getElem?_listed hk) (Job.target_eq_iff.1 ht)

/-- The download of an entry has finished well once its completion has been reported, or all of the
transfer is complete. -/
lemma Run.finished_of_reported (h : Run j disk es s) {i : Nat} {entry : Entry}
    (hi : s.listed[i]? = some entry)
    (hc : ⟨i, .completed⟩ ∈ s.deltas ∨ ∃ c, .completed c ∈ s.sent) :
    ∃ d, s.downloads[i]? = some d ∧ d.stage = .finished (.ok ()) ∧ d.entry = entry := by
  have hentry {d : Download} (hd : s.downloads[i]? = some d) : d.entry = entry :=
    Option.some.inj ((h.sound.getElem?_listed hd).symm.trans hi)
  rcases hc with hc | ⟨c, hc⟩
  · obtain ⟨d, hd⟩ := h.scheduled (.inr (List.ne_nil_of_mem (mem_changesOf.2 hc)))
    exact ⟨d, hd, h.finished_of_completed hd hc, hentry hd⟩
  · have hdr := (h.of_completed hc).1
    obtain ⟨d, hd⟩ := h.sound.scheduled hdr hi
    exact ⟨d, hd, hdr.copied d (List.mem_of_getElem? hd), hentry hd⟩

end Runs

/-- The local files that a transfer opens are those of the entries whose content it got, each once;
no path is opened twice exactly where no two of these entries are namesakes. A complete transfer has
opened the file of every entry that was listed. An entry without namesake is stored in full once its
completion has been reported or the transfer is complete. -/
theorem opened_once_iff_no_namesakes {j : Job} {disk : Disk} {es : List Event} {s : State}
    (h : run j (.start j disk) es = some s) :
    (s.calls.filterMap Call.opened?).map some =
      (es.filterMap Event.opens?).map (fun i => (entriesListed es)[i]?.map j.target) ∧
    (es.filterMap Event.opens?).Nodup ∧
    ((s.calls.filterMap Call.opened?).Nodup ↔
      ∀ i ∈ es.filterMap Event.opens?, ∀ k ∈ es.filterMap Event.opens?, ∀ a b,
        (entriesListed es)[i]? = some a → (entriesListed es)[k]? = some b →
        Namesakes a.name b.name → i = k) ∧
    ((∃ c, .completed c ∈ s.sent) →
      ∀ i < (entriesListed es).length, i ∈ es.filterMap Event.opens?) ∧
    ∀ i entry, (entriesListed es)[i]? = some entry →
      (∀ k other, (entriesListed es)[k]? = some other → Namesakes other.name entry.name → k = i) →
      ⟨i, .completed⟩ ∈ s.deltas ∨ (∃ c, .completed c ∈ s.sent) →
      .read i (.ok []) ∈ es ∧ s.disk.read? (j.target entry) = some (served i es) := by
  have hr := Run.of_run h
  have hopened := hr.opened_calls
  refine ⟨hopened, hr.nodup_opens, ?_, ?_, ?_⟩
  · rw [← List.nodup_map_iff ((fun _ _ h => Option.some.inj h)), hopened,
      List.nodup_map_iff_inj_on hr.nodup_opens]
    refine forall₂_congr fun i hi => forall₂_congr fun k hk => ?_
    -- An entry was listed for each of the two, since its path is among those opened.
    have hlisted {i : Nat} (hi : i ∈ es.filterMap Event.opens?) :
        ∃ a, (entriesListed es)[i]? = some a := by
      have hmem := List.mem_map_of_mem (f := fun i => (entriesListed es)[i]?.map j.target) hi
      rw [← hopened] at hmem
      obtain ⟨path, -, hpath⟩ := List.mem_map.1 hmem
      obtain ⟨a, ha, -⟩ := Option.map_eq_some_iff.1 hpath.symm
      exact ⟨a, ha⟩
    obtain ⟨a, ha⟩ := hlisted hi
    obtain ⟨b, hb⟩ := hlisted hk
    simp [ha, hb, Job.target_eq_iff]
  · rintro hc i hi
    rw [← hr.listed.2] at hi
    obtain ⟨d, hd, hf, -⟩ := hr.finished_of_reported (List.getElem?_eq_getElem hi) (.inr hc)
    exact hr.opens_of_finished hd hf
  · intro i entry hi hn hc
    rw [← hr.listed.2] at hi hn
    obtain ⟨d, hd, hf, rfl⟩ := hr.finished_of_reported hi hc
    exact hr.mirrored hd (hr.sound.soleWriter_of_no_namesake hn) hf

/-- A job that copies a folder with one download at a time and then deletes it. -/
def namesakesJob : Job where
  folder := "f"
  destination := "/out"
  concurrency := 1
  deleteAfter := true
  policy := .standard

/-- A run of this job with three files of one byte each, two of them of one name. -/
def namesakesRun : List Event :=
  let entries := [⟨"1", "x", some 1⟩, ⟨"2", "x", some 1⟩, ⟨"3", "y", some 1⟩]
  let listing := [.admission .main (.ok ()), .start .main, .page (.ok ⟨entries, none⟩)]
  let copying (i : Nat) (byte : UInt8) : List Event :=
    [.admission (.download i) (.ok ()), .start (.download i), .stream i (.ok ()),
      .opened i (.ok ()), .read i (.ok [byte]), .written i (.ok ()), .read i (.ok []),
      .closed i (.ok ()), .join i, .acquire, .fold, .send, .fold, .send]
  .directory (.ok ()) :: listing ++ [.send, .acquire] ++ listing ++ copying 0 1 ++ copying 1 2 ++
    copying 2 3 ++
    [.drain, .admission .main (.ok ()), .start .main, .removal (.ok ()), .send]

/-- In this run the file without namesake is stored, and a path is opened twice. -/
theorem opened_once_iff_no_namesakes_three_files :
    ∃ s, run namesakesJob (.start namesakesJob {}) namesakesRun = some s ∧
      ¬ (s.calls.filterMap Call.opened?).Nodup ∧ s.disk.read? "/out/y" = some [3] := by
  have h : run namesakesJob (.start namesakesJob {}) namesakesRun = some _ := rfl
  obtain ⟨-, -, honce, -, hkept⟩ := opened_once_iff_no_namesakes h
  refine ⟨_, h, ?_, ?_⟩
  · intro hn
    have h01 := honce.1 hn 0 (by decide) 1 (by decide) _ _ rfl rfl (.inl rfl)
    cases h01
  · refine (hkept 2 ⟨"3", "y", some 1⟩ rfl ?_ (.inr ⟨.deleted, ?_⟩)).2
    · intro k other hk hname
      have hlt : k < 3 := (List.getElem?_eq_some_iff.1 hk).1
      have hne : ¬ Namesakes "x" "y" := by decide
      match k, hlt with
      | 0, _ | 1, _ =>
        cases hk
        exact absurd hname hne
      | 2, _ => rfl
    · exact List.mem_of_getElem? (i := 7) rfl

/-- The run opens one path for two files and keeps only the second of them, and the folder is
deleted nevertheless. -/
theorem namesake_overwritten :
    ∃ s a b, run namesakesJob (.start namesakesJob {}) namesakesRun = some s ∧
      .completed .deleted ∈ s.sent ∧
      (entriesListed namesakesRun)[0]? = some a ∧ (entriesListed namesakesRun)[1]? = some b ∧
      .opened 0 (.ok ()) ∈ namesakesRun ∧ .opened 1 (.ok ()) ∈ namesakesRun ∧
      namesakesJob.target a = namesakesJob.target b ∧
      served 0 namesakesRun = [1] ∧
      s.disk.files = [("/out/x", [2]), ("/out/y", [3])] := by
  refine ⟨_, _, _, rfl, List.mem_of_getElem? (i := 7) rfl, rfl, rfl, ?_, ?_, rfl, rfl, rfl⟩
  · simp [namesakesRun]
  · simp [namesakesRun]

end FolderCopy.Transfer
