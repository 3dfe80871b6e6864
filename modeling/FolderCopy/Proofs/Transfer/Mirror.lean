import FolderCopy.Proofs.Transfer.Account
import FolderCopy.Proofs.Transfer.Outcome

/-!
# The mirror

What a transfer leaves on the disk. Where the names of the listed entries differ, every local file
has one writer, and holds what its content has given so far, up to the bytes that are not stored
yet; when its completion has been reported it holds all of it. No other file is touched.
-/

namespace FolderCopy.Transfer

namespace Download

variable {i : Nat} {es : List Event} {st : DownloadStage} {before now : Option Bytes}

/-- A local file that was opened holds the beginning of the content. -/
lemma Content.of_opened (h : Content i es before now st) (ho : .opened i (.ok ()) ∈ es) :
    ∃ held, now = some held ∧ held <+: (chunksRead es).flatten := by
  unfold Content at h
  split at h
  · exact absurd ho h.1
  · exact absurd ho h.1
  · exact ⟨_, h, List.prefix_rfl⟩
  · exact ⟨_, h, List.prefix_rfl⟩
  · exact ⟨_, h, List.prefix_rfl⟩
  · obtain ⟨held, hnow, hl⟩ := h
    exact ⟨held, hnow, _, hl⟩
  -- A download that failed or was given up may never have opened its file, but this one has.
  all_goals exact h.resolve_left fun hno => hno.1 ho

/-- A download whose local file was closed has finished well. -/
lemma Milestones.finished (h : Milestones i es st) (hc : .closed i (.ok ()) ∈ es) :
    st = .finished (.ok ()) := by
  cases st with
  | finished r =>
    cases r with
    | ok => rfl
    | error e => exact absurd hc h
  | abandoned => exact absurd hc h
  | _ => exact absurd hc h.2

end Download

/-- The local file that a call works on. -/
def Call.file? : Call → Option String
  | .openFile path | .closeFile path => some path
  | .createDirectory _ | .store _ => none

section Runs

variable {j : Job} {disk : Disk} {es : List Event} {s : State}

/-- A download works on no local file but its own. -/
lemma Download.Move.file_eq {d d' : Download} {e : Event} {fs : List Effect} {c : Call}
    {path : String} (h : Download.Move j d e d' fs) (hc : c ∈ fs.filterMap Effect.call?)
    (hp : c.file? = some path) : path = j.target d.entry := by
  cases h <;> simp_all [Effect.call?, Call.file?]

/-- A local file that is worked on is that of a download. -/
lemma Run.file_eq (h : Run j disk es s) {c : Call} {path : String} (hc : c ∈ s.calls)
    (hp : c.file? = some path) : ∃ d ∈ s.downloads, j.target d.entry = path := by
  induction h with
  | start =>
    cases List.mem_singleton.1 hc
    cases hp
  | @step es s e s' hr h ih =>
    cases h with
    | turn ht =>
      rcases ht.mem_calls hc with hc | ⟨q, rfl⟩
      · obtain ⟨d, hd, rfl⟩ := ih hc
        obtain ⟨i, hi, rfl⟩ := List.mem_iff_getElem.1 hd
        obtain ⟨d', hd', hentry⟩ := ht.onDownloads.kept (List.getElem?_eq_getElem hi)
        exact ⟨d', List.mem_of_getElem? hd', by rw [hentry]⟩
      · cases hp
    | @move i d d' fs hi hd hp' hm =>
      have hkept (d₁ : Download) (hd₁ : d₁ ∈ s.downloads) :
          ∃ d₂ ∈ (s.advance j i d' fs).downloads, j.target d₂.entry = j.target d₁.entry := by
        obtain ⟨k, hk, rfl⟩ := List.mem_iff_getElem.1 hd₁
        obtain ⟨d₂, hd₂, hentry⟩ := State.getElem?_advance hd hm (List.getElem?_eq_getElem hk)
        exact ⟨d₂, List.mem_of_getElem? hd₂, by rw [hentry]⟩
      rcases List.mem_append.1 hc with hc | hc
      · obtain ⟨d₁, hd₁, rfl⟩ := ih hc
        exact hkept d₁ hd₁
      · rw [hm.file_eq hc hp]
        exact hkept d (List.mem_of_getElem? hd)

/-- A file that was to be opened is that of a download. -/
lemma Run.opens (h : Run j disk es s) {path : String} (hp : .openFile path ∈ s.calls) :
    ∃ d ∈ s.downloads, j.target d.entry = path :=
  h.file_eq hp rfl

/-- The download number `i` is that of the entry listed at this place. -/
lemma State.Sound.getElem?_listed (h : s.Sound) {i : Nat} {d : Download}
    (hd : s.downloads[i]? = some d) : s.listed[i]? = some d.entry := by
  have hlt : i < (s.downloads.map (·.entry)).length := by
    rw [List.length_map]
    exact (List.getElem?_eq_some_iff.1 hd).1
  rw [h.schedule, List.getElem?_append_left hlt, List.getElem?_map, hd]
  rfl

/-- Where the names of the listed entries differ, every local file has one writer. -/
lemma State.Sound.soleWriter (h : s.Sound) (hn : (s.listed.map fun e => localName e.name).Nodup)
    {i : Nat} {d : Download} (hd : s.downloads[i]? = some d) : s.SoleWriter j i d := by
  intro k d' hk ht
  have hname : localName d'.entry.name = localName d.entry.name := joinPath_inj ht
  have hat {m : Nat} {d₁ : Download} (hm : s.downloads[m]? = some d₁) :
      (s.listed.map fun e => localName e.name)[m]? = some (localName d₁.entry.name) := by
    rw [List.getElem?_map, h.getElem?_listed hm]
    rfl
  have hlt := (List.getElem?_eq_some_iff.1 (hat hk)).1
  exact (List.getElem?_inj hlt hn).1 ((hat hk).trans ((hname ▸ hat hd).symm))

/-- Only the entries that were listed are downloaded. -/
lemma State.Sound.entry_mem (h : s.Sound) {d : Download} (hd : d ∈ s.downloads) :
    d.entry ∈ s.listed := by
  rw [h.schedule]
  exact List.mem_append_left _ (List.mem_map_of_mem hd)

/-- A drained transfer has scheduled every entry that was listed. -/
lemma State.Sound.scheduled (h : s.Sound) (hdr : s.Drained) {i : Nat} {entry : Entry}
    (hi : s.listed[i]? = some entry) : ∃ d, s.downloads[i]? = some d := by
  rw [h.schedule, (h.exhausted hdr.exhausted).2, List.append_nil, List.getElem?_map] at hi
  obtain ⟨d, hd, -⟩ := Option.map_eq_some_iff.1 hi
  exact ⟨d, hd⟩

/-- What has happened to the local file of a download, where it alone writes that file. -/
lemma Run.content (h : Run j disk es s) {i : Nat} {d : Download} (hd : s.downloads[i]? = some d)
    (hw : s.SoleWriter j i d) :
    Download.Content i (eventsOf i es) (disk.read? (j.target d.entry))
      (s.disk.read? (j.target d.entry)) d.stage := by
  obtain ⟨fs, hrec⟩ := h.chronicle.recorded i d hd
  rw [hrec.content hw]
  exact hrec.history.content _

/-- A download that has reported its completion has finished well. -/
lemma Run.finished_of_completed (h : Run j disk es s) {i : Nat} {d : Download}
    (hd : s.downloads[i]? = some d) (hc : ⟨i, .completed⟩ ∈ s.deltas) :
    d.stage = .finished (.ok ()) := by
  obtain ⟨fs, hrec⟩ := h.chronicle.recorded i d hd
  have hmem : .completed ∈ changesOf i s.deltas := mem_changesOf.2 hc
  rw [hrec.changes, hrec.history.reports] at hmem
  rcases List.mem_append.1 hmem with hmem | hmem
  · obtain ⟨chunk, -, hchunk⟩ := List.mem_map.1 hmem
    cases congrArg Progress.Delta.files hchunk
  · split at hmem
    case isTrue hclosed =>
      exact hrec.history.milestones.finished
        ((any_closesFile_iff hrec.history.download?_eq).1 hclosed)
    case isFalse => cases hmem

/-- A download that has finished well has read its content to the end and stored all of it. -/
lemma Run.mirrored (h : Run j disk es s) {i : Nat} {d : Download} (hd : s.downloads[i]? = some d)
    (hw : s.SoleWriter j i d) (hf : d.stage = .finished (.ok ())) :
    .read i (.ok []) ∈ es ∧ s.disk.read? (j.target d.entry) = some (served i es) := by
  obtain ⟨fs, hrec⟩ := h.chronicle.recorded i d hd
  have hm := hrec.history.milestones
  have hc := h.content hd hw
  rw [hf] at hm hc
  refine ⟨?_, hc⟩
  exact (mem_eventsOf rfl).1 (hm.subset (by simp))

end Runs

/-- Where the names of the listed entries differ, every local file that was opened holds the
beginning of what its content has given, and all of it once its completion has been reported. A
transfer that is complete has stored all entries so, and no other file is ever opened or changed. -/
theorem files_mirrored {j : Job} {disk : Disk} {es : List Event} {s : State}
    (h : run j (.start j disk) es = some s)
    (hn : ((entriesListed es).map fun e => localName e.name).Nodup) :
    (∀ i entry, (entriesListed es)[i]? = some entry →
      (∀ d, s.downloads[i]? = some d → d.entry = entry) ∧
      (.opened i (.ok ()) ∈ es →
        ∃ held, s.disk.read? (j.target entry) = some held ∧ held <+: served i es) ∧
      (⟨i, .completed⟩ ∈ s.deltas ∨ (∃ c, .completed c ∈ s.sent) →
        .read i (.ok []) ∈ es ∧ s.disk.read? (j.target entry) = some (served i es))) ∧
    ∀ path, (∀ entry ∈ entriesListed es, j.target entry ≠ path) →
      .openFile path ∉ s.calls ∧ s.disk.read? path = disk.read? path := by
  have hr := Run.of_run h
  have hs := hr.sound
  rw [← hr.listed.2] at hn ⊢
  refine ⟨fun i entry hi => ⟨?_, ?_, ?_⟩, fun path hpath => ⟨?_, ?_⟩⟩
  · intro d hd
    exact Option.some.inj ((hs.getElem?_listed hd).symm.trans hi)
  · intro ho
    obtain ⟨d, hd⟩ := hr.scheduled (.inl (List.ne_nil_of_mem ((mem_eventsOf rfl).2 ho)))
    cases (hs.getElem?_listed hd).symm.trans hi
    exact (hr.content hd (hs.soleWriter hn hd)).of_opened ((mem_eventsOf rfl).2 ho)
  · intro hc
    -- Whether the download or the whole transfer is known to be complete, it has finished well.
    obtain ⟨d, hd, hf⟩ : ∃ d, s.downloads[i]? = some d ∧ d.stage = .finished (.ok ()) := by
      rcases hc with hc | ⟨c, hc⟩
      · obtain ⟨d, hd⟩ := hr.scheduled (.inr (List.ne_nil_of_mem (mem_changesOf.2 hc)))
        exact ⟨d, hd, hr.finished_of_completed hd hc⟩
      · have hdr := (hr.of_completed hc).1
        obtain ⟨d, hd⟩ := hs.scheduled hdr hi
        exact ⟨d, hd, hdr.copied d (List.mem_of_getElem? hd)⟩
    cases (hs.getElem?_listed hd).symm.trans hi
    exact hr.mirrored hd (hs.soleWriter hn hd) hf
  · intro hp
    obtain ⟨d, hd, rfl⟩ := hr.opens hp
    exact hpath d.entry (hs.entry_mem hd) rfl
  · exact hr.chronicle.untouched path fun d hd => hpath d.entry (hs.entry_mem hd)

/-- A job that copies a folder with two downloads at a time. -/
def mirroringJob : Job where
  folder := "f"
  destination := "d"
  concurrency := 2
  deleteAfter := false
  policy := .standard

/-- A run of this job with two files that are read and stored in turns; the second one breaks
off. -/
def mirroringRun : List Event :=
  let entries := [⟨"a", "x", some 3⟩, ⟨"b", "y", none⟩]
  let listing := [.admission .main (.ok ()), .start .main, .page (.ok ⟨entries, none⟩)]
  let fetching (i : Nat) : List Event :=
    [.admission (.download i) (.ok ()), .start (.download i), .stream i (.ok ()),
      .opened i (.ok ())]
  .directory (.ok ()) :: listing ++ [.send, .acquire] ++ listing ++ [.acquire] ++ fetching 1 ++
    fetching 0 ++
    [.read 1 (.ok [7, 8]), .read 0 (.ok [1, 2]), .stored 1 1, .written 0 (.ok ()),
      .read 0 (.ok [3]), .written 1 (.ok ()), .written 0 (.ok ()), .read 1 (.ok [9, 9, 9]),
      .read 0 (.ok []), .stored 1 2, .closed 0 (.ok ()), .written 1 (.error (0, "full")), .join 1,
      .send]

/-- This run leaves the first file complete and the beginning of the second one. -/
theorem files_mirrored_one_broken_off :
    ∃ s, run mirroringJob (.start mirroringJob ⟨[("d/x", [0, 0, 0, 0])]⟩) mirroringRun = some s ∧
      ((entriesListed mirroringRun).map fun e => localName e.name).Nodup ∧
      s.disk.read? (mirroringJob.target ⟨"a", "x", some 3⟩) = some [1, 2, 3] ∧
      ∃ held, s.disk.read? (mirroringJob.target ⟨"b", "y", none⟩) = some held ∧
        held <+: [7, 8, 9, 9, 9] := by
  have h : run mirroringJob (.start mirroringJob ⟨[("d/x", [0, 0, 0, 0])]⟩) mirroringRun =
    some _ := rfl
  have hn : ((entriesListed mirroringRun).map fun e => localName e.name).Nodup := by decide
  have hfiles := (files_mirrored h hn).1
  refine ⟨_, h, hn, ?_, ?_⟩
  · have hcompleted := (hfiles 0 ⟨"a", "x", some 3⟩ rfl).2.2
    exact (hcompleted (.inl (List.mem_of_getElem? (i := 3) rfl))).2
  · exact (hfiles 1 ⟨"b", "y", none⟩ rfl).2.1 (by simp [mirroringRun])

end FolderCopy.Transfer
