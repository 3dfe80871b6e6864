import FolderCopy.Proofs.LocalNames
import FolderCopy.Proofs.Transfer.Mirror

/-!
# Where a transfer stores files

Whatever the remote files are called, a transfer works on direct children of its destination alone,
and in a directory tree nothing else can change. Main statement: `targets_confined`.
-/

namespace FolderCopy.Transfer

/-- An entry is stored under its local name, directly in the destination. -/
lemma Job.isChild_target (j : Job) (e : Entry) :
    IsChild j.destination (localName e.name) (j.target e) :=
  isChild_joinPath (isComponent_localName e.name)

/-- The local files that a run works on or changes are those of listed entries. -/
lemma Run.target_of_file {j : Job} {disk : Disk} {es : List Event} {s : State}
    (h : Run j disk es s) {path : String}
    (hp : (∃ c ∈ s.calls, c.file? = some path) ∨ s.disk.read? path ≠ disk.read? path) :
    ∃ e ∈ entriesListed es, path = j.target e := by
  have hlisted {d : Download} (hd : d ∈ s.downloads) : d.entry ∈ entriesListed es :=
    h.listed.2 ▸ h.sound.entry_mem hd
  rcases hp with ⟨c, hc, hp⟩ | hp
  · obtain ⟨d, hd, rfl⟩ := h.file_eq hc hp
    exact ⟨d.entry, hlisted hd, rfl⟩
  · refine Decidable.byContradiction fun hne => hp (h.chronicle.untouched path ?_)
    intro d hd ht
    exact hne ⟨d.entry, hlisted hd, ht.symm⟩

/-- Every remote name comes to a component of a path, which keeps its length but for an underscore
where the name is reserved, and a component comes to itself. So the path that an entry is stored at
leads to a direct child of the destination, and so does every local file that a run works on or
changes; writing there sets this child in a directory tree, and nothing else. -/
theorem targets_confined :
    (∀ name, IsComponent (localName name) ∧ localName (localName name) = localName name ∧
      (localName name).length =
        name.length + (if name = "" ∨ name = "." ∨ name = ".." then 1 else 0) ∧
      (IsComponent name → localName name = name)) ∧
    (∀ (j : Job) (e : Entry), j.target e = pathFrom j.destination (localName e.name) ∧
      IsChild j.destination (localName e.name) (j.target e)) ∧
    (∀ (j : Job) (disk : Disk) (es : List Event) (s : State),
      run j (.start j disk) es = some s →
      (∀ d ∈ s.downloads, d.entry ∈ entriesListed es) ∧
      ∀ path, (∃ c ∈ s.calls, c.file? = some path) ∨ s.disk.read? path ≠ disk.read? path →
        ∃ e ∈ entriesListed es, path = j.target e) ∧
    ∀ (j : Job) (e : Entry) (d : Directory) (content : Bytes),
      (d.write (j.target e) content).2 = d ∨
        ∃ p, d.find (Directory.components j.destination) = .ok p ∧ p.node.isFolder ∧
          (d.write (j.target e) content).2 =
            ⟨(p.setChild (localName e.name) (.file content)).root⟩ := by
  refine ⟨fun name => ?_, fun j e => ⟨?_, j.isChild_target e⟩, ?_, ?_⟩
  · have hname := isComponent_localName name
    exact ⟨hname, localName_of_isComponent hname, length_localName name,
      localName_of_isComponent⟩
  · exact (pathFrom_of_isComponent (isComponent_localName e.name)).symm
  · intro j disk es s h
    have hr := Run.of_run h
    exact ⟨fun d hd => hr.listed.2 ▸ hr.sound.entry_mem hd, fun path hp => hr.target_of_file hp⟩
  · intro j e d content
    exact (j.isChild_target e).write_eq content

/-- A job that copies a folder into `out`. -/
def climbingJob : Job where
  folder := "f"
  destination := "out"
  concurrency := 1
  deleteAfter := false
  policy := .standard

/-- A run of this job whose one file is called by a path that leads up. -/
def climbingRun : List Event :=
  let listing := [.admission .main (.ok ()), .start .main,
    .page (.ok ⟨[⟨"1", "../../etc/passwd", none⟩], none⟩)]
  .directory (.ok ()) :: listing ++ [.send, .acquire] ++ listing ++
    [.admission (.download 0) (.ok ()), .start (.download 0), .stream 0 (.ok ()),
      .opened 0 (.ok ())]

/-- The file of this run is opened in the destination itself. -/
theorem targets_confined_leading_up :
    ∃ s, run climbingJob (.start climbingJob {}) climbingRun = some s ∧
      .openFile "out/.._.._etc_passwd" ∈ s.calls ∧
      ∃ e ∈ entriesListed climbingRun, "out/.._.._etc_passwd" = climbingJob.target e ∧
        IsChild "out" (localName e.name) (climbingJob.target e) := by
  have h : run climbingJob (.start climbingJob {}) climbingRun = some _ := rfl
  obtain ⟨-, htargets, hruns, -⟩ := targets_confined
  obtain ⟨-, hfiles⟩ := hruns climbingJob {} climbingRun _ h
  obtain ⟨e, he, hpath⟩ := hfiles "out/.._.._etc_passwd"
    (.inl ⟨.openFile _, List.mem_of_getElem? (i := 4) rfl, rfl⟩)
  refine ⟨_, h, ?_, e, he, hpath, (htargets climbingJob e).2⟩
  exact List.mem_of_getElem? (i := 4) rfl

end FolderCopy.Transfer
