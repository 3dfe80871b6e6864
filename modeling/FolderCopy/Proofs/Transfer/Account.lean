import FolderCopy.Proofs.Transfer.History

/-!
# The account of a download

What the events of a download say about it: the chunks that it has read, how many of them are stored
in full, and whether its file was opened and closed. By where the download stands this fixes the
changes that it has reported and the content of its file.
-/

namespace FolderCopy.Transfer

/-! ## What events say -/

namespace Event

/-- The bytes that a read has given, where it has given some. -/
def chunk? : Event → Option Bytes
  | .read _ (.ok []) => none
  | .read _ (.ok chunk) => some chunk
  | _ => none

/-- Whether all bytes of a chunk have been stored. -/
def finishesChunk : Event → Bool
  | .written _ (.ok ()) => true
  | _ => false

/-- Whether a local file was closed. -/
def closesFile : Event → Bool
  | .closed _ (.ok ()) => true
  | _ => false

end Event

/-- The chunks that were read, in order. -/
def chunksRead (es : List Event) : List Bytes :=
  es.filterMap Event.chunk?

/-- The chunks that were stored in full: as many of those read as stores were finished. -/
def chunksStored (es : List Event) : List Bytes :=
  (chunksRead es).take (es.countP Event.finishesChunk)

/-- The bytes that the content of the download number `i` has given. -/
def served (i : Nat) (es : List Event) : Bytes :=
  (chunksRead (eventsOf i es)).flatten

/-- A chunk that is read comes after all that were read before. -/
@[simp]
lemma chunksRead_snoc (es : List Event) (e : Event) :
    chunksRead (es ++ [e]) = chunksRead es ++ e.chunk?.toList := by
  cases h : e.chunk? <;> simp [chunksRead, h]

/-- The local file was closed if one of the events of the download says so. -/
lemma any_closesFile_iff {i : Nat} {es : List Event} (hi : ∀ e ∈ es, e.download? = some i) :
    es.any Event.closesFile ↔ .closed i (.ok ()) ∈ es := by
  rw [List.any_eq_true]
  constructor
  · rintro ⟨e, he, hc⟩
    have := hi e he
    unfold Event.closesFile at hc
    split at hc
    · cases this
      exact he
    · cases hc
  · intro h
    exact ⟨_, h, rfl⟩

/-! ## Where a download stands -/

namespace Download

/-- How the chunks that are stored keep up with those that are read, by where a download stands. -/
def Pace (es : List Event) : DownloadStage → Prop
  | .fetching _ | .opening => chunksRead es = [] ∧ es.countP Event.finishesChunk = 0
  | .reading | .closing | .finished (.ok ()) =>
    es.countP Event.finishesChunk = (chunksRead es).length
  | .writing chunk _ =>
    ∃ cs, chunksRead es = cs ++ [chunk] ∧ es.countP Event.finishesChunk = cs.length
  | .finished (.error _) | .abandoned =>
    es.countP Event.finishesChunk ≤ (chunksRead es).length

/-- What has happened to the local file, by where a download stands. -/
def Milestones (i : Nat) (es : List Event) : DownloadStage → Prop
  | .fetching _ | .opening => .opened i (.ok ()) ∉ es ∧ .closed i (.ok ()) ∉ es
  | .reading | .writing .. => .opened i (.ok ()) ∈ es ∧ .closed i (.ok ()) ∉ es
  | .closing => [.opened i (.ok ()), .read i (.ok [])].Sublist es ∧ .closed i (.ok ()) ∉ es
  | .finished (.ok ()) =>
    [.opened i (.ok ()), .read i (.ok []), .closed i (.ok ())].Sublist es
  | .finished (.error _) | .abandoned => .closed i (.ok ()) ∉ es

/-- The content of the local file, by where a download stands; `before` is what the file held before
the download and `now` what it holds. -/
def Content (i : Nat) (es : List Event) (before now : Option Bytes) : DownloadStage → Prop
  | .fetching _ | .opening => .opened i (.ok ()) ∉ es ∧ now = before
  | .reading | .closing | .finished (.ok ()) => now = some (chunksRead es).flatten
  | .writing _ left => ∃ held, now = some held ∧ held ++ left = (chunksRead es).flatten
  | .finished (.error _) | .abandoned =>
    .opened i (.ok ()) ∉ es ∧ now = before ∨
      ∃ held, now = some held ∧ held <+: (chunksRead es).flatten

section Histories

variable {j : Job} {i : Nat} {entry : Entry} {es : List Event} {d : Download} {fs : List Effect}

/-- A history is made of events of the download. -/
lemma History.download?_eq (h : History j i entry es d fs) : ∀ e ∈ es, e.download? = some i := by
  induction h with
  | scheduled => exact nofun
  | joined hh ih => exact ih
  | move hh hi h ih =>
    intro e he
    rcases List.mem_append.1 he with he | he
    · exact ih e he
    · rw [List.mem_singleton.1 he, hi]

/-- No chunk is longer than what is read at a time. -/
lemma History.chunk_le (h : History j i entry es d fs) :
    ∀ c ∈ chunksRead es, c.length ≤ chunkLimit := by
  induction h with
  | scheduled => exact nofun
  | joined hh ih => exact ih
  | @move es d fs e d' fs' hh hi h ih =>
    intro c hc
    rw [chunksRead_snoc] at hc
    rcases List.mem_append.1 hc with hc | hc
    · exact ih c hc
    · cases h with
      | @gave k chunk hs hne hle =>
        cases chunk with
        | nil => exact absurd rfl hne
        | cons b bs =>
          cases List.mem_singleton.1 hc
          exact hle
      | _ => cases hc

/-- No more chunks are stored than read, and never more than one fewer. -/
lemma History.pace (h : History j i entry es d fs) : Pace es d.stage := by
  induction h with
  | scheduled => exact ⟨rfl, rfl⟩
  | joined hh ih => exact ih
  | @move es d fs e d' fs' hh hi h ih =>
    cases h with
    | granted hs | started hs | fetched hs | retried hs | opened hs | ended hs | closed hs =>
      rw [hs] at ih
      simp_all [Pace, at_, Event.chunk?, Event.finishesChunk]
    | refused hs | notFetched hs | notOpened hs | brokeOff hs | notClosed hs =>
      rw [hs] at ih
      simp_all [Pace, at_, fail, Event.chunk?, Event.finishesChunk]
    | gave hs hne =>
      rw [hs] at ih
      refine ⟨chunksRead es, ?_, ?_⟩
      · rename_i k chunk hle
        cases chunk with
        | nil => exact absurd rfl hne
        | cons b bs => simp [Event.chunk?]
      · simpa [Pace, Event.finishesChunk] using ih
    | stored hs =>
      rw [hs] at ih
      simpa [Pace, at_, Event.chunk?, Event.finishesChunk] using ih
    | written hs =>
      rw [hs] at ih
      obtain ⟨cs, hcs, hn⟩ := ih
      simp [Pace, at_, Event.chunk?, Event.finishesChunk, hcs, hn]
    | notWritten hs =>
      rw [hs] at ih
      obtain ⟨cs, hcs, hn⟩ := ih
      simp [Pace, at_, fail, Event.chunk?, Event.finishesChunk, hcs, hn]
    | abandoned hr =>
      -- A download that runs owes the chunk that it is storing and no other.
      have hle : es.countP Event.finishesChunk ≤ (chunksRead es).length := by
        cases hs : d.stage with
        | finished r => simp [isRunning, hs] at hr
        | writing chunk left =>
          rw [hs] at ih
          obtain ⟨cs, hcs, hn⟩ := ih
          simp [hcs, hn]
        | _ => simp_all [Pace]
      simpa [Pace, at_, Event.chunk?, Event.finishesChunk] using hle

/-- The local file is opened before the content ends, and closed after that. -/
lemma History.milestones (h : History j i entry es d fs) : Milestones i es d.stage := by
  induction h with
  | scheduled => exact ⟨List.not_mem_nil, List.not_mem_nil⟩
  | joined hh ih => exact ih
  | @move es d fs e d' fs' hh hi h ih =>
    cases h with
    | granted hs | started hs | fetched hs | retried hs | gave hs | stored hs | written hs =>
      rw [hs] at ih
      simpa [Milestones, at_] using ih
    | refused hs | notFetched hs | notOpened hs | brokeOff hs | notWritten hs | notClosed hs =>
      rw [hs] at ih
      simpa [Milestones, at_, fail] using ih.2
    | opened hs =>
      rw [hs] at ih
      cases hi
      simpa [Milestones, at_] using ih.2
    | ended hs =>
      rw [hs] at ih
      cases hi
      obtain ⟨ho, hc⟩ := ih
      refine ⟨?_, by simpa using hc⟩
      exact (List.singleton_sublist.2 ho).append (List.Sublist.refl [_])
    | closed hs =>
      rw [hs] at ih
      cases hi
      exact ih.1.append (List.Sublist.refl [_])
    | abandoned hr =>
      have hc : .closed i (.ok ()) ∉ es := by
        cases hs : d.stage with
        | finished r => simp [isRunning, hs] at hr
        | abandoned => simp [isRunning, hs] at hr
        | _ =>
          rw [hs] at ih
          exact ih.2
      simpa [Milestones, at_] using hc

/-- The local file holds what was read, up to the part of a chunk that is not stored yet. -/
lemma History.content (h : History j i entry es d fs) (before : Option Bytes) :
    Content i es before (fs.foldl Effect.onContent before) d.stage := by
  induction h with
  | scheduled => exact ⟨List.not_mem_nil, rfl⟩
  | joined hh ih => exact ih
  | @move es d fs e d' fs' hh hi h ih =>
    rw [List.foldl_append]
    generalize fs.foldl Effect.onContent before = now at ih ⊢
    cases h with
    | granted hs | started hs | fetched hs | retried hs =>
      rw [hs] at ih
      simpa [Content, at_, Effect.onContent] using ih
    | refused hs | notFetched hs | notOpened hs =>
      rw [hs] at ih
      exact .inl (by simpa [Content, Effect.onContent] using ih)
    | opened hs =>
      -- The file is emptied whatever it held, and nothing has been read yet.
      have hp := hh.pace
      rw [hs] at hp
      simp [Content, at_, Effect.onContent, Event.chunk?, hp.1]
    | gave hs hne =>
      rw [hs] at ih
      rename_i k chunk hle
      cases chunk with
      | nil => exact absurd rfl hne
      | cons b bs => exact ⟨_, ih, by simp [Event.chunk?]⟩
    | ended hs | closed hs =>
      rw [hs] at ih
      simpa [Content, at_, Effect.onContent, Event.chunk?] using ih
    | brokeOff hs | notClosed hs =>
      rw [hs] at ih
      exact .inr ⟨_, ih, by simp⟩
    | stored hs hn =>
      rw [hs] at ih
      obtain ⟨held, rfl, hl⟩ := ih
      exact ⟨_, rfl, by simp [Event.chunk?, hl]⟩
    | written hs =>
      rw [hs] at ih
      obtain ⟨held, rfl, hl⟩ := ih
      simp [Content, at_, Effect.onContent, Event.chunk?, hl]
    | notWritten hs =>
      rw [hs] at ih
      obtain ⟨held, rfl, hl⟩ := ih
      refine .inr ⟨_, rfl, ?_⟩
      rw [chunksRead_snoc, List.flatten_append, ← hl]
      simp [Event.chunk?, List.take_prefix]
    | abandoned hr =>
      have hc : .opened i (.ok ()) ∉ es ∧ now = before ∨
          ∃ held, now = some held ∧ held <+: (chunksRead es).flatten := by
        cases hs : d.stage with
        | finished r => simp [isRunning, hs] at hr
        | abandoned => simp [isRunning, hs] at hr
        | fetching | opening =>
          rw [hs] at ih
          exact .inl ih
        | reading | closing =>
          rw [hs] at ih
          exact .inr ⟨_, ih, List.prefix_rfl⟩
        | writing chunk left =>
          rw [hs] at ih
          obtain ⟨held, hnow, hl⟩ := ih
          exact .inr ⟨held, hnow, left, hl⟩
      simpa [Content, at_, Effect.onContent, Event.chunk?] using hc

/-- One change for each chunk that was stored in full, and at last one for the file when it was
closed. -/
lemma History.reports (h : History j i entry es d fs) :
    fs.filterMap Effect.delta? =
      (chunksStored es).map (fun c => .received c.length) ++
        if es.any Event.closesFile then [.completed] else [] := by
  induction h with
  | scheduled => rfl
  | joined hh ih => exact ih
  | @move es d fs e d' fs' hh hi h ih =>
    have hp := hh.pace
    rw [List.filterMap_append, ih]
    cases h with
    | gave hs hne =>
      -- All earlier chunks are stored, and the new one stays out of `chunksStored` for now.
      rw [hs] at hp
      have hn : es.countP Event.finishesChunk = (chunksRead es).length := hp
      simp [chunksStored, Event.finishesChunk, Event.closesFile, hn]
    | written hs =>
      rw [hs] at hp
      obtain ⟨cs, hcs, hn⟩ := hp
      have hm := hh.milestones
      rw [hs] at hm
      have hc := (any_closesFile_iff hh.download?_eq).not.2 hm.2
      -- The store that finishes is that of the chunk read last, so the report has its length.
      have hbefore : chunksStored es = cs := by simp [chunksStored, hcs, hn]
      have hafter (k : Nat) : chunksStored (es ++ [.written k (.ok ())]) = chunksRead es := by
        simp [chunksStored, Event.chunk?, Event.finishesChunk, hcs, hn, List.take_of_length_le]
      rw [hbefore, hafter, hcs]
      simp [Event.closesFile, hc]
      rfl
    | closed hs =>
      have hm := hh.milestones
      rw [hs] at hm
      have hc := (any_closesFile_iff hh.download?_eq).not.2 hm.2
      simp [chunksStored, Event.chunk?, Event.finishesChunk, Event.closesFile, hc]
      rfl
    | _ =>
      simp [chunksStored, Event.chunk?, Event.finishesChunk, Event.closesFile, Effect.delta?]

end Histories

end Download

end FolderCopy.Transfer
