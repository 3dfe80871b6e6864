import Mathlib.Data.List.Forall2
import FolderCopy.Proofs.Transfer.History

/-!
# Calls for content

A download asks for its content in attempts that come one after the other: each but the last one
fails and is tried again, and none follows on one that succeeded or failed for good. Here the events
of these calls are taken out of the events of a download, and said to be such a series by where the
download stands.
-/

namespace FolderCopy

/-- The failures of a series of attempts, each of which was followed by a further one. -/
def Retry.Retried (α : Type) (p : Policy) (resource : String) (cs : List CallError) : Prop :=
  ∀ n c, cs[n]? = some c → p.after (α := α) resource (n + 1) (.error c) = .inr (.asking (n + 2))

namespace Retry

variable {α : Type} {p : Policy} {resource : String} {cs : List CallError}

/-- No attempt has failed yet. -/
lemma Retried.nil : Retried α p resource [] :=
  nofun

/-- One more failure that is tried again. -/
lemma Retried.concat {c : CallError} {n : Nat} (h : Retried α p resource cs)
    (hn : n = cs.length + 1)
    (hr : p.after (α := α) resource n (.error c) = .inr (.asking (n + 1))) :
    Retried α p resource (cs ++ [c]) := by
  subst hn
  intro k c' hc
  rcases Nat.lt_or_ge k cs.length with hlt | hge
  · rw [List.getElem?_append_left hlt] at hc
    exact h k c' hc
  · rw [List.getElem?_append_right hge] at hc
    obtain ⟨hk, hc⟩ := List.getElem?_eq_some_iff.1 hc
    obtain rfl : k = cs.length := by
      simp only [List.length_singleton] at hk
      omega
    simp only [List.getElem_singleton] at hc
    exact hc ▸ hr

/-- There are fewer failed attempts than attempts that may be made. -/
lemma Retried.length_lt (h : Retried α p resource cs) : cs.length < p.maxAttempts := by
  rcases List.eq_nil_or_concat cs with rfl | ⟨cs, c, rfl⟩
  · exact p.pos
  · obtain ⟨_, -, hlt, -⟩ := Policy.after_inr (h cs.length c (by simp))
    simpa using hlt

end Retry

namespace Transfer

/-- Whether an event starts a call for content or answers one. -/
def Event.fetches : Event → Bool
  | .start _ | .stream .. => true
  | _ => false

/-- The calls for the content of the download number `i`, each with its answer once there is
one. -/
def fetchesOf (i : Nat) (es : List Event) : List Event :=
  (eventsOf i es).filter Event.fetches

/-- The attempts that have failed and were followed by further ones. -/
def failedFetches (i : Nat) (cs : List CallError) : List Event :=
  cs.flatMap fun c => [.start (.download i), .stream i (.error c)]

/-- The last attempt to get some content. -/
inductive LastFetch where
  /-- It has not been started. -/
  | due
  /-- It is under way. -/
  | pending
  | succeeded
  /-- It failed for good. -/
  | failed (c : CallError)

/-- The events of the last attempt. -/
def LastFetch.events (i : Nat) : LastFetch → List Event
  | .due => []
  | .pending => [.start (.download i)]
  | .succeeded => [.start (.download i), .stream i (.ok ())]
  | .failed c => [.start (.download i), .stream i (.error c)]

namespace Download

/-- The calls for content that a download has made: attempts that failed, and the last one. -/
structure Fetched (j : Job) (i : Nat) (entry : Entry) (es : List Event) (cs : List CallError)
    (last : LastFetch) : Prop where
  events : es.filter Event.fetches = failedFetches i cs ++ last.events i
  retried : Retry.Retried Unit j.policy entry.name cs
  settled : ∀ c, last = .failed c →
    ∃ e, j.policy.after (α := Unit) entry.name (cs.length + 1) (.error c) = .inl (.error e)

/-- How the calls for content stand with a download. -/
def Fetching (j : Job) (i : Nat) (entry : Entry) (es : List Event) : DownloadStage → Prop
  | .fetching (.asking n) | .fetching (.admitted n) =>
    ∃ cs, Fetched j i entry es cs .due ∧ n = cs.length + 1
  | .fetching (.calling n) => ∃ cs, Fetched j i entry es cs .pending ∧ n = cs.length + 1
  | .opening | .reading | .writing .. | .closing | .finished (.ok ()) =>
    ∃ cs, Fetched j i entry es cs .succeeded
  | .finished (.error _) | .abandoned => ∃ cs last, Fetched j i entry es cs last

variable {j : Job} {i : Nat} {entry : Entry} {es : List Event} {d : Download} {fs : List Effect}
  {cs : List CallError} {last last' : LastFetch} {e : Event}

/-- Other events change nothing about the calls for content. -/
lemma Fetched.quiet (h : Fetched j i entry es cs last) (he : e.fetches = false) :
    Fetched j i entry (es ++ [e]) cs last := by
  refine ⟨?_, h.retried, h.settled⟩
  rw [List.filter_append, h.events]
  simp [he]

/-- The last attempt goes on. -/
lemma Fetched.go (h : Fetched j i entry es cs last) (he : e.fetches)
    (hl : last'.events i = last.events i ++ [e])
    (hs : ∀ c, last' = .failed c →
      ∃ e, j.policy.after (α := Unit) entry.name (cs.length + 1) (.error c) = .inl (.error e)) :
    Fetched j i entry (es ++ [e]) cs last' := by
  refine ⟨?_, h.retried, hs⟩
  rw [List.filter_append, h.events, hl]
  simp [he]

/-- The last attempt has failed and is tried again. -/
lemma Fetched.again {c : CallError} {n : Nat} (h : Fetched j i entry es cs .pending)
    (hn : n = cs.length + 1)
    (hr : j.policy.after (α := Unit) entry.name n (.error c) = .inr (.asking (n + 1))) :
    Fetched j i entry (es ++ [.stream i (.error c)]) (cs ++ [c]) .due := by
  refine ⟨?_, h.retried.concat hn hr, nofun⟩
  rw [List.filter_append, h.events]
  simp [failedFetches, LastFetch.events, Event.fetches]

/-- Wherever a download stands, its calls for content are a series of attempts. -/
lemma Fetching.exists_fetched {st : DownloadStage} (h : Fetching j i entry es st) :
    ∃ cs last, Fetched j i entry es cs last := by
  unfold Fetching at h
  split at h
  case h_1 | h_2 | h_3 =>
    obtain ⟨cs, hf, -⟩ := h
    exact ⟨cs, _, hf⟩
  case h_9 | h_10 => exact h
  all_goals
    obtain ⟨cs, hf⟩ := h
    exact ⟨cs, _, hf⟩

/-- The calls for content go with where a download stands. -/
lemma History.fetching (h : History j i entry es d fs) : Fetching j i entry es d.stage := by
  induction h with
  | scheduled => exact ⟨[], ⟨rfl, .nil, nofun⟩, rfl⟩
  | joined hh ih => exact ih
  | @move es d fs e d' fs' hh hi h ih =>
    have hentry := hh.entry_eq
    cases h with
    | granted hs =>
      rw [hs] at ih
      obtain ⟨cs, hf, hn⟩ := ih
      exact ⟨cs, hf.quiet rfl, hn⟩
    | refused hs =>
      rw [hs] at ih
      obtain ⟨cs, hf, -⟩ := ih
      exact ⟨cs, _, hf.quiet rfl⟩
    | @started a n hs =>
      rw [hs] at ih
      obtain ⟨cs, hf, hn⟩ := ih
      obtain rfl : a = .download i := by cases a <;> cases hi; rfl
      exact ⟨cs, hf.go rfl rfl nofun, hn⟩
    | fetched hs =>
      rw [hs] at ih
      cases hi
      obtain ⟨cs, hf, -⟩ := ih
      exact ⟨cs, hf.go rfl rfl nofun⟩
    | @notFetched i n c err hs he =>
      rw [hs] at ih
      cases hi
      obtain ⟨cs, hf, rfl⟩ := ih
      rw [hentry] at he
      refine ⟨cs, .failed c, hf.go rfl rfl ?_⟩
      rintro c' ⟨⟩
      exact ⟨err, he⟩
    | @retried i n c hs hr =>
      rw [hs] at ih
      cases hi
      obtain ⟨cs, hf, rfl⟩ := ih
      rw [hentry] at hr
      exact ⟨cs ++ [c], hf.again rfl hr, by simp⟩
    | opened hs | gave hs | ended hs | stored hs | written hs | closed hs =>
      rw [hs] at ih
      obtain ⟨cs, hf⟩ := ih
      exact ⟨cs, hf.quiet rfl⟩
    | notOpened hs | brokeOff hs | notWritten hs | notClosed hs =>
      rw [hs] at ih
      obtain ⟨cs, hf⟩ := ih
      exact ⟨cs, _, hf.quiet rfl⟩
    | abandoned hr =>
      obtain ⟨cs, last, hf⟩ := ih.exists_fetched
      exact ⟨cs, last, hf.quiet rfl⟩

end Download

/-! ## The calls of a run -/

/-- The content that a call asks for. -/
def Call.fetched? : Call → Option String
  | .store (.download id) => some id
  | _ => none

/-- The download whose call for content is started. -/
def Event.starts? : Event → Option Nat
  | .start (.download i) => some i
  | _ => none

section Runs

variable {j : Job} {disk : Disk} {es : List Event} {s s' : State} {e : Event}

/-- The id of the entry of the download number `i`. -/
def State.id? (s : State) (i : Nat) : Option String :=
  s.downloads[i]?.map (·.entry.id)

/-- A turn asks for no content. -/
lemma Turn.fetched_eq (h : Turn j s e s') :
    s'.calls.filterMap Call.fetched? = s.calls.filterMap Call.fetched? := by
  cases h with
  | @started k n hl =>
    show (s.calls ++ _).filterMap _ = _
    rw [List.filterMap_append]
    cases k <;> exact List.append_nil _
  | counted => rw [State.countPage_eq]
  | supplied | acquired => rw [State.supply_eq]
  | drained => rw [State.settle_eq]
  | sent => rw [State.resume_eq]
  | _ => rfl

/-- A download asks for its own content, and does so when it starts a call. -/
lemma Download.Move.fetched_eq {i : Nat} {d d' : Download} {fs : List Effect}
    (h : Download.Move j d e d' fs) (hi : e.download? = some i) :
    (fs.filterMap Effect.call?).filterMap Call.fetched? = [] ∧ e.starts? = none ∨
      (fs.filterMap Effect.call?).filterMap Call.fetched? = [d.entry.id] ∧ e.starts? = some i := by
  cases h with
  | @started a n hs =>
    cases a with
    | main => cases hi
    | download k => exact .inr ⟨rfl, hi⟩
  | _ => exact .inl ⟨rfl, rfl⟩

/-- Calls that no turn makes, and that a download makes when an event says so, are those of
scheduled downloads, in the order of these events. -/
lemma Run.forall₂_calls {β : Type} {f : Call → Option β} {g : Event → Option Nat} {attr : Entry → β}
    (hstart : f (.createDirectory j.destination) = none)
    (hturn : ∀ {s s' : State} {e : Event}, Turn j s e s' →
      s'.calls.filterMap f = s.calls.filterMap f ∧ g e = none)
    (hmove : ∀ {d d' : Download} {e : Event} {fs : List Effect} {i : Nat},
      Download.Move j d e d' fs → e.download? = some i →
      (fs.filterMap Effect.call?).filterMap f = [] ∧ g e = none ∨
        (fs.filterMap Effect.call?).filterMap f = [attr d.entry] ∧ g e = some i)
    (h : Run j disk es s) :
    List.Forall₂ (fun b i => s.downloads[i]?.map (attr ·.entry) = some b) (s.calls.filterMap f)
      (es.filterMap g) := by
  induction h with
  | start => simp [State.start, hstart]
  | @step es s e s' hr h ih =>
    -- A download that has been scheduled keeps its entry.
    have kept (hk : ∀ (i : Nat) (d : Download), s.downloads[i]? = some d →
        ∃ d' : Download, s'.downloads[i]? = some d' ∧ d'.entry = d.entry) :
        List.Forall₂ (fun b i => s'.downloads[i]?.map (attr ·.entry) = some b)
          (s.calls.filterMap f) (es.filterMap g) := by
      refine ih.imp ?_
      intro b i hi
      obtain ⟨d, hd, rfl⟩ := Option.map_eq_some_iff.1 hi
      obtain ⟨d', hd', hentry⟩ := hk i d hd
      simp [hd', hentry]
    rw [List.filterMap_append]
    cases h with
    | turn ht =>
      obtain ⟨hcalls, he⟩ := hturn ht
      rw [hcalls]
      simpa [he] using kept fun i d hd => ht.onDownloads.kept hd
    | @move i d d' fs hi hd hp hm =>
      have hkept := kept fun k d₁ hd₁ => State.getElem?_advance hd hm hd₁
      show List.Forall₂ _ ((s.calls ++ _).filterMap _) _
      rw [List.filterMap_append]
      rcases hmove hm hi with ⟨hcalls, he⟩ | ⟨hcalls, he⟩
      · simpa [hcalls, he] using hkept
      · obtain ⟨d₂, hd₂, hentry⟩ := State.getElem?_advance hd hm hd
        rw [hcalls]
        refine List.rel_append hkept ?_
        simp [he, hd₂, hentry]

/-- Content is asked for by scheduled downloads only, once for each attempt that they start. -/
lemma Run.fetched_calls (h : Run j disk es s) :
    List.Forall₂ (fun id i => s.id? i = some id) (s.calls.filterMap Call.fetched?)
      (es.filterMap Event.starts?) :=
  h.forall₂_calls rfl (fun ht => ⟨ht.fetched_eq, by cases ht <;> rfl⟩) fun hm hi => hm.fetched_eq hi

/-- Where two lists go together item by item, things that go together are counted alike. -/
lemma count_eq_of_forall₂ {α β : Type} [DecidableEq α] [DecidableEq β] {R : α → β → Prop}
    {as : List α} {bs : List β} (h : List.Forall₂ R as bs) {a : α} {b : β}
    (hab : ∀ a' b', R a' b' → (a' = a ↔ b' = b)) : as.count a = bs.count b := by
  induction h with
  | nil => rfl
  | @cons a' b' as bs hr h ih =>
    rw [List.count_cons, List.count_cons, ih]
    by_cases ha : a' = a
    · simp [ha, (hab a' b' hr).1 ha]
    · have hb : ¬ b' = b := fun hb => ha ((hab a' b' hr).2 hb)
      simp [ha, hb]

/-- Where ids differ, one of them belongs to one download only. -/
lemma State.id?_inj (hn : (s.downloads.map (·.entry.id)).Nodup) {i k : Nat} {id : String}
    (hi : s.id? i = some id) (hk : s.id? k = some id) : k = i := by
  rw [State.id?, ← List.getElem?_map] at hi hk
  have hlt := (List.getElem?_eq_some_iff.1 hk).1
  exact (List.getElem?_inj hlt hn).1 (hk.trans hi.symm)

/-- Where ids differ, the calls for a content are those of one download. -/
lemma Run.count_fetched (h : Run j disk es s) (hn : (s.downloads.map (·.entry.id)).Nodup)
    {i : Nat} {d : Download} (hd : s.downloads[i]? = some d) :
    s.calls.count (.store (.download d.entry.id)) =
      (fetchesOf i es).countP (·.starts?.isSome) := by
  have hid : s.id? i = some d.entry.id := by rw [State.id?, hd]; rfl
  calc s.calls.count (.store (.download d.entry.id))
      = (s.calls.filterMap Call.fetched?).count d.entry.id := by
        rw [List.count, List.count, List.countP_filterMap]
        apply List.countP_congr
        intro c _
        cases c with
        | store q => cases q <;> simp [Call.fetched?]
        | _ => simp [Call.fetched?]
    _ = (es.filterMap Event.starts?).count i := by
        apply count_eq_of_forall₂ h.fetched_calls
        intro id k hk
        constructor
        · rintro rfl
          exact State.id?_inj hn hid hk
        · rintro rfl
          exact Option.some.inj (hk.symm.trans hid)
    _ = (fetchesOf i es).countP (·.starts?.isSome) := by
        rw [List.count, List.countP_filterMap, fetchesOf, eventsOf, List.countP_filter,
          List.countP_filter]
        apply List.countP_congr
        intro e _
        cases e with
        | start a => cases a <;> simp [Event.starts?, Event.fetches, Event.download?]
        | _ => simp [Event.starts?]

end Runs

end Transfer

end FolderCopy
