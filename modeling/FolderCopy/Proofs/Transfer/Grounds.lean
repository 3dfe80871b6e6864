import FolderCopy.Proofs.Transfer.Schedule

/-!
# What a transfer ends on

The answers that a transfer gets come in series: those to its listing calls, those to the calls for
the content of a file, what reading that content gives, and those to the deletions. A series goes on
as long as its answers leave something to ask for, and where a transfer or a download comes to an
end one of these series does too.
-/

namespace FolderCopy

namespace Retry

/-- Answers that leave a call open: attempts that have failed and were followed by further ones. -/
def Trying (p : Policy) (resource : String) (rs : List (Except CallError Unit)) : Prop :=
  ∃ cs : List CallError, rs = cs.map .error ∧ Retried Unit p resource cs

/-- A call that is still open has not succeeded. -/
lemma Trying.ok_not_mem {p : Policy} {resource : String} {rs : List (Except CallError Unit)}
    (h : Trying p resource rs) : .ok () ∉ rs := by
  obtain ⟨cs, rfl, -⟩ := h
  simp

/-- A call that has failed for good is not open. -/
lemma Trying.not_settled {p : Policy} {resource : String} {cs : List CallError} {c : CallError}
    {e : CopyError} (h : Trying p resource (cs.map .error ++ [.error c]))
    (he : p.after (α := Unit) resource (cs.length + 1) (.error c) = .inl (.error e)) : False := by
  obtain ⟨cs', heq, hr⟩ := h
  have hat := congrArg (·[cs.length]?) heq
  simp only [List.getElem?_map] at hat
  cases hc : cs'[cs.length]? with
  | none => simp [hc] at hat
  | some c' =>
    obtain rfl : c = c' := by simpa [hc] using hat
    rw [hr _ _ hc] at he
    cases he

end Retry

namespace Transfer

/-! ## The series of answers -/

namespace Event

/-- The answer to a call for content. -/
def stream? : Event → Option (Except CallError Unit)
  | .stream _ r => some r
  | _ => none

/-- What reading content gives. -/
def read? : Event → Option (Except String Bytes)
  | .read _ r => some r
  | _ => none

/-- The answer to a deletion. -/
def removal? : Event → Option (Except CallError Unit)
  | .removal r => some r
  | _ => none

/-- Whether the limiter or the local files say no. -/
def denies : Event → Bool
  | .directory (.error _) | .admission _ (.error _) | .opened _ (.error _)
  | .written _ (.error _) | .closed _ (.error _) => true
  | _ => false

end Event

/-- The answers to calls for content. -/
def streams (es : List Event) : List (Except CallError Unit) :=
  es.filterMap Event.stream?

/-- What reading content has given. -/
def reads (es : List Event) : List (Except String Bytes) :=
  es.filterMap Event.read?

/-- The answers to deletions. -/
def removals (es : List Event) : List (Except CallError Unit) :=
  es.filterMap Event.removal?

/-- The answer to a call for a stream comes after those before it. -/
lemma streams_snoc (es : List Event) (e : Event) :
    streams (es ++ [e]) = streams es ++ e.stream?.toList := by
  cases h : e.stream? <;> simp [streams, h]

/-- The answer to a reading comes after those before it. -/
lemma reads_snoc (es : List Event) (e : Event) :
    reads (es ++ [e]) = reads es ++ e.read?.toList := by
  cases h : e.read? <;> simp [reads, h]

/-- The answer to a deletion comes after those before it. -/
lemma removals_snoc (es : List Event) (e : Event) :
    removals (es ++ [e]) = removals es ++ e.removal?.toList := by
  cases h : e.removal? <;> simp [removals, h]

section Series

variable {e : Event}

/-! What is no answer of a series leaves it as it is. -/

/-- Events that answer no call for a stream leave the answers there were. -/
lemma streams_snoc_of_none (es : List Event) (he : e.stream? = none) :
    streams (es ++ [e]) = streams es := by
  rw [streams_snoc, he, Option.toList_none, List.append_nil]

/-- Events that answer no reading leave the answers there were. -/
lemma reads_snoc_of_none (es : List Event) (he : e.read? = none) :
    reads (es ++ [e]) = reads es := by
  rw [reads_snoc, he, Option.toList_none, List.append_nil]

/-- Events that answer no deletion leave the answers there were. -/
lemma removals_snoc_of_none (es : List Event) (he : e.removal? = none) :
    removals (es ++ [e]) = removals es := by
  rw [removals_snoc, he, Option.toList_none, List.append_nil]

end Series

/-- Readings that leave more to read. -/
def ReadingOn (rs : List (Except String Bytes)) : Prop :=
  ∀ r ∈ rs, ∃ chunk, r = .ok chunk ∧ chunk ≠ []

/-- Answers to listing calls of which those that failed were followed by further attempts. -/
def Enumerating (j : Job) (rs : List (Except CallError Page)) : Prop :=
  ∀ before c after, rs = before ++ .error c :: after →
    j.policy.after (α := Page) j.folder (requestAfter before).attempt (.error c) =
      .inr (.asking ((requestAfter before).attempt + 1))

/-- Answers that leave the listings open: nothing has failed for good, and not both listings were
read to their end. -/
def ListingOn (j : Job) (rs : List (Except CallError Page)) : Prop :=
  Enumerating j rs ∧ (requestAfter rs).listing < 2

/-- What is split off a list with one more item at its end is that item or comes before it. -/
lemma split_concat {α : Type} {as before after : List α} {a b : α}
    (h : as ++ [a] = before ++ b :: after) :
    before = as ∧ b = a ∧ after = [] ∨ ∃ rest, as = before ++ b :: rest := by
  rcases List.eq_nil_or_concat' after with rfl | ⟨rest, c, rfl⟩
  · obtain ⟨rfl, hb⟩ := List.append_inj' h rfl
    cases hb
    exact .inl ⟨rfl, rfl, rfl⟩
  · rw [← List.cons_append, ← List.append_assoc] at h
    exact .inr ⟨rest, (List.append_inj' h rfl).1⟩

section Answers

variable {j : Job} {rs : List (Except CallError Page)}

/-- A page leaves the listings as open as they were. -/
lemma Enumerating.concat_ok (h : Enumerating j rs) (p : Page) : Enumerating j (rs ++ [.ok p]) := by
  intro before c after heq
  rcases split_concat heq with ⟨-, hc, -⟩ | ⟨rest, hrest⟩
  · cases hc
  · exact h before c rest hrest

/-- A failure that is followed by another attempt leaves the listings as open as they were. -/
lemma Enumerating.concat_error (h : Enumerating j rs) {c : CallError}
    (hr : j.policy.after (α := Page) j.folder (requestAfter rs).attempt (.error c) =
      .inr (.asking ((requestAfter rs).attempt + 1))) : Enumerating j (rs ++ [.error c]) := by
  intro before c' after heq
  rcases split_concat heq with ⟨rfl, hc, -⟩ | ⟨rest, hrest⟩
  · cases hc
    exact hr
  · exact h before c' rest hrest

end Answers

/-! ## Downloads -/

/-- The answer to the last attempt to get some content. -/
def LastFetch.answer? : LastFetch → Option (Except CallError Unit)
  | .due | .pending => none
  | .succeeded => some (.ok ())
  | .failed c => some (.error c)

namespace Download

variable {j : Job} {i : Nat} {entry : Entry} {es : List Event} {d : Download} {fs : List Effect}
  {cs : List CallError} {last : LastFetch}

/-- The answers to the calls for content are those of the attempts. -/
lemma Fetched.streams_eq (h : Fetched j i entry es cs last) :
    streams es = cs.map .error ++ last.answer?.toList := by
  have hfetches : streams es = (es.filter Event.fetches).filterMap Event.stream? := by
    rw [List.filterMap_filter, streams]
    apply List.filterMap_congr
    intro e _
    cases e <;> rfl
  have hfailed : (failedFetches i cs).filterMap Event.stream? = cs.map .error := by
    clear h
    induction cs with
    | nil => rfl
    | cons c cs ih =>
      show List.filterMap _ ([_, _] ++ failedFetches i cs) = _
      rw [List.filterMap_append, ih]
      rfl
  rw [hfetches, h.events, List.filterMap_append, hfailed]
  cases last <;> rfl

/-- Why a download has failed: its last attempt failed for good, reading its content did, or it was
denied something. -/
inductive Cause (j : Job) (i : Nat) (entry : Entry) (es : List Event) : Prop where
  | fetching {cs c} (h : Fetched j i entry es cs (.failed c))
  | reading {rs m} (h : reads es = rs ++ [.error m]) (hon : ReadingOn rs)
  | denied {e} (h : e ∈ es) (hd : e.denies)

/-- What a download has read, and why it has failed, by where it stands. -/
def Grounds (j : Job) (i : Nat) (entry : Entry) (es : List Event) : DownloadStage → Prop
  | .fetching _ | .opening | .reading | .writing .. => ReadingOn (reads es)
  | .closing | .finished (.ok ()) => ∃ rs, reads es = rs ++ [.ok []] ∧ ReadingOn rs
  | .finished (.error _) => Cause j i entry es
  | .abandoned => True

/-- What a download ends on goes with where it stands. -/
lemma History.grounds (h : History j i entry es d fs) : Grounds j i entry es d.stage := by
  induction h with
  | scheduled => exact nofun
  | joined hh ih => exact ih
  | @move es d fs e d' fs' hh hi h ih =>
    have hentry := hh.entry_eq
    have hfetch := hh.fetching
    cases h with
    | granted hs | started hs | fetched hs | retried hs | opened hs | stored hs | written hs =>
      rw [hs] at ih
      show ReadingOn (reads (es ++ [_]))
      rw [reads_snoc_of_none es rfl]
      exact ih
    | refused hs => exact .denied (List.mem_append_right _ (List.mem_singleton_self _)) rfl
    | notOpened hs => exact .denied (List.mem_append_right _ (List.mem_singleton_self _)) rfl
    | notWritten hs => exact .denied (List.mem_append_right _ (List.mem_singleton_self _)) rfl
    | notClosed hs => exact .denied (List.mem_append_right _ (List.mem_singleton_self _)) rfl
    | @notFetched k n c err hs he =>
      rw [hs] at hfetch
      cases hi
      obtain ⟨cs, hf, rfl⟩ := hfetch
      rw [hentry] at he
      -- The attempt that failed for good is the last one.
      refine .fetching (c := c) (hf.go rfl rfl ?_)
      rintro c' ⟨⟩
      exact ⟨err, he⟩
    | @gave k chunk hs hne hle =>
      rw [hs] at ih
      show ReadingOn (reads (es ++ [_]))
      rw [reads_snoc]
      intro r hr
      rcases List.mem_append.1 hr with hr | hr
      · exact ih r hr
      · exact ⟨chunk, List.mem_singleton.1 hr, hne⟩
    | ended hs =>
      rw [hs] at ih
      exact ⟨reads es, reads_snoc _ _, ih⟩
    | brokeOff hs =>
      rw [hs] at ih
      exact .reading (reads_snoc _ _) ih
    | closed hs =>
      rw [hs] at ih
      obtain ⟨rs, hrs, hon⟩ := ih
      exact ⟨rs, (reads_snoc _ _).trans ((List.append_nil _).trans hrs), hon⟩
    | abandoned => trivial

end Download

/-! ## The listings -/

section Steps

variable {j : Job} {disk : Disk} {es : List Event} {s s' : State} {e : Event}

/-- As long as a transfer is not over, no listing has failed for good. -/
lemma Run.enumerating (h : Run j disk es s) (ho : s.stage.isOver = false) :
    Enumerating j (answers es) := by
  induction h with
  | start =>
    intro before c after heq
    simp [answers] at heq
  | @step es s e s' hr h ih =>
    cases h with
    | move hi =>
      rw [answers_snoc_of_none es (Event.answer?_eq_none hi)]
      exact ih ho
    | turn ht =>
      -- What fails for good ends the transfer, so only failures that are tried again are left.
      have hbefore := ih (ht.not_isOver ho)
      have hdue := hr.due
      cases ht with
      | counted | supplied =>
        rw [answers_snoc]
        exact hbefore.concat_ok _
      | notListed => cases ho
      | @listedAgain k n c hl hk hagain =>
        rw [hl] at hdue
        rw [answers_snoc]
        refine hbefore.concat_error ?_
        have hn : (requestAfter (answers es)).attempt = n := by
          cases k with
          | counting | paging => exact hdue.2
          | cleaning => cases hk
        rw [hn]
        exact hagain
      | _ =>
        rw [answers_snoc_of_none es rfl]
        exact hbefore

/-! ## The end of a transfer -/

/-- Why a transfer has failed: it was denied something, a listing failed for good, or a download
did. -/
inductive Cause (j : Job) (es : List Event) (ds : List Download) : Prop where
  | denied {ev} (h : ev ∈ es) (hd : ev.denies)
  | listing {rs c err} (h : answers es = rs ++ [.error c])
    (he : j.policy.after (α := Page) j.folder (requestAfter rs).attempt (.error c) =
      .inl (.error err))
  | download {d err} (h : d ∈ ds) (hf : d.stage = .finished (.error err))

/-- How the deletions have gone in a transfer that is complete, and how often they were called. -/
inductive Swept (j : Job) (es : List Event) (called : Nat) : Cleanup → Prop where
  | notRequested (ha : j.deleteAfter = false) (h : removals es = []) (hc : called = 0) :
    Swept j es called .notRequested
  | denied {ev c} (h : ev ∈ es) (hd : ev.denies) : Swept j es called c
  | deleted {cs : List CallError} (ha : j.deleteAfter)
    (h : removals es = cs.map .error ++ [.ok ()]) (hr : Retry.Retried Unit j.policy j.folder cs)
    (hc : called = cs.length + 1) : Swept j es called .deleted
  | failed {cs : List CallError} {c err} (ha : j.deleteAfter)
    (h : removals es = cs.map .error ++ [.error c]) (hr : Retry.Retried Unit j.policy j.folder cs)
    (he : j.policy.after (α := Unit) j.folder (cs.length + 1) (.error c) = .inl (.error err))
    (hc : called = cs.length + 1) : Swept j es called (.failed err.statusMessage)

/-- What a terminal record goes back to. -/
def Founded (j : Job) (es : List Event) (s : State) : Status → Prop
  | .progress _ => True
  | .completed c => Swept j es (s.calls.countP Call.deletes) c
  | .failed _ => Cause j es s.downloads

/-- What has come of the deletions, and what a transfer goes back to that is over, by where the main
loop stands. -/
def Grounds (j : Job) (es : List Event) (s : State) : Stage → Prop
  | .cleaning r => ∃ cs : List CallError, removals es = cs.map .error ∧
      Retry.Retried Unit j.policy j.folder cs ∧ r.number = cs.length + 1
  | .sending r .stop => Founded j es s r
  | .ended => ∀ r ∈ s.sent, Founded j es s r
  | _ => removals es = []

/-- The deletions that were called are those in the log. -/
lemma Deleting.countP_deletes {k : Nat} (h : Deleting j es s k) :
    s.calls.countP Call.deletes = k := by
  obtain ⟨before, hcalls, hbefore⟩ := h.calls
  rw [hcalls, List.countP_append, List.countP_eq_zero.2 hbefore]
  simp [Job.deletion, Call.deletes, List.countP_replicate]

/-- Events that answer no listing leave the cause of a failure. -/
lemma Cause.quiet {ds ds' : List Download} (h : Cause j es ds) (he : e.answer? = none)
    (hq : Quiet ds ds') : Cause j (es ++ [e]) ds' := by
  cases h with
  | denied h hd => exact .denied (List.mem_append_left _ h) hd
  | listing h hf =>
    refine .listing ?_ hf
    rw [answers_snoc_of_none es he, h]
  | download h hf =>
    obtain ⟨i, hi, rfl⟩ := List.mem_iff_getElem.1 h
    obtain ⟨d', hd', -, hs⟩ := hq.kept i _ (List.getElem?_eq_getElem hi)
    exact .download (List.mem_of_getElem? hd') (hs _ hf)

/-- Events that answer no deletion leave what has come of them. -/
lemma Swept.quiet {called : Nat} {c : Cleanup} (h : Swept j es called c)
    (he : e.removal? = none) : Swept j (es ++ [e]) called c := by
  have heq := removals_snoc_of_none es he
  cases h with
  | notRequested ha h hc => exact .notRequested ha (heq.trans h) hc
  | denied h hd => exact .denied (List.mem_append_left _ h) hd
  | deleted ha h hr hc => exact .deleted ha (heq.trans h) hr hc
  | failed ha h hr hf hc => exact .failed ha (heq.trans h) hr hf hc

/-- What a terminal record goes back to stays when only downloads and the consumer go on. -/
lemma Founded.quiet {r : Status} (h : Founded j es s r) (ha : e.answer? = none)
    (hr : e.removal? = none) (hq : Quiet s.downloads s'.downloads)
    (hc : s'.calls.countP Call.deletes = s.calls.countP Call.deletes) :
    Founded j (es ++ [e]) s' r := by
  cases r with
  | progress u => trivial
  | completed c =>
    show Swept j (es ++ [e]) (s'.calls.countP Call.deletes) c
    rw [hc]
    exact Swept.quiet h hr
  | failed err => exact Cause.quiet h ha hq

/-- A record that ends nothing goes back to nothing. -/
lemma Founded.of_progress {r : Status} (h : r.isTerminal = false) : Founded j es s r := by
  cases r with
  | progress u => trivial
  | completed | failed => cases h

/-- The grounds stay when only downloads and the consumer go on. -/
lemma Grounds.quiet {st : Stage} (h : Grounds j es s st) (ha : e.answer? = none)
    (hr : e.removal? = none) (hq : Quiet s.downloads s'.downloads) (hs : s'.sent = s.sent)
    (hc : s'.calls.countP Call.deletes = s.calls.countP Call.deletes) :
    Grounds j (es ++ [e]) s' st := by
  unfold Grounds at h ⊢
  split at h
  · rw [removals_snoc_of_none es hr]
    exact h
  · exact h.quiet ha hr hq hc
  · rw [hs]
    exact fun r hmem => (h r hmem).quiet ha hr hq hc
  · exact (removals_snoc_of_none es hr).trans h

/-- No deletion has been answered where it has not been begun. -/
lemma Grounds.supply (entries : List Entry) (h : removals es = []) :
    Grounds j es s' (s.supply entries).stage := by
  cases entries with
  | cons e rest => exact h
  | nil =>
    rw [State.supply]
    split <;> exact h

/-- Before the deletions, a counted page leaves nothing to go back to. -/
lemma Grounds.countPage {t : Totals} {p : Page} (h : removals es = []) :
    Grounds j es s' (s.countPage t p).stage := by
  unfold State.countPage
  split <;> exact h

/-- Before the deletions, cleaning up has nothing to go back to. -/
lemma Grounds.cleanUp (h : removals es = []) (hc : s.calls.countP Call.deletes = 0) :
    Grounds j es (s.cleanUp j) (s.cleanUp j).stage := by
  unfold State.cleanUp
  split
  case isTrue => exact ⟨[], h, .nil, rfl⟩
  case isFalse ha => exact Swept.notRequested (by simpa using ha) h hc

/-- Before the deletions, settling the counters has nothing to go back to. -/
lemma Grounds.settle (h : removals es = []) (hc : s.calls.countP Call.deletes = 0) :
    Grounds j es (s.settle j) (s.settle j).stage := by
  unfold State.settle
  split
  · exact h
  · exact .cleanUp h hc

/-- A turn keeps the grounds. -/
lemma Grounds.turn (h : Grounds j es s s.stage) (hr : Run j disk es s) (ht : Turn j s e s') :
    Grounds j (es ++ [e]) s' s'.stage := by
  obtain ⟨k, hdel⟩ := hr.deleting
  have hcount := hdel.countP_deletes
  have hat := hdel.attempted
  have htold := hr.told
  have hst := hr.sound.standing
  have hmem : e ∈ es ++ [e] := List.mem_append_right _ (List.mem_singleton_self _)
  cases ht with
  | created hl =>
    rw [hl] at h
    exact (removals_snoc_of_none es rfl).trans h
  | notCreated | refused => exact Cause.denied hmem rfl
  | deletionRefused => exact Swept.denied hmem rfl
  | @granted t n hl | @started t n hl =>
    rw [hl] at h
    cases t with
    | counting | paging => exact (removals_snoc_of_none es rfl).trans h
    | cleaning =>
      obtain ⟨cs, hrs, htried⟩ := h
      exact ⟨cs, (removals_snoc_of_none es rfl).trans hrs, htried⟩
  | @listedAgain t n c hl hk =>
    rw [hl] at h
    cases t with
    | counting | paging => exact (removals_snoc_of_none es rfl).trans h
    | cleaning => cases hk
  | counted hl =>
    rw [hl] at h
    exact .countPage ((removals_snoc_of_none es rfl).trans h)
  | supplied hl =>
    rw [hl] at h
    exact .supply _ ((removals_snoc_of_none es rfl).trans h)
  | @notListed t n c err hl hk he =>
    have hdue := hr.due
    rw [hl] at hdue
    have hn : (requestAfter (answers es)).attempt = n := by
      cases t with
      | counting | paging => exact hdue.2
      | cleaning => cases hk
    rw [← hn] at he
    exact Cause.listing (answers_snoc _ _) he
  | deleted hl =>
    have hc := hr.course
    rw [hl] at h hat hc
    obtain ⟨cs, hrs, htried, rfl⟩ := h
    refine Swept.deleted hc.2.2.2 ?_ htried (hcount.trans hat.1.symm)
    rw [removals_snoc, hrs]
    rfl
  | notDeleted hl he =>
    have hc := hr.course
    rw [hl] at h hat hc
    obtain ⟨cs, hrs, htried, rfl⟩ := h
    refine Swept.failed hc.2.2.2 ?_ htried he (hcount.trans hat.1.symm)
    rw [removals_snoc, hrs]
    rfl
  | @deletedAgain n c hl hagain =>
    rw [hl] at h
    obtain ⟨cs, hrs, htried, rfl⟩ := h
    refine ⟨cs ++ [c], ?_, htried.concat rfl hagain, by simp [Retry.Stage.number]⟩
    rw [removals_snoc, hrs, List.map_append]
    rfl
  | joined hl =>
    rw [hl] at h
    show Grounds j _ _ s.stage
    rw [hl]
    exact (removals_snoc_of_none es rfl).trans h
  | @failed i d err hl hd hj hf =>
    have hd' := List.getElem?_set_self (a := { d with joined := true })
      (List.getElem?_eq_some_iff.1 hd).1
    exact Cause.download (List.mem_of_getElem? hd') hf
  | acquired hl =>
    rw [hl] at h
    exact .supply _ ((removals_snoc_of_none es rfl).trans h)
  | folded hl =>
    rw [hl] at h
    exact (removals_snoc_of_none es rfl).trans h
  | drained hl =>
    rw [hl] at h hat
    exact .settle ((removals_snoc_of_none es rfl).trans h) (hcount.trans hat)
  | @sent r next hl =>
    rw [hl] at h hat htold hst
    -- Only the record that was waiting can be a terminal one.
    have hprogress (r' : Status) (hmem : r' ∈ s.sent) (s' : State) :
        Founded j (es ++ [.send]) s' r' :=
      .of_progress (htold.progress hst (by simp) hmem)
    cases next with
    | begin_ =>
      show Grounds j _ _ (if j.slots ≤ slotLimit then .looping else .ended)
      split
      · exact (removals_snoc_of_none es rfl).trans h
      · intro r' hr'
        rcases List.mem_append.1 hr' with hr' | hr'
        · exact hprogress r' hr' _
        · rw [List.mem_singleton.1 hr']
          exact .of_progress (htold.waiting (by decide))
    | loop => exact (removals_snoc_of_none es rfl).trans h
    | cleanUp =>
      have hnone : Attempted j.policy k (.sending r .cleanUp) := hat
      refine .cleanUp ((removals_snoc_of_none es rfl).trans h) (hcount.trans ?_)
      cases r <;> exact hnone
    | stop =>
      let s' : State :=
        { s with stage := .ended, channel := s.channel ++ [r], sent := s.sent ++ [r] }
      have hlast : Founded j (es ++ [.send]) s' r := Founded.quiet h rfl rfl .rfl rfl
      intro r' hr'
      rcases List.mem_append.1 hr' with hr' | hr'
      · exact hprogress r' hr' _
      · rw [List.mem_singleton.1 hr']
        exact hlast
  | unheard hl =>
    exact fun r hmem => .of_progress (htold.progress hst (by simp [hl]) hmem)
  | took | hungUp => exact h.quiet rfl rfl .rfl rfl rfl
  | cancelled hl ho =>
    intro r hmem
    refine .of_progress (htold.progress hst ?_ hmem)
    intro hend
    rw [hend] at ho
    cases ho

/-- A move of a download keeps the grounds. -/
lemma Grounds.move {st : Stage} (h : Grounds j es s st) {i : Nat} {d d' : Download}
    {fs : List Effect} (hi : e.download? = some i) (hd : s.downloads[i]? = some d)
    (hm : Download.Move j d e d' fs) : Grounds j (es ++ [e]) (s.advance j i d' fs) st := by
  have hremoval : e.removal? = none := by
    cases e with
    | removal => cases hi
    | _ => rfl
  refine h.quiet (Event.answer?_eq_none hi) hremoval (.of_move hd hm) rfl ?_
  show (s.calls ++ _).countP _ = _
  rw [List.countP_append, List.countP_eq_zero.2 hm.not_deletes, Nat.add_zero]

/-- Where the main loop stands says what the deletions have come to, and what a transfer that is
over goes back to. -/
theorem Run.grounds (h : Run j disk es s) : Grounds j es s s.stage := by
  induction h with
  | start => rfl
  | step hr h ih =>
    cases h with
    | turn ht => exact ih.turn hr ht
    | move hi hd hp hm => exact ih.move hi hd hm

/-- Every record that was told goes back to what it must. -/
lemma Run.founded (h : Run j disk es s) {r : Status} (hr : r ∈ s.sent) : Founded j es s r := by
  have hg := h.grounds
  by_cases hend : s.stage = .ended
  · rw [hend] at hg
    exact hg r hr
  · exact .of_progress (h.told.progress h.sound.standing hend hr)

end Steps

end Transfer

end FolderCopy
