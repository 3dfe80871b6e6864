import Mathlib.Data.List.Count
import Mathlib.Data.List.Infix
import FolderCopy.Proofs.Transfer.Grounds
import FolderCopy.Proofs.Transfer.Liveness

/-!
# A world

Here the outside is fixed: what the store answers to a call hangs on the call and on how often it
was made before, what reading a file gives on its place in the listing and on how often it was read
before, and the limiter and the local files never say no. In such a world every series of answers
follows a script, whatever the order in which events come.
-/

namespace FolderCopy.Transfer

/-! ## Scripts -/

/-- Whether a list follows a script: each of its items is what the rule makes of the ones before,
and these leave it open whether there are more. -/
def Scripted {α : Type} (rule : List α → α) (goesOn : List α → Prop) (as : List α) : Prop :=
  ∀ before a after, as = before ++ a :: after → a = rule before ∧ goesOn before

namespace Scripted

variable {α : Type} {rule : List α → α} {goesOn : List α → Prop} {as bs : List α}

/-- Nothing has happened yet that could break a script. -/
lemma nil : Scripted rule goesOn [] := by
  intro before a after h
  simp at h

/-- What the rule makes of a script goes on with it. -/
lemma concat (h : Scripted rule goesOn as) (ho : goesOn as) :
    Scripted rule goesOn (as ++ [rule as]) := by
  intro before a after heq
  rcases split_concat heq with ⟨rfl, rfl, -⟩ | ⟨rest, hrest⟩
  · exact ⟨rfl, ho⟩
  · exact h before a rest hrest

/-- Without its last item a list follows the script as well. -/
lemma of_concat {a : α} (h : Scripted rule goesOn (as ++ [a])) : Scripted rule goesOn as := by
  rintro before b after rfl
  exact h before b (after ++ [a]) (by simp)

/-- Of two lists that follow a script one goes on where the other stops. -/
lemma comparable (ha : Scripted rule goesOn as) (hb : Scripted rule goesOn bs) :
    as <+: bs ∨ bs <+: as := by
  induction as using List.reverseRecOn with
  | nil => exact .inl List.nil_prefix
  | append_singleton as a ih =>
    rcases ih ha.of_concat with ⟨rest, rfl⟩ | h
    · cases rest with
      | nil => exact .inr (by simp)
      | cons b rest =>
        have heq : a = b := (ha as a [] rfl).1.trans (hb as b rest rfl).1.symm
        exact .inl ⟨rest, by simp [heq]⟩
    · exact .inr (h.trans (List.prefix_append _ _))

/-- No list that follows a script goes on where another one is closed. -/
lemma prefix_of_closed (ha : Scripted rule goesOn as) (hb : Scripted rule goesOn bs)
    (hc : ¬ goesOn as) : bs <+: as := by
  rcases ha.comparable hb with ⟨rest, rfl⟩ | h
  · cases rest with
    | nil => simp
    | cons b rest => exact absurd (hb as b rest rfl).2 hc
  · exact h

/-- A script is closed in one way only. -/
lemma eq_of_closed (ha : Scripted rule goesOn as) (hb : Scripted rule goesOn bs)
    (hca : ¬ goesOn as) (hcb : ¬ goesOn bs) : as = bs :=
  (hb.prefix_of_closed ha hcb).eq_of_length_le (ha.prefix_of_closed hb hca).length_le

end Scripted

/-! ## Worlds -/

/-- What the outside gives. -/
structure World where
  /-- The answer of the store to a call that was made so often before. -/
  answer : (q : StoreCall) → (earlier : Nat) → Except CallError q.Answer
  /-- What the content of the file at a place of the listing gives that was read so often before. -/
  read : (i earlier : Nat) → Except String Bytes
  read_le : ∀ i n chunk, read i n = .ok chunk → chunk.length ≤ chunkLimit

/-- The token of the page that the main loop asks for. -/
def State.token (s : State) : Option String :=
  match s.stage with
  | .counting c _ _ => c.token
  | _ => s.cursor.token

/-- How often a call was made before the one that is under way. -/
def State.earlier (s : State) (q : StoreCall) : Nat :=
  s.calls.count (.store q) - 1

namespace World

/-- Whether an event can come in a world, after others. -/
def allows (w : World) (j : Job) (es : List Event) (s : State) : Event → Bool
  | .directory r | .admission _ r | .opened _ r => r = .ok ()
  | .written _ r => r = .ok ()
  | .closed _ r => r = .ok ()
  | .page r =>
    r = w.answer (.list (some j.folder) .files s.token)
      (s.earlier (.list (some j.folder) .files s.token))
  | .removal r => r = w.answer (.delete j.folder) (s.earlier (.delete j.folder))
  | .stream i r =>
    match s.downloads[i]? with
    | some d => r = w.answer (.download d.entry.id) (s.earlier (.download d.entry.id))
    | none => false
  | .read i r => r = w.read i (reads (eventsOf i es)).length
  | .hangUp => false
  | _ => true

/-- The state after events in turn that come in a world; none if one of them cannot. -/
def play (w : World) (j : Job) : (past : List Event) → State → List Event → Option State
  | _, s, [] => some s
  | past, s, e :: es =>
    if w.allows j past s e then (step j s e).bind fun s' => play w j (past ++ [e]) s' es else none

/-- The runs of a transfer in a world. -/
inductive Played (w : World) (j : Job) (disk : Disk) : List Event → State → Prop where
  | start : Played w j disk [] (.start j disk)
  | step {es s e s'} (hp : Played w j disk es s) (ha : w.allows j es s e) (h : Step j s e s') :
    Played w j disk (es ++ [e]) s'

section Plays

variable {w : World} {j : Job} {disk : Disk} {es : List Event} {s : State}

/-- What is played after a play is a play with it. -/
lemma Played.of_play {past : List Event} {s₀ : State} (hp : w.Played j disk past s₀)
    (h : w.play j past s₀ es = some s) : w.Played j disk (past ++ es) s := by
  induction es generalizing past s₀ with
  | nil =>
    cases h
    simpa using hp
  | cons e es ih =>
    rw [play] at h
    split at h
    case isFalse => cases h
    case isTrue ha =>
      obtain ⟨s₁, hs₁, h⟩ := Option.bind_eq_some_iff.1 h
      have := ih (hp.step ha (.of_step hs₁)) h
      simpa using this

/-- What is played in a world is a run. -/
lemma Played.run (h : w.Played j disk es s) : Run j disk es s := by
  induction h with
  | start => exact .start
  | step hp ha h ih => exact ih.step h

/-- In a world nobody says no. -/
lemma Played.not_denied (h : w.Played j disk es s) : ∀ e ∈ es, e.denies = false := by
  induction h with
  | start => exact nofun
  | @step es s e s' hp ha h ih =>
    intro e' hmem
    rcases List.mem_append.1 hmem with hmem | hmem
    · exact ih e' hmem
    · rw [List.mem_singleton.1 hmem]
      cases e with
      | directory r | admission a r | opened i r | written i r | closed i r =>
        obtain rfl := of_decide_eq_true ha
        rfl
      | _ => rfl

/-- In a world the consumer listens to the end. -/
lemma Played.listening (h : w.Played j disk es s) : s.listening := by
  induction h with
  | start => rfl
  | @step es s e s' hp ha h ih =>
    cases h with
    | move => exact ih
    | turn ht =>
      cases ht with
      | hungUp => cases ha
      | counted =>
        rw [State.countPage_eq]
        exact ih
      | supplied | acquired =>
        rw [State.supply_eq]
        exact ih
      | drained =>
        rw [State.settle_eq]
        exact ih
      | sent =>
        rw [State.resume_eq]
        exact ih
      | _ => exact ih

end Plays

end World

/-! ## Answers and calls -/

section Stages

variable {j : Job} {s s' : State}

/-- A listing call is answered while a page is awaited. -/
lemma Turn.page_stage {r : Except CallError Page} (h : Turn j s (.page r) s') :
    ∃ (k : Task) (n : Nat), k.lists ∧ s.stage = k.stage (.calling n) := by
  cases h with
  | @counted c t n p hl => exact ⟨.counting c t, n, rfl, hl⟩
  | @supplied n p hl => exact ⟨.paging, n, rfl, hl⟩
  | notListed hl hk => exact ⟨_, _, hk, hl⟩
  | listedAgain hl hk => exact ⟨_, _, hk, hl⟩

/-- A deletion is answered only while cleaning up has called for it. -/
lemma Turn.removal_stage {r : Except CallError Unit} (h : Turn j s (.removal r) s') :
    ∃ n, s.stage = .cleaning (.calling n) := by
  cases h with
  | deleted hl | notDeleted hl | deletedAgain hl => exact ⟨_, hl⟩

/-- A stream is answered only while its download has called for it. -/
lemma Download.Move.stream_stage {d d' : Download} {fs : List Effect} {i : Nat}
    {r : Except CallError Unit} (h : Download.Move j d (.stream i r) d' fs) :
    ∃ n, d.stage = .fetching (.calling n) := by
  cases h with
  | fetched hs | notFetched hs | retried hs => exact ⟨_, hs⟩

/-- A chunk is read only while its download is reading. -/
lemma Download.Move.read_stage {d d' : Download} {fs : List Effect} {i : Nat}
    {r : Except String Bytes} (h : Download.Move j d (.read i r) d' fs) : d.stage = .reading := by
  cases h with
  | gave hs | ended hs | brokeOff hs => exact hs

end Stages

section Runs

variable {j : Job} {disk : Disk} {es : List Event} {s : State}

/-- While a page is awaited, all calls that are due have been made. -/
lemma Run.count_lists (h : Run j disk es s) {k : Task} {n : Nat} (hk : k.lists)
    (hs : s.stage = k.stage (.calling n)) (token : Option String) :
    s.calls.count (.store (.list (some j.folder) .files token)) =
      ((requests es).map (·.token)).count token := by
  obtain ⟨first, later, copying, hp⟩ := h.phases
  have hmade := hp.made
  have hall : first ++ later = requests es := by
    apply hp.due.eq_of_length
    rw [length_requests]
    rw [hs] at hmade
    cases k with
    | counting | paging => exact hmade
    | cleaning => cases hk
  let call (t : Option String) : Call := .store (.list (some j.folder) .files t)
  have hinj : Function.Injective call := fun t t' h => by cases h; rfl
  have hmap : (requests es).map (·.call j) = ((requests es).map (·.token)).map call := by
    rw [List.map_map]
    rfl
  calc s.calls.count (call token)
      = (s.calls.filter Call.lists).count (call token) := (List.count_filter rfl).symm
    _ = (((requests es).map (·.token)).map call).count (call token) := by
        rw [hp.lists_eq, hall, hmap]
    _ = ((requests es).map (·.token)).count token := List.count_map_of_injective _ call hinj _

/-- The deletions are all calls of the same kind. -/
lemma Deleting.count_deletion {k : Nat} (h : Deleting j es s k) :
    s.calls.count (.store (.delete j.folder)) = k := by
  obtain ⟨before, hcalls, hbefore⟩ := h.calls
  have hnone : before.count (.store (.delete j.folder)) = 0 :=
    List.count_eq_zero.2 fun hmem => hbefore _ hmem rfl
  rw [hcalls, List.count_append, hnone, Nat.zero_add]
  exact List.count_replicate_self

end Runs

/-! ## The scripts of a world -/

/-- The pages that were read only get more. -/
lemma pagesRead_grow (es : List Event) (e : Event) : pagesRead es <+: pagesRead (es ++ [e]) := by
  rw [pagesRead, pagesRead, List.filterMap_append]
  exact List.prefix_append _ _

/-- Where more pages have been read, the second listing begins with the same entries. -/
lemma entriesListed_mono {es es' : List Event} (h : pagesRead es <+: pagesRead es') :
    entriesListed es <+: entriesListed es' := by
  obtain ⟨rest, hrest⟩ := h
  rw [entriesListed, entriesListed, ← hrest, List.dropWhile_append]
  split
  case isTrue hnil =>
    rw [List.isEmpty_iff.1 hnil]
    exact List.nil_prefix
  case isFalse hne =>
    rw [List.tail_append, if_neg hne]
    exact List.IsPrefix.flatMap (List.prefix_append _ _) _

namespace World

/-- The answer to the listing call that is due after some answers. -/
def pageAfter (w : World) (j : Job) (rs : List (Except CallError Page)) : Except CallError Page :=
  w.answer (.list (some j.folder) .files (requestAfter rs).token)
    (((rs.scanl Request.next {}).map (·.token)).count (requestAfter rs).token - 1)

section Plays

variable {w : World} {j : Job} {disk : Disk} {es : List Event} {s s' : State}

/-- The listings follow a script. -/
theorem Played.answers (h : w.Played j disk es s) :
    Scripted (w.pageAfter j) (ListingOn j) (answers es) := by
  induction h with
  | start => exact .nil
  | @step es s e s' hp ha h ih =>
    cases e with
    | page r =>
      have hr := hp.run
      rw [answers_snoc]
      cases h with
      | move hi => cases hi
      | turn ht =>
        obtain ⟨k, n, hk, hl⟩ := ht.page_stage
        have ho : s.stage.isOver = false := by
          rw [hl]
          cases k <;> rfl
        have hdue := hr.due
        have hcourse := hr.course
        have hst := hr.sound.standing
        rw [hl] at hdue hcourse hst
        have hlisting : (requestAfter (Transfer.answers es)).listing < 2 := by
          rw [listing_requestAfter]
          exact hcourse.listing hk hst
        have htoken : s.token = (requestAfter (Transfer.answers es)).token := by
          rw [State.token, hl]
          cases k with
          | counting | paging => exact hdue.1.symm
          | cleaning => cases hk
        -- The call that is answered is the one that is due, and it was made before as often as it
        -- was due before.
        have hvalue : r = w.pageAfter j (Transfer.answers es) := by
          have hr' := of_decide_eq_true ha
          rw [State.earlier, hr.count_lists hk hl, htoken] at hr'
          exact hr'
        show Scripted _ _ (Transfer.answers es ++ [r])
        rw [hvalue]
        exact ih.concat ⟨hr.enumerating ho, hlisting⟩
    | _ =>
      rw [answers_snoc_of_none es rfl]
      exact ih

/-- Reading a file follows a script. -/
theorem Played.reads (h : w.Played j disk es s) (i : Nat) :
    Scripted (fun rs => w.read i rs.length) ReadingOn (reads (eventsOf i es)) := by
  induction h with
  | start => exact .nil
  | @step es s e s' hp ha h ih =>
    cases h with
    | turn ht =>
      rw [eventsOf_snoc_of_ne es (by simp [ht.download?])]
      exact ih
    | @move k d d' fs hi hd hpm hm =>
      rcases eq_or_ne k i with rfl | hne
      -- Only events of the download itself belong to its series.
      · rw [eventsOf_snoc_self es hi]
        cases e with
        | read m r =>
          cases hi
          rw [reads_snoc]
          obtain ⟨fs', hrec⟩ := hp.run.chronicle.recorded k d hd
          have hg := hrec.history.grounds
          rw [hm.read_stage] at hg
          have hvalue : r = w.read k (Transfer.reads (eventsOf k es)).length := of_decide_eq_true ha
          show Scripted _ _ (Transfer.reads (eventsOf k es) ++ [r])
          rw [hvalue]
          exact ih.concat hg
        | _ =>
          rw [reads_snoc_of_none _ rfl]
          exact ih
      · rw [eventsOf_snoc_of_ne es (by simp [hi, hne])]
        exact ih

/-- Where ids differ, the calls for the content of a file follow a script. -/
theorem Played.streams (h : w.Played j disk es s)
    (hn : ((entriesListed es).map (·.id)).Nodup) {i : Nat} {d : Download}
    (hd : s.downloads[i]? = some d) :
    Scripted (fun rs => w.answer (.download d.entry.id) rs.length)
      (Retry.Trying j.policy d.entry.name) (streams (eventsOf i es)) := by
  induction h generalizing d with
  | start => cases hd
  | @step es s e s' hp ha h ih =>
    have hids : ((entriesListed es).map (·.id)).Nodup :=
      hn.sublist ((entriesListed_mono (pagesRead_grow es e)).sublist.map _)
    cases h with
    | turn ht =>
      rw [eventsOf_snoc_of_ne es (by simp [ht.download?])]
      rcases ht.onDownloads.origin hd with hd₀ | ⟨d₀, r, hd₀, -, rfl⟩ | ⟨rfl, hnew⟩
      · exact ih hids hd₀
      · exact ih (d := d₀) hids hd₀
      · rw [(hp.run.chronicle.unscheduled _ (Nat.le_refl _)).1]
        exact .nil
    | @move k d₀ d' fs hi hd₀ hpm hm =>
      rcases eq_or_ne k i with rfl | hne
      · obtain rfl : d = d' := by
          rw [State.advance, State.setDownload,
            List.getElem?_set_self (List.getElem?_eq_some_iff.1 hd₀).1] at hd
          exact (Option.some.inj hd).symm
        have hbefore := ih hids hd₀
        rw [eventsOf_snoc_self es hi, hm.entry_eq]
        cases e with
        | stream m r =>
          cases hi
          rw [streams_snoc]
          have hr := hp.run
          obtain ⟨fs', hrec⟩ := hr.chronicle.recorded k d₀ hd₀
          obtain ⟨n, hl⟩ := hm.stream_stage
          have hfetch := hrec.history.fetching
          rw [hl] at hfetch
          obtain ⟨cs, hf, -⟩ := hfetch
          have hstreams := hf.streams_eq
          rw [show LastFetch.answer? .pending = none from rfl, Option.toList_none,
            List.append_nil] at hstreams
          have hnodup : (s.downloads.map (·.entry.id)).Nodup := by
            have hsub := (hr.downloads_in_order.sublist.map (·.id))
            rw [List.map_map] at hsub
            exact hids.sublist hsub
          -- The call that is answered is the one behind those that failed.
          have hcount : s.earlier (.download d₀.entry.id) = cs.length := by
            rw [State.earlier, hr.count_fetched hnodup hd₀, fetchesOf, hf.events,
              List.countP_append, countP_failedFetches]
            rfl
          have hvalue : r = w.answer (.download d₀.entry.id)
              (Transfer.streams (eventsOf k es)).length := by
            rw [allows, hd₀] at ha
            have hr' := of_decide_eq_true ha
            rw [hcount] at hr'
            rw [hstreams, List.length_map]
            exact hr'
          show Scripted _ _ (Transfer.streams (eventsOf k es) ++ [r])
          rw [hvalue]
          exact hbefore.concat ⟨cs, hstreams, hf.retried⟩
        | _ =>
          rw [streams_snoc_of_none _ rfl]
          exact hbefore
      · rw [State.advance, State.setDownload, List.getElem?_set_ne hne] at hd
        rw [eventsOf_snoc_of_ne es (by simp [hi, hne])]
        exact ih hids hd

/-- The deletions follow a script. -/
theorem Played.removals (h : w.Played j disk es s) :
    Scripted (fun rs => w.answer (.delete j.folder) rs.length)
      (Retry.Trying j.policy j.folder) (removals es) := by
  induction h with
  | start => exact .nil
  | @step es s e s' hp ha h ih =>
    cases e with
    | removal r =>
      have hr := hp.run
      rw [removals_snoc]
      cases h with
      | move hi => cases hi
      | turn ht =>
        obtain ⟨n, hl⟩ := ht.removal_stage
        have hg := hr.grounds
        obtain ⟨k, hdel⟩ := hr.deleting
        have hat := hdel.attempted
        rw [hl] at hg hat
        obtain ⟨cs, hrs, htried, hn⟩ := hg
        have hlen : (Transfer.removals es).length = k - 1 := by
          rw [hrs, List.length_map, ← hat.1, show n = cs.length + 1 from hn, Nat.add_sub_cancel]
        have hvalue : r = w.answer (.delete j.folder) (Transfer.removals es).length := by
          have hr' := of_decide_eq_true ha
          rw [State.earlier, hdel.count_deletion, ← hlen] at hr'
          exact hr'
        show Scripted _ _ (Transfer.removals es ++ [r])
        rw [hvalue]
        exact ih.concat ⟨cs, hrs, htried⟩
    | _ =>
      rw [removals_snoc_of_none es rfl]
      exact ih

end Plays

end World

end FolderCopy.Transfer
