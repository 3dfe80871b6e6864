import Mathlib.Tactic.Lemma
import FolderCopy.Transfer.Step

/-!
# Inversion of the steps of a transfer

`step` and `Download.step` are functions with many branches. Here each of them is inverted once:
`Download.Move` and `Turn` list the ways in which a download and the main loop can go on, with what
holds before and what is left behind. What every step keeps is proved by cases on these relations.
-/

namespace FolderCopy

namespace Retry

/-- A successful attempt settles the call. -/
@[simp]
lemma Policy.after_ok {α : Type} (p : Policy) (resource : String) (n : Nat) (a : α) :
    p.after resource n (.ok a) = .inl (.ok a) := rfl

/-- A call goes on only after a failed attempt, at the next attempt, and within the policy. -/
lemma Policy.after_inr {α : Type} {p : Policy} {resource : String} {n : Nat}
    {r : Except CallError α} {next : Stage} (h : p.after resource n r = .inr next) :
    ∃ e, r = .error e ∧ n < p.maxAttempts ∧ next = .asking (n + 1) := by
  unfold Policy.after at h
  split at h
  case h_1 => cases h
  case h_2 e hv =>
    split at h
    case isFalse => cases h
    case isTrue hn =>
      cases h
      -- Only a failed attempt is judged at all.
      cases r with
      | ok a => cases hv
      | error e => exact ⟨e, rfl, hn, rfl⟩

/-- A call that is settled with a result was successful in its last attempt. -/
lemma Policy.after_inl_ok {α : Type} {p : Policy} {resource : String} {n : Nat}
    {r : Except CallError α} {a : α} (h : p.after resource n r = .inl (.ok a)) : r = .ok a := by
  cases r with
  | ok b =>
    cases h
    rfl
  | error e =>
    unfold Policy.after verdict at h
    cases ho : e.outlook <;> simp only [ho] at h
    · cases h
    · cases h
    · split at h <;> cases h

/-- A call that is settled with an error failed in its last attempt, and was not cancelled. -/
lemma Policy.after_inl_error {α : Type} {p : Policy} {resource : String} {n : Nat}
    {r : Except CallError α} {e : CopyError} (h : p.after resource n r = .inl (.error e)) :
    (∃ c, r = .error c) ∧ e ≠ .cancelled := by
  cases r with
  | ok b => cases h
  | error c =>
    refine ⟨⟨c, rfl⟩, ?_⟩
    unfold Policy.after verdict at h
    cases ho : c.outlook <;> simp only [ho] at h
    · cases h
      exact nofun
    · cases h
      exact nofun
    · split at h <;> cases h
      exact nofun

end Retry

namespace Transfer

/-! ## Downloads -/

/-- The ways in which a download goes on: the event, the download after it, and what else it
does. -/
inductive Download.Move (j : Job) (d : Download) : Event → Download → List Effect → Prop where
  | granted {a n} (h : d.stage = .fetching (.asking n)) :
    Move j d (.admission a (.ok ())) (d.at_ (.fetching (.admitted n))) []
  | refused {a n e} (h : d.stage = .fetching (.asking n)) :
    Move j d (.admission a (.error e)) (d.fail (Retry.refused e)) []
  | started {a n} (h : d.stage = .fetching (.admitted n)) :
    Move j d (.start a) (d.at_ (.fetching (.calling n))) [.call (.store (.download d.entry.id))]
  | fetched {i n} (h : d.stage = .fetching (.calling n)) :
    Move j d (.stream i (.ok ())) (d.at_ .opening) [.call (.openFile (j.target d.entry))]
  | notFetched {i n c e} (h : d.stage = .fetching (.calling n))
    (he : j.policy.after (α := Unit) d.entry.name n (.error c) = .inl (.error e)) :
    Move j d (.stream i (.error c)) (d.fail e) []
  | retried {i n c} (h : d.stage = .fetching (.calling n))
    (hr : j.policy.after (α := Unit) d.entry.name n (.error c) = .inr (.asking (n + 1))) :
    Move j d (.stream i (.error c)) (d.at_ (.fetching (.asking (n + 1)))) []
  | opened {i} (h : d.stage = .opening) :
    Move j d (.opened i (.ok ())) (d.at_ .reading) [.empty]
  | notOpened {i e} (h : d.stage = .opening) :
    Move j d (.opened i (.error e)) (d.fail (d.localFailure j "open" e.message)) []
  | gave {i chunk} (h : d.stage = .reading) (hne : chunk ≠ []) (hle : chunk.length ≤ chunkLimit) :
    Move j d (.read i (.ok chunk))
      { d with stage := .writing chunk chunk, served := d.served ++ chunk } []
  | ended {i} (h : d.stage = .reading) :
    Move j d (.read i (.ok [])) (d.at_ .closing) [.call (.closeFile (j.target d.entry))]
  | brokeOff {i m} (h : d.stage = .reading) :
    Move j d (.read i (.error m)) (d.fail (d.interrupted m)) []
  | stored {i n chunk left} (h : d.stage = .writing chunk left) (hn : 0 < n ∧ n < left.length) :
    Move j d (.stored i n) (d.at_ (.writing chunk (left.drop n))) [.store (left.take n)]
  | written {i chunk left} (h : d.stage = .writing chunk left) :
    Move j d (.written i (.ok ())) (d.at_ .reading)
      [.store left, .report (.received chunk.length)]
  | notWritten {i chunk left n m} (h : d.stage = .writing chunk left) :
    Move j d (.written i (.error (n, m))) (d.fail (d.localFailure j "write" m))
      [.store (left.take n)]
  | closed {i} (h : d.stage = .closing) :
    Move j d (.closed i (.ok ())) (d.at_ (.finished (.ok ()))) [.report .completed]
  | notClosed {i m} (h : d.stage = .closing) :
    Move j d (.closed i (.error m)) (d.fail (d.localFailure j "close" m)) []
  | abandoned {i} (h : d.isRunning) :
    Move j d (.abandon i) (d.at_ .abandoned) []

/-- The steps of a download are its moves. -/
lemma Download.step_eq_some_iff {j : Job} {d d' : Download} {e : Event} {fs : List Effect} :
    d.step j e = some (d', fs) ↔ Download.Move j d e d' fs := by
  constructor
  · intro h
    cases e with
    | admission a r =>
      simp only [step] at h
      split at h <;> cases h
      case h_1 hs => exact .granted hs
      case h_2 hs => exact .refused hs
    | start a =>
      simp only [step] at h
      split at h <;> cases h
      case h_1 hs => exact .started hs
    | stream i r =>
      simp only [step] at h
      split at h <;> try cases h
      case h_1 n hs =>
        split at h <;> cases h
        case h_1 hr =>
          cases Retry.Policy.after_inl_ok hr
          exact .fetched hs
        case h_2 e he =>
          obtain ⟨⟨c, rfl⟩, -⟩ := Retry.Policy.after_inl_error he
          exact .notFetched hs he
        case h_3 next hr =>
          obtain ⟨c, rfl, -, rfl⟩ := Retry.Policy.after_inr hr
          exact .retried hs hr
    | opened i r =>
      simp only [step] at h
      split at h <;> cases h
      case h_1 hs => exact .opened hs
      case h_2 hs => exact .notOpened hs
    | read i r =>
      simp only [step] at h
      split at h
      case h_1 hs =>
        cases h
        exact .ended hs
      case h_2 chunk hne hs =>
        split at h <;> cases h
        case isTrue hle => exact .gave hs hne hle
      case h_3 hs =>
        cases h
        exact .brokeOff hs
      case h_4 => cases h
    | stored i n =>
      simp only [step] at h
      split at h <;> try cases h
      case h_1 hs =>
        split at h <;> cases h
        case isTrue hn => exact .stored hs hn
    | written i r =>
      simp only [step] at h
      split at h <;> cases h
      case h_1 hs => exact .written hs
      case h_2 hs => exact .notWritten hs
    | closed i r =>
      simp only [step] at h
      split at h <;> cases h
      case h_1 hs => exact .closed hs
      case h_2 hs => exact .notClosed hs
    | abandon i =>
      simp only [step] at h
      split at h
      case isTrue hr =>
        cases h
        exact .abandoned hr
      case isFalse => cases h
    | _ => cases h
  · intro h
    cases h with
    | gave h hne hle =>
      -- `step` tells the end of the content by the shape of the chunk.
      rename_i i chunk
      cases chunk with
      | nil => exact absurd rfl hne
      | cons b bs => simp only [step, h, hle, if_true]
    | notFetched h he => simp only [step, h, he]
    | retried h hr => simp only [step, h, hr]
    | stored h hn => simp [step, h, hn]
    | abandoned h => simp [step, h]
    | _ => simp [step, *]

/-! ## The main loop -/

/-- A call that the main loop makes with retries. -/
inductive Task where
  /-- The next page of the listing that counts the files. -/
  | counting (c : Cursor) (t : Totals)
  /-- The next page of the listing of the files to download. -/
  | paging
  /-- The deletion of the folder. -/
  | cleaning

namespace Task

/-- The stage of the main loop while a call is made. -/
def stage : Task → Retry.Stage → Stage
  | .counting c t => .counting c t
  | .paging => .paging
  | .cleaning => .cleaning

/-- The call itself. -/
def call (j : Job) (s : State) : Task → StoreCall
  | .counting c _ => .list (some j.folder) .files c.token
  | .paging => .list (some j.folder) .files s.cursor.token
  | .cleaning => .delete j.folder

/-- Whether a call asks for a page. -/
def lists : Task → Bool
  | .cleaning => false
  | _ => true

end Task

/-- The ways in which the main loop or the consumer goes on, and what they leave behind. -/
inductive Turn (j : Job) (s : State) : Event → State → Prop where
  | created (h : s.stage = .creating) :
    Turn j s (.directory (.ok ())) { s with stage := .counting .start .zero .first }
  | notCreated {e} (h : s.stage = .creating) :
    Turn j s (.directory (.error e)) (s.fail (.localFailure "create" j.destination e.message))
  | granted {k n} (h : s.stage = Task.stage k (.asking n)) :
    Turn j s (.admission .main (.ok ())) { s with stage := k.stage (.admitted n) }
  | refused {k n e} (h : s.stage = Task.stage k (.asking n)) (hk : k.lists) :
    Turn j s (.admission .main (.error e)) (s.fail (Retry.refused e))
  | deletionRefused {n e} (h : s.stage = .cleaning (.asking n)) :
    Turn j s (.admission .main (.error e))
      (s.complete (.failed (Retry.refused e).statusMessage))
  | started {k n} (h : s.stage = Task.stage k (.admitted n)) :
    Turn j s (.start .main)
      ({ s with stage := k.stage (.calling n) }.calling (.store (k.call j s)))
  | counted {c t n p} (h : s.stage = .counting c t (.calling n)) :
    Turn j s (.page (.ok p)) (s.countPage t p)
  | supplied {n p} (h : s.stage = .paging (.calling n)) :
    Turn j s (.page (.ok p))
      ({ s with cursor := .after p, listed := s.listed ++ p.entries }.supply p.entries)
  | notListed {k n c e} (h : s.stage = Task.stage k (.calling n)) (hk : k.lists)
    (he : j.policy.after (α := Page) j.folder n (.error c) = .inl (.error e)) :
    Turn j s (.page (.error c)) (s.fail e)
  | listedAgain {k n c} (h : s.stage = Task.stage k (.calling n)) (hk : k.lists)
    (hr : j.policy.after (α := Page) j.folder n (.error c) = .inr (.asking (n + 1))) :
    Turn j s (.page (.error c)) { s with stage := k.stage (.asking (n + 1)) }
  | deleted {n} (h : s.stage = .cleaning (.calling n)) :
    Turn j s (.removal (.ok ())) (s.complete .deleted)
  | notDeleted {n c e} (h : s.stage = .cleaning (.calling n))
    (he : j.policy.after (α := Unit) j.folder n (.error c) = .inl (.error e)) :
    Turn j s (.removal (.error c)) (s.complete (.failed e.statusMessage))
  | deletedAgain {n c} (h : s.stage = .cleaning (.calling n))
    (hr : j.policy.after (α := Unit) j.folder n (.error c) = .inr (.asking (n + 1))) :
    Turn j s (.removal (.error c)) { s with stage := .cleaning (.asking (n + 1)) }
  | joined {i d} (h : s.stage = .looping) (hd : s.downloads[i]? = some d)
    (hj : d.joined = false) (hf : d.stage = .finished (.ok ())) :
    Turn j s (.join i) (s.setDownload i { d with joined := true })
  | failed {i d e} (h : s.stage = .looping) (hd : s.downloads[i]? = some d)
    (hj : d.joined = false) (hf : d.stage = .finished (.error e)) :
    Turn j s (.join i) ((s.setDownload i { d with joined := true }).fail e)
  | acquired (h : s.stage = .looping) (hx : s.exhausted = false) (hf : s.free ≠ 0) :
    Turn j s .acquire ({ s with free := s.free - 1 }.supply s.page)
  | folded {c} (h : s.stage = .looping) (hc : s.deltas[s.folded]? = some c) :
    Turn j s .fold { s with
      progress := s.progress.apply c.delta
      folded := s.folded + 1
      stage := .sending (.ofSnapshot (s.progress.apply c.delta)) .loop }
  | drained (h : s.stage = .looping) (hd : s.isDrained) :
    Turn j s .drain (s.settle j)
  | sent {r next} (h : s.stage = .sending r next) (hl : s.listening)
    (hc : s.channel.length < channelLimit) :
    Turn j s .send
      ({ s with channel := s.channel ++ [r], sent := s.sent ++ [r] }.resume j next)
  | unheard {r next} (h : s.stage = .sending r next) (hl : s.listening = false) :
    Turn j s .send { s with stage := .ended }
  | took {r rest} (h : s.channel = r :: rest) :
    Turn j s .take { s with channel := rest, received := s.received ++ [r] }
  | hungUp (hl : s.listening) :
    Turn j s .hangUp { s with listening := false, channel := [] }
  | cancelled (hl : s.listening = false) (ho : s.stage.isOver = false) :
    Turn j s .cancel { s with stage := .ended }

/-- To take an admission is one of the turns. -/
lemma Turn.of_takeAdmission {j : Job} {s s' : State} {r : Except CallError Unit}
    (h : s.takeAdmission r = some s') : Turn j s (.admission .main r) s' := by
  unfold State.takeAdmission at h
  split at h <;> cases h
  case h_1 c t n hs => exact .granted (k := .counting c t) hs
  case h_2 n hs => exact .granted (k := .paging) hs
  case h_3 n hs => exact .granted (k := .cleaning) hs
  case h_4 c t n e hs => exact .refused (k := .counting c t) hs rfl
  case h_5 n e hs => exact .refused (k := .paging) hs rfl
  case h_6 n e hs => exact .deletionRefused hs

/-- To start a call is one of the turns. -/
lemma Turn.of_startCall {j : Job} {s s' : State} (h : s.startCall j = some s') :
    Turn j s (.start .main) s' := by
  unfold State.startCall at h
  split at h <;> cases h
  case h_1 c t n hs => exact .started (k := .counting c t) hs
  case h_2 n hs => exact .started (k := .paging) hs
  case h_3 n hs => exact .started (k := .cleaning) hs

/-- To take a page is one of the turns. -/
lemma Turn.of_takePage {j : Job} {s s' : State} {r : Except CallError Page}
    (h : s.takePage j r = some s') : Turn j s (.page r) s' := by
  unfold State.takePage at h
  split at h <;> try cases h
  case h_1 c t n hs =>
    split at h <;> cases h
    case h_1 p hr =>
      cases Retry.Policy.after_inl_ok hr
      exact .counted hs
    case h_2 e he =>
      obtain ⟨⟨c', rfl⟩, -⟩ := Retry.Policy.after_inl_error he
      exact .notListed (k := .counting c t) hs rfl he
    case h_3 next hr =>
      obtain ⟨c', rfl, -, rfl⟩ := Retry.Policy.after_inr hr
      exact .listedAgain (k := .counting c t) hs rfl hr
  case h_2 n hs =>
    split at h <;> cases h
    case h_1 p hr =>
      cases Retry.Policy.after_inl_ok hr
      exact .supplied hs
    case h_2 e he =>
      obtain ⟨⟨c', rfl⟩, -⟩ := Retry.Policy.after_inl_error he
      exact .notListed (k := .paging) hs rfl he
    case h_3 next hr =>
      obtain ⟨c', rfl, -, rfl⟩ := Retry.Policy.after_inr hr
      exact .listedAgain (k := .paging) hs rfl hr

/-- To take the answer to a deletion is one of the turns. -/
lemma Turn.of_takeRemoval {j : Job} {s s' : State} {r : Except CallError Unit}
    (h : s.takeRemoval j r = some s') : Turn j s (.removal r) s' := by
  unfold State.takeRemoval at h
  split at h <;> try cases h
  case h_1 n hs =>
    split at h <;> cases h
    case h_1 hr =>
      cases Retry.Policy.after_inl_ok hr
      exact .deleted hs
    case h_2 e he =>
      obtain ⟨⟨c', rfl⟩, -⟩ := Retry.Policy.after_inl_error he
      exact .notDeleted hs he
    case h_3 next hr =>
      obtain ⟨c', rfl, -, rfl⟩ := Retry.Policy.after_inr hr
      exact .deletedAgain hs hr

/-- To join a download is one of the turns. -/
lemma Turn.of_join {j : Job} {s s' : State} {i : Nat} (h : s.join i = some s') :
    Turn j s (.join i) s' := by
  unfold State.join at h
  split at h <;> try cases h
  case h_1 d hs hd =>
    split at h <;> try cases h
    case h_1 r hf =>
      split at h
      case isTrue => cases h
      case isFalse hj =>
        have hj : d.joined = false := by simpa using hj
        cases r <;> cases h
        case error e => exact .failed hs hd hj hf
        case ok => exact .joined hs hd hj hf

/-- A turn that the main loop takes by itself, or one of the consumer. -/
lemma Turn.of_step {j : Job} {s s' : State} {e : Event} (he : e.download? = none)
    (h : step j s e = some s') : Turn j s e s' := by
  cases e with
  | directory r =>
    simp only [Transfer.step] at h
    split at h <;> cases h
    case h_1 hs => exact .created hs
    case h_2 hs => exact .notCreated hs
  | admission a r =>
    cases a with
    | main => exact .of_takeAdmission h
    | download i => cases he
  | start a =>
    cases a with
    | main => exact .of_startCall h
    | download i => cases he
  | page r => exact .of_takePage h
  | removal r => exact .of_takeRemoval h
  | join i => exact .of_join h
  | acquire =>
    simp only [Transfer.step, State.acquire] at h
    split at h <;> try cases h
    case h_1 hs =>
      split at h
      case isTrue => cases h
      case isFalse hx =>
        cases h
        obtain ⟨hx, hf⟩ : s.exhausted = false ∧ ¬ s.free = 0 := by simpa using hx
        exact .acquired hs hx hf
  | fold =>
    simp only [Transfer.step, State.fold] at h
    split at h <;> cases h
    case h_1 hs hc => exact .folded hs hc
  | drain =>
    simp only [Transfer.step, State.drain] at h
    split at h <;> try cases h
    case h_1 hs =>
      split at h
      case isFalse => cases h
      case isTrue hd =>
        cases h
        exact .drained hs hd
  | send =>
    simp only [Transfer.step, State.send] at h
    split at h <;> try cases h
    case h_1 r next hs =>
      split at h
      case isTrue hl =>
        cases h
        exact .unheard hs (by simpa using hl)
      case isFalse hl =>
        split at h
        case isFalse => cases h
        case isTrue hc =>
          cases h
          exact .sent hs (by simpa using hl) hc
  | take =>
    simp only [Transfer.step, State.take] at h
    split at h <;> cases h
    case h_2 hc => exact .took hc
  | hangUp =>
    simp only [Transfer.step, State.hangUp] at h
    split at h
    case isFalse => cases h
    case isTrue hl =>
      cases h
      exact .hungUp hl
  | cancel =>
    simp only [Transfer.step, State.cancel] at h
    split at h
    case isTrue => cases h
    case isFalse hc =>
      cases h
      obtain ⟨hl, ho⟩ : s.listening = false ∧ s.stage.isOver = false := by simpa using hc
      exact .cancelled hl ho
  -- The rest are events of downloads.
  | stream i r => cases he
  | opened i r => cases he
  | read i r => cases he
  | stored i n => cases he
  | written i r => cases he
  | closed i r => cases he
  | abandon i => cases he

/-- No turn of the main loop or the consumer is an event of a download. -/
lemma Turn.download? {j : Job} {s s' : State} {e : Event} (h : Turn j s e s') :
    e.download? = none := by
  cases h <;> rfl

end Transfer

end FolderCopy
