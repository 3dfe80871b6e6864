import FolderCopy.Drive.Connector
import FolderCopy.Proofs.Retry.Reference

/-!
# Verdicts on calls to the drive

A call to the drive is made under a policy, with a web whose answers are fixed in advance. What an
attempt gets is judged at once here, by the status and the body of a response or by an error; the
library comes to its verdict through the connector, the errors of calls and the policy. Main
statement: these are the same. The first final reply decides the result, and up to there each
attempt asks for one token and sends at most one request, made with that token.
-/

namespace FolderCopy.Drive

open Retry

/-- What the web answers, fixed in advance. The numbers count from one: the tokens by themselves,
and the calls that need a token by themselves. -/
structure WebScript where
  token : Nat → Except CallError String
  response : Nat → Except CallError Http.Response
  stream : Nat → Except CallError Unit

/-- What has been asked of the web so far. -/
structure Traffic where
  tokens : Nat
  sent : Nat
  log : List WebCall
  deriving DecidableEq

/-- What an attempt of a call gets. -/
inductive Reply : StoreCall → Type where
  /-- An error, of the token provider or of the web. -/
  | failed {c} (e : CallError) : Reply c
  | response {c} (r : Http.Response) : Reply c
  /-- A stream of content. -/
  | opened {id} : Reply (.download id)

/-- What a reply means. -/
inductive Meaning (α : Type) where
  | accepted (a : α)
  | missing
  | hopeless
  | passing

namespace Meaning

variable {α : Type}

/-- Whether no further attempt is made. -/
def IsFinal : Meaning α → Prop
  | .passing => False
  | .accepted _ | .missing | .hopeless => True

/-- Whether a result says what is meant. -/
def IsReported (resource : String) (budget : Nat) : Meaning α → Except CopyError α → Prop
  | .accepted a, r => r = .ok a
  | .missing, r => ∃ reason, r = .error (.notFound resource reason)
  | .hopeless, r => ∃ message, r = .error (.fatal message)
  | .passing, r => ∃ message, r = .error (.transient (max 1 budget) message)

end Meaning

/-- What a call accepts as the body of a response. -/
def accepted? : (c : StoreCall) → Bytes → Option c.Answer
  | .list .., body => (FileList.ofBytes? body).map FileList.toPage
  | .create .., body => createdIdOfBytes? body
  | .delete _, _ | .download _, _ => some ()

/-- What a reply to a call means. -/
def Reply.meaning : {c : StoreCall} → Reply c → Meaning c.Answer
  | _, .failed (.notFound _) | _, .failed (.httpStatus 404 _) => .missing
  | _, .failed (.unavailable _) | _, .failed (.invalidResponse _) => .hopeless
  | _, .failed (.httpStatus _ _) | _, .failed (.failed _) | _, .failed (.io _) => .passing
  | c, .response r =>
    if 200 ≤ r.status ∧ r.status ≤ 299 then
      match accepted? c r.body with
      | some a => .accepted a
      | none => .hopeless
    else if r.status = 404 then .missing
    else .passing
  | _, .opened => .accepted ()

namespace WebScript

def answer (w : WebScript) : (q : WebCall) → Traffic → Except CallError q.Answer × Traffic
  | .token, s =>
    (w.token (s.tokens + 1), { s with tokens := s.tokens + 1, log := s.log ++ [.token] })
  | .send r, s =>
    (w.response (s.sent + 1), { s with sent := s.sent + 1, log := s.log ++ [.send r] })
  | .stream r, s =>
    (w.stream (s.sent + 1), { s with sent := s.sent + 1, log := s.log ++ [.stream r] })

/-- The web, with a limiter that refuses nothing. -/
def host (w : WebScript) : Host WebCall WebCall.Answer Traffic where
  acquire s := (.ok (), s)
  release := id
  call := w.answer
  note _ s := s
  enter _ s := s
  leave s := s

/-- How many requests the attempts up to number `n` send: one for each token that is given. -/
def sent (w : WebScript) : Nat → Nat
  | 0 => 0
  | n + 1 => w.sent n + if (w.token (n + 1)).isOk then 1 else 0

/-- What the attempt number `n` of a call gets. -/
def reply (w : WebScript) (n : Nat) (c : StoreCall) : Reply c :=
  match w.token n with
  | .error e => .failed e
  | .ok _ =>
    match c with
    | .download _ =>
      match w.stream (w.sent n) with
      | .error e => .failed e
      | .ok () => .opened
    | _ =>
      match w.response (w.sent n) with
      | .error e => .failed e
      | .ok r => .response r

/-- What the attempt number `n` of a call asks of the web. -/
def asks (w : WebScript) (timeout : Nat) (c : StoreCall) (n : Nat) : List WebCall :=
  .token ::
    match w.token n with
    | .error _ => []
    | .ok token =>
      match c with
      | .download _ => [.stream (request timeout token c)]
      | _ => [.send (request timeout token c)]

end WebScript

section Meanings

/-- Whether the library takes the outcome of an attempt for what is meant. -/
def Meaning.IsTaken {α : Type} : Meaning α → Except CallError α → Prop
  | .accepted a, r => r = .ok a
  | .missing, r => ∃ e, r = .error e ∧ e.outlook = .absent
  | .hopeless, r => ∃ e, r = .error e ∧ e.outlook = .hopeless
  | .passing, r => ∃ e, r = .error e ∧ e.outlook = .passing

/-- An error means what it leaves to hope for, however it is worded. -/
lemma isTaken_failed {c : StoreCall} {e e' : CallError} (h : e'.outlook = e.outlook) :
    (Reply.failed e : Reply c).meaning.IsTaken (.error e') := by
  cases e with
  | notFound | unavailable | invalidResponse | failed | io => exact ⟨e', rfl, h⟩
  | httpStatus status m =>
    by_cases hs : status = 404
    · subst hs
      exact ⟨e', rfl, h⟩
    · have hmeaning : (Reply.failed (.httpStatus status m) : Reply c).meaning = .passing := by
        simp [Reply.meaning]
      rw [hmeaning]
      exact ⟨e', rfl, h.trans (if_neg hs)⟩

/-- An error of a stream leaves as much to hope for as the status that it stands for. -/
lemma outlook_streamError (id : String) (e : CallError) :
    (streamError id e).outlook = e.outlook := by
  cases e with
  | notFound | unavailable | invalidResponse | failed | io => rfl
  | httpStatus status m =>
    by_cases hs : status = 404
    · subst hs
      rfl
    · simp [streamError, Fault.ofStatus, hs, Fault.toCallError]

/-- A body is accepted or the response is of no use. -/
lemma answer_eq (c : StoreCall) (r : Http.Response) :
    match accepted? c r.body with
    | some a => answer c r = .ok a
    | none => ∃ m, answer c r = .error (.invalidResponse m) := by
  cases c with
  | list parent filter next =>
    simp only [accepted?, answer, readBody]
    cases FileList.ofBytes? r.body with
    | some l => rfl
    | none => exact ⟨_, rfl⟩
  | create name parent =>
    simp only [accepted?, answer, readBody]
    cases createdIdOfBytes? r.body with
    | some id => rfl
    | none => exact ⟨_, rfl⟩
  | delete id | download id => rfl

/-- What a response means is taken for its outcome. -/
lemma isTaken_response (c : StoreCall) (r : Http.Response) :
    (Reply.response r : Reply c).meaning.IsTaken (outcome c r) := by
  by_cases hs : 200 ≤ r.status ∧ r.status ≤ 299
  · have hsuccess : r.isSuccess := r.isSuccess_iff.2 hs
    have hanswer := answer_eq c r
    rw [outcome, if_pos hsuccess]
    simp only [Reply.meaning, if_pos hs]
    cases ha : accepted? c r.body with
    | some a =>
      rw [ha] at hanswer
      exact hanswer
    | none =>
      rw [ha] at hanswer
      obtain ⟨m, hm⟩ := hanswer
      exact ⟨_, hm, rfl⟩
  · have hsuccess : ¬ r.isSuccess := fun h => hs (r.isSuccess_iff.1 h)
    rw [outcome, if_neg hsuccess]
    simp only [Reply.meaning, if_neg hs, Fault.ofStatus]
    by_cases hmissing : r.status = 404
    · simp only [if_pos hmissing]
      exact ⟨_, rfl, rfl⟩
    · simp only [if_neg hmissing]
      exact ⟨_, rfl, if_neg hmissing⟩

end Meanings

namespace WebScript

/-- What the library makes of the answer to the request number `k`. -/
def received (w : WebScript) (k : Nat) : (c : StoreCall) → Except CallError c.Answer
  | .download id => (w.stream k).mapError (streamError id)
  | c => (w.response k).bind (Drive.outcome c)

/-- What the library takes for the outcome of the attempt number `n`. -/
def outcome (w : WebScript) (n : Nat) (c : StoreCall) : Except CallError c.Answer :=
  match w.token n with
  | .error e => .error e
  | .ok _ => w.received (w.sent n) c

/-- What an attempt gets is taken for its outcome. -/
lemma isTaken_outcome (w : WebScript) (n : Nat) (c : StoreCall) :
    (w.reply n c).meaning.IsTaken (w.outcome n c) := by
  unfold reply outcome
  cases w.token n with
  | error e => exact isTaken_failed rfl
  | ok token =>
    cases c with
    | download id =>
      simp only [received]
      cases w.stream (w.sent n) with
      | error e => exact isTaken_failed (outlook_streamError id e)
      | ok u => rfl
    | list | create | delete =>
      simp only [received]
      cases w.response (w.sent n) with
      | error e => exact isTaken_failed rfl
      | ok r => exact isTaken_response _ r

/-- What has been asked of the web after the attempt number `n`. -/
def traffic (w : WebScript) (timeout : Nat) (c : StoreCall) (n : Nat) : Traffic :=
  ⟨n, w.sent n, (List.range n).flatMap fun m => w.asks timeout c (m + 1)⟩

/-- One more attempt asks for what it asks for, after all before it. -/
lemma traffic_succ (w : WebScript) (timeout : Nat) (c : StoreCall) (n : Nat) :
    w.traffic timeout c (n + 1) = ⟨n + 1, w.sent (n + 1),
      (w.traffic timeout c n).log ++ w.asks timeout c (n + 1)⟩ := by
  simp [traffic, List.range_succ]

/-- Reports ahead of a dialogue are nothing to the web. -/
lemma run_notes (w : WebScript) {α : Type} (es : List Log.Event) (d : WebDialogue α) (s : Traffic) :
    (Dialogue.notes es d).run w.host s = d.run w.host s := by
  rw [Dialogue.run_notes]
  exact congrArg (d.run w.host) (Dialogue.foldl_note w.host (K := (· = s)) (fun _ _ => id) es rfl)

/-- A call without a body to stream sends one request, and its response decides. -/
lemma run_plain (w : WebScript) (timeout : Nat) (token : String) (c : StoreCall) (s : Traffic) :
    (exchange.plain timeout token c).run w.host s =
      ((w.response (s.sent + 1)).bind (Drive.outcome c),
        { s with sent := s.sent + 1, log := s.log ++ [.send (request timeout token c)] }) := by
  have hcall : w.host.call (.send (request timeout token c)) s = (w.response (s.sent + 1),
      { s with sent := s.sent + 1, log := s.log ++ [.send (request timeout token c)] }) := rfl
  rw [exchange.plain, Dialogue.run, hcall]
  cases w.response (s.sent + 1) with
  | error e => rfl
  | ok r => exact w.run_notes _ _ _

/-- An exchange asks for a token and, where it has got one, sends its request. -/
lemma run_exchange (w : WebScript) (timeout : Nat) (token : String) (c : StoreCall) (s : Traffic) :
    (exchange timeout token c).run w.host s = (w.received (s.sent + 1) c,
      { s with
        sent := s.sent + 1
        log := s.log ++ match c with
          | .download _ => [.stream (request timeout token c)]
          | _ => [.send (request timeout token c)] }) := by
  cases c with
  | download id => rfl
  | list | create | delete => exact w.run_plain timeout token _ s

/-- One attempt of a call. -/
lemma run_perform (w : WebScript) (timeout : Nat) (c : StoreCall) (n : Nat) :
    (perform timeout c).run w.host (w.traffic timeout c n) =
      (w.outcome (n + 1) c, w.traffic timeout c (n + 1)) := by
  have hcall (s : Traffic) : w.host.call .token s =
      (w.token (s.tokens + 1), { s with tokens := s.tokens + 1, log := s.log ++ [.token] }) := rfl
  have hrun (s : Traffic) : (perform timeout c).run w.host s =
      (match w.token (s.tokens + 1) with
        | .error e => .done (.error e)
        | .ok token => exchange timeout token c : WebDialogue _).run w.host
        { s with tokens := s.tokens + 1, log := s.log ++ [.token] } := by
    rw [perform, Dialogue.within, Dialogue.run, Dialogue.run_bind]
    rfl
  rw [hrun, traffic_succ, outcome, asks]
  simp only [traffic]
  cases ht : w.token (n + 1) with
  | error e => simp [Dialogue.run, sent, ht, Except.isOk, Except.toBool]
  | ok token =>
    have hsent : w.sent (n + 1) = w.sent n + 1 := by
      simp [sent, ht, Except.isOk, Except.toBool]
    simp only [run_exchange, hsent, List.append_assoc, List.singleton_append]

end WebScript

section Policies

/-- The web as what the calls of a policy come to. -/
def WebScript.toScript (w : WebScript) : Retry.Script StoreCall StoreCall.Answer where
  admission _ := .ok ()
  outcome := w.outcome

/-- The drive answers as the outcomes of the attempts say. -/
lemma WebScript.simulates (w : WebScript) (timeout : Nat) (c : StoreCall) :
    (Drive.host timeout w.host).Simulates w.toScript.host (· = c)
      (fun s asked => s = w.traffic timeout c asked.calls.length) where
  acquire _ _ hs := ⟨rfl, hs⟩
  release _ _ hs := hs
  note _ _ _ hs := hs
  enter _ _ _ hs := hs
  leave _ _ hs := hs
  call q hq s asked hs := by
    subst hq hs
    have hrun : (Drive.host timeout w.host).call q (w.traffic timeout q asked.calls.length) = _ :=
      w.run_perform timeout q asked.calls.length
    rw [hrun]
    simp [Script.host, toScript]

/-- Attempts end with the first one that leaves nothing to hope for, or with the budget. -/
lemma ends_iff {Q : Type} {A : Q → Type} {s : Script Q A} {q : Q} {budget n : Nat}
    (ha : s.admission n = .ok ()) : s.Ends q budget n ↔
      (∀ e, s.outcome n q = .error e → e.outlook ≠ .passing) ∨ n = max 1 budget := by
  constructor
  · intro h
    by_cases hn : n = max 1 budget
    · exact .inr hn
    · left
      intro e he hpassing
      exact hn (h.eq_budget ha he (by simp [CallError.isRetryable, hpassing]))
  · rintro (h | h)
    · cases ho : s.outcome n q with
      | ok a => exact .succeeded ho
      | error e =>
        have he := h e ho
        cases e with
        | notFound r => exact .notFound ho
        | invalidResponse m => exact .invalidResponse ho
        | unavailable m => exact .unavailable ho
        | failed m | io m => exact absurd rfl he
        | httpStatus status m =>
          by_cases hs : status = 404
          · subst hs
            exact .status404 ho
          · exact absurd (if_neg hs) he
    · exact .spent h

/-- An error is reported by what it leaves to hope for. -/
lemma reported_eq (resource : String) (budget : Nat) (e : CallError) :
    Script.reported resource budget e =
      match e.outlook with
      | .absent => .notFound resource e.message
      | .hopeless => .fatal (resource ++ ": " ++ e.message)
      | .passing => .transient (max 1 budget) (resource ++ ": " ++ e.message) := by
  cases e with
  | notFound | unavailable | invalidResponse | failed | io => rfl
  | httpStatus status m =>
    by_cases hs : status = 404
    · subst hs
      rfl
    · simp [Script.reported, CallError.outlook, hs]

/-- What is meant is final just where the library goes no further. -/
lemma Meaning.IsTaken.isFinal_iff {α : Type} {m : Meaning α} {r : Except CallError α}
    (h : m.IsTaken r) : m.IsFinal ↔ ∀ e, r = .error e → e.outlook ≠ .passing := by
  cases m with
  | accepted a =>
    subst h
    simp [IsFinal]
  | missing | hopeless | passing =>
    obtain ⟨e, rfl, he⟩ := h
    simp [IsFinal, he]

/-- What is taken is reported as it is meant. -/
lemma Meaning.IsTaken.isReported {α : Type} {m : Meaning α} {r : Except CallError α}
    (h : m.IsTaken r) (resource : String) (budget : Nat) :
    m.IsReported resource budget (r.mapError (Script.reported resource budget)) := by
  cases m with
  | accepted a =>
    subst h
    rfl
  | missing =>
    obtain ⟨e, rfl, he⟩ := h
    exact ⟨e.message, congrArg Except.error (by rw [reported_eq, he])⟩
  | hopeless | passing =>
    obtain ⟨e, rfl, he⟩ := h
    exact ⟨resource ++ ": " ++ e.message, congrArg Except.error (by rw [reported_eq, he])⟩

end Policies

/-- Every request carries the token. -/
lemma header?_request (timeout : Nat) (token : String) (c : StoreCall) :
    (request timeout token c).header? "Authorization" = some ("Bearer " ++ token) := by
  cases c <;> rfl

/-- A call under a policy is made up to the first attempt whose reply is final, and at most as often
as the budget says; what this reply means is the result. Each attempt asks for a token once and, if
there is one, sends one request, which carries this token; only a download has no time limit. -/
theorem call_judged (w : WebScript) (timeout budget : Nat) (resource : String) (c : StoreCall) :
    (∃ n, IsLeast {m | 1 ≤ m ∧ ((w.reply m c).meaning.IsFinal ∨ m = max 1 budget)} n ∧
      (w.reply n c).meaning.IsReported resource budget
        (((Policy.ofNat budget).run resource c).run (host timeout w.host) ⟨0, 0, []⟩).1 ∧
      (((Policy.ofNat budget).run resource c).run (host timeout w.host) ⟨0, 0, []⟩).2.log =
        (List.range n).flatMap fun m => w.asks timeout c (m + 1)) ∧
    ∀ token, (request timeout token c).header? "Authorization" = some ("Bearer " ++ token) ∧
      (request timeout token c).timeout =
        match c with
        | .download _ => none
        | .list .. | .create .. | .delete _ => some timeout := by
  have hends (m : Nat) : w.toScript.Ends c budget m ↔
      (w.reply m c).meaning.IsFinal ∨ m = max 1 budget := by
    rw [(w.isTaken_outcome m c).isFinal_iff]
    exact ends_iff rfl
  refine ⟨?_, fun token => ⟨header?_request timeout token c, by cases c <;> rfl⟩⟩
  obtain ⟨n, hn, hrun⟩ := Script.run_ofNat_reference w.toScript budget resource c
  obtain ⟨hresult, htraffic⟩ := Dialogue.run_simulates (w.simulates timeout c)
    ((Policy.ofNat budget).run_calls resource c) (s := ⟨0, 0, []⟩) (t := ⟨0, []⟩) rfl
  simp only [hends] at hn
  rw [hrun] at hresult htraffic
  have hadmitted : w.toScript.admission n = .ok () := rfl
  refine ⟨n, hn, ?_, ?_⟩
  · rw [hresult]
    simp only [Script.reference, hadmitted]
    exact (w.isTaken_outcome n c).isReported resource budget
  · rw [htraffic]
    simp [Script.invocations, hadmitted, WebScript.traffic]

/-- A deletion that gets no token, then no answer but status 503, and then succeeds. -/
example :
    let w : WebScript :=
      { token := fun n => if n = 1 then .error (.failed "expired") else .ok "tok"
        response := fun n => .ok ⟨if n = 1 then 503 else 204, []⟩
        stream := fun _ => .ok () }
    let r := ((Policy.ofNat 3).run "y.txt" (.delete "id")).run (host 30000 w.host) ⟨0, 0, []⟩
    r.1 = .ok () ∧ r.2.tokens = 3 ∧ r.2.sent = 2 := ⟨rfl, rfl, rfl⟩

end FolderCopy.Drive
