import Mathlib.Algebra.GroupWithZero.Nat
import Mathlib.Data.List.Induction
import FolderCopy.Proofs.Enumeration.Reading

/-!
# The forms of an enumeration

A folder is enumerated as a whole list, entry by entry, or for its totals only. All three make the
requests of one and the same reading of the listing, and differ in what they make of its pages.
-/

namespace FolderCopy.Enumeration

open Retry Listing

/-- Totals count the entries and add up their sizes, an unknown size being none, as far as a count
of 64 bits goes. -/
lemma totalsOf_eq_wrap (es : List Entry) :
    totalsOf es =
      ⟨Totals.wrap es.length, Totals.wrap (es.map (·.size.getD 0)).sum⟩ := by
  induction es using List.reverseRecOn with
  | nil => rfl
  | append_singleton es e ih =>
    rw [totalsOf, List.foldl_append, ← totalsOf, ih]
    simp [Totals.record, Totals.wrap]

/-- If all entries are wanted, all pages are needed. -/
lemma needed_none (ps : List Page) : needed none ps = ps.length := by
  induction ps with
  | nil => rfl
  | cons page ps ih => exact congrArg Nat.succ ih

section Hosts

variable {σ : Type} {h : Host StoreCall StoreCall.Answer σ} {p : Policy} {folder : String}
  {filter : Filter} {coming : σ → Option String → List Page → Prop} {s : σ} {ps : List Page}
  {R : Reading} {limit : Nat}

/-- A reading without failure has read all pages. -/
lemma pages_eq (hR : R.Follows p (asks folder filter none ps))
    (hpages : R.pages = ps.take R.answered.length) (hn : R.failed = none) : R.pages = ps := by
  rw [hpages, hR.complete hn, length_asks, List.take_length]

/-- A value that is made of all pages. -/
lemma Serves.yields (hR : R.Follows p (asks folder filter none ps))
    (hpages : R.pages = ps.take R.answered.length)
    (hserves : Serves h p folder filter ps .start s R) (hlimit : ps.length ≤ limit) {α : Type}
    (f : List Page → α) :
    ((Enumeration.pages p folder filter limit .start).bind fun r =>
      .done (r.2.result? (f r.1))).Yields h s R.exchanges (some (R.answer (f ps))) := by
  obtain ⟨ending, hyields, he, hfinished⟩ := hserves.pages limit
  rw [hR.upTo_eq (by rwa [length_asks])] at hyields he
  refine hyields.bind_done (congrArg Dialogue.done ?_)
  unfold Reading.answer
  cases hf : R.failed with
  | none =>
    rw [hfinished hlimit hf, pages_eq hR hpages hf]
    rfl
  | some e =>
    rw [Reading.error?, hf] at he
    cases ending with
    | failed e' =>
      cases he
      rfl
    | finished | stopped c => cases he

/-- A listing of linked pages is enumerated page by page, by one reading `R` that all forms share:
each page is asked for with the token that the one before it names, once and in the order of the
chain, failed attempts apart, which repeat the token. Within the budget no page is given up, and the
result is the same however the entries are split into pages. The error of a page that is given up is
the result, after the entries of the pages before it, and no later page is asked for. Who takes some
pages or entries only asks for no page after those. -/
theorem forms_agree (hl : Lists h folder filter coming) (hps : Linked ps) (hs : coming s none ps)
    {es : List Entry} (hes : entriesOf ps = es) (hlimit : ps.length ≤ limit) :
    ∃ R : Reading, R.Follows p (asks folder filter none ps) ∧
      R.pages = ps.take R.answered.length ∧ (R.failed = none → R.pages = ps) ∧
      (WithinBudget p.maxAttempts R.exchanges → R.failed = none) ∧
      (listAll p folder filter limit).Yields h s R.exchanges (some (R.answer es)) ∧
      (∀ n, ∃ ending, (pages p folder filter n .start).Yields h s (R.upTo n).exchanges
        ((R.upTo n).pages, ending)) ∧
      (filter = .files →
        (totals p folder limit).Yields h s R.exchanges (some (R.answer (totalsOf es))) ∧
        (entries p folder limit none .start).Yields h s R.exchanges
          (entriesOf R.pages, R.error?) ∧
        ∀ n, (entries p folder limit (some n) .start).Yields h s
          (R.upTo (needed (some n) ps)).exchanges
          ((entriesOf (R.upTo (needed (some n) ps)).pages).take n,
            (R.upTo (needed (some n) ps)).error?)) ∧
      (es.length ≤ maxCount → (es.map (·.size.getD 0)).sum ≤ maxCount →
        totalsOf es = ⟨es.length, (es.map (·.size.getD 0)).sum⟩) := by
  subst hes
  obtain ⟨R, hR, hpages, hserves⟩ := exists_reading (p := p) hl (c := .start) nofun hps hs
  refine ⟨R, hR, hpages, pages_eq hR hpages, hR.failed_eq_none,
    hserves.yields hR hpages hlimit entriesOf, ?_, ?_, ?_⟩
  · intro n
    obtain ⟨ending, hyields, -, -⟩ := hserves.pages n
    exact ⟨ending, hyields⟩
  · rintro rfl
    refine ⟨hserves.yields hR hpages hlimit fun ps => totalsOf (entriesOf ps), ?_, ?_⟩
    · have hall := hserves.entries rfl limit none hlimit
      rwa [needed_none, hR.upTo_eq (Nat.le_of_eq (length_asks ..))] at hall
    · exact fun n => hserves.entries rfl limit (some n) hlimit
  · intro hcount hbytes
    rw [totalsOf_eq_wrap, Totals.wrap, Totals.wrap, Nat.mod_eq_of_lt (Nat.lt_succ_of_le hcount),
      Nat.mod_eq_of_lt (Nat.lt_succ_of_le hbytes)]

end Hosts

/-- Where a store that gives out one listing stands: which of the next requests fail, and the pages
that are left, with the token for the first of them. -/
structure Outlet where
  failures : List (Option CallError)
  token : Option String
  pages : List Page

/-- The first of the pages that are left, for whoever asks with its token. -/
def Outlet.give (t : Option String) (o : Outlet) : Except CallError Page × Outlet :=
  let later := { o with failures := o.failures.tail }
  match o.failures.head?.join, o.pages with
  | some e, _ => (.error e, later)
  | none, [] => (.error (.unavailable "no page is left"), later)
  | none, page :: rest =>
    if t = o.token then (.ok page, { later with token := page.next, pages := rest })
    else (.error (.unavailable "no such page"), later)

/-- Whoever asks with the right token gets the first of the pages that are left, or an error after
which nothing but the error is gone. -/
lemma Outlet.give_token (o : Outlet) :
    (∃ e, o.give o.token = (.error e, { o with failures := o.failures.tail })) ∨
    ∃ page rest, o.pages = page :: rest ∧
      o.give o.token = (.ok page, ⟨o.failures.tail, page.next, rest⟩) := by
  unfold give
  split
  · exact .inl ⟨_, rfl⟩
  · exact .inl ⟨_, rfl⟩
  · exact .inr ⟨_, _, ‹_›, if_pos rfl⟩

/-- A store that gives out one listing for every folder, and can do nothing else. -/
def pagedStore : Host StoreCall StoreCall.Answer Outlet where
  acquire o := (.ok (), o)
  release := id
  call q o :=
    match q with
    | .list _ _ t => o.give t
    | .create .. | .delete _ | .download _ => (.error (.unavailable "read only"), o)
  note _ o := o
  enter _ o := o
  leave o := o

/-- The store lists its pages, to whoever begins with the token for the first one. -/
lemma pagedStore_lists (folder : String) (filter : Filter) :
    Lists pagedStore folder filter fun o t ps => o.token = t ∧ o.pages = ps := by
  refine ⟨fun _ _ _ => id, fun _ _ _ => id, fun _ _ _ _ => id, ?_, ?_⟩
  · rintro o t ps e ⟨rfl, rfl⟩ (hcall : (o.give o.token).1 = _)
    change (o.give o.token).2.token = _ ∧ (o.give o.token).2.pages = _
    rcases o.give_token with ⟨_, hgive⟩ | ⟨page, rest, -, hgive⟩
    · rw [hgive]
      exact ⟨rfl, rfl⟩
    · rw [hgive] at hcall
      cases hcall
  · rintro o t ps page ⟨rfl, rfl⟩ (hcall : (o.give o.token).1 = _)
    change ∃ rest, _ ∧ ∀ next, _ → (o.give o.token).2.token = _ ∧ (o.give o.token).2.pages = _
    rcases o.give_token with ⟨_, hgive⟩ | ⟨page', rest, hpages, hgive⟩
    · rw [hgive] at hcall
      cases hcall
    · rw [hgive] at hcall ⊢
      cases hcall
      exact ⟨rest, hpages, fun next hn => ⟨hn, rfl⟩⟩

/-- The second page is empty and names the same token as the first one. The first two requests fail
once each before they are answered. -/
theorem forms_agree_three_pages :
    let ps : List Page := [⟨[⟨"1", "x", some 3⟩, ⟨"2", "y", none⟩], some "a"⟩, ⟨[], some "a"⟩,
      ⟨[⟨"3", "z", some 4⟩], none⟩]
    let o : Outlet := ⟨[some (.httpStatus 503 "busy"), none, some (.io "reset")], none, ps⟩
    ∃ R : Reading, R.Follows (.ofNat 3) (asks "f" .files none ps) ∧ R.failed = none ∧
      (listAll (.ofNat 3) "f" .files 3).Yields pagedStore o R.exchanges
        (some (.ok [⟨"1", "x", some 3⟩, ⟨"2", "y", none⟩, ⟨"3", "z", some 4⟩])) ∧
      (totals (.ofNat 3) "f" 3).Yields pagedStore o R.exchanges (some (.ok ⟨3, 7⟩)) := by
  intro ps o
  have hps : Linked ps := .more rfl (.more rfl (.last rfl))
  obtain ⟨R, hR, -, -, hbudget, hlist, -, hforms, hsums⟩ :=
    forms_agree (p := .ofNat 3) (s := o) (pagedStore_lists "f" .files) hps ⟨rfl, rfl⟩ rfl
      (Nat.le_refl 3)
  have hn : R.failed = none := by
    apply hbudget
    rw [← hlist.1]
    exact .of_countP (by decide +kernel) (by decide +kernel)
  have hanswer {α : Type} (a : α) : R.answer a = .ok a := by
    rw [Reading.answer, hn]
  obtain ⟨htotals, -, -⟩ := hforms rfl
  rw [hsums (by decide) (by decide)] at htotals
  rw [hanswer] at hlist htotals
  exact ⟨R, hR, hn, hlist, htotals⟩

end FolderCopy.Enumeration
