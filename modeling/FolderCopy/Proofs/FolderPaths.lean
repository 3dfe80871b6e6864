import Mathlib.Logic.Relation
import FolderCopy.FolderPath

/-!
# Written paths

The names in a written path are its maximal runs without slash, in order. Everything about them
follows from one equation: a slash parts the names before it from those behind it. A path is shown
in its shortest spelling, and two spellings of one path differ in slashes only. Main statement:
`parse_canonical`.
-/

namespace FolderCopy.FolderPath

/-! ## Names between slashes -/

/-- A slash ends the run before it, and new runs begin after it. -/
lemma runsFrom_append_slash (run s t : List Char) :
    runsFrom run (s ++ '/' :: t) = runsFrom run s ++ runs t := by
  induction s generalizing run with
  | nil => rfl
  | cons c s ih =>
    rw [List.cons_append, runsFrom, runsFrom]
    split
    · rw [ih, List.append_assoc]
    · exact ih (c :: run)

/-- A slash parts the names before it from those behind it. -/
lemma runs_append_slash (s t : List Char) : runs (s ++ '/' :: t) = runs s ++ runs t :=
  runsFrom_append_slash [] s t

/-- Without a slash there is one run, with what came before it. -/
lemma runsFrom_of_not_mem {w : List Char} (h : '/' ∉ w) (run : List Char) :
    runsFrom run w = flush (w.reverse ++ run) := by
  induction w generalizing run with
  | nil => rfl
  | cons c w ih =>
    have hc : c ≠ '/' := fun hc => h (hc ▸ List.mem_cons_self)
    rw [runsFrom, if_neg hc, ih fun hw => h (List.mem_cons_of_mem _ hw), List.reverse_cons,
      List.append_assoc]
    rfl

/-- A text without slashes is one run, unless it is empty. -/
lemma runs_of_not_mem {w : List Char} (h : '/' ∉ w) : runs w = if w = [] then [] else [w] := by
  rw [runs, runsFrom_of_not_mem h, List.append_nil, flush]
  cases w with
  | nil => rfl
  | cons c w => simp

/-- A text has no slash, or a first one. -/
@[elab_as_elim]
lemma slashes_induction {motive : List Char → Prop} (word : ∀ w, '/' ∉ w → motive w)
    (slash : ∀ w t, '/' ∉ w → motive t → motive (w ++ '/' :: t)) (cs : List Char) : motive cs := by
  by_cases h : '/' ∈ cs
  · obtain ⟨w, t, hcs, hw⟩ := List.eq_append_cons_of_mem h
    rw [hcs]
    exact slash w t hw (slashes_induction word slash t)
  · exact word cs h
termination_by cs.length
decreasing_by
  rw [hcs, List.length_append, List.length_cons]
  omega

/-- The runs of a text are its pieces between slashes, without the empty ones. -/
lemma runs_eq_splitOn (cs : List Char) : runs cs = (cs.splitOn '/').filter (!·.isEmpty) := by
  induction cs using slashes_induction with
  | word w hw =>
    rw [runs_of_not_mem hw, List.splitOn_eq_singleton (by simpa using hw)]
    cases w <;> rfl
  | slash w t hw ih =>
    have hsplit : w.splitOn '/' = [w] := List.splitOn_eq_singleton (by simpa using hw)
    rw [runs_append_slash, List.splitOn_append_cons_self, List.filter_append, ih,
      runs_of_not_mem hw, hsplit]
    cases w <;> rfl

/-- A text has no runs exactly if it holds nothing but slashes. -/
lemma runs_eq_nil_iff {cs : List Char} : runs cs = [] ↔ ∀ c ∈ cs, c = '/' := by
  induction cs using slashes_induction with
  | word w hw =>
    rw [runs_of_not_mem hw]
    cases w with
    | nil => simp
    | cons c w =>
      have hc : c ≠ '/' := fun hc => hw (hc ▸ List.mem_cons_self)
      simp [hc]
  | slash w t hw ih =>
    rw [runs_append_slash, List.append_eq_nil_iff, ih, runs_of_not_mem hw]
    cases w with
    | nil => simp
    | cons c w =>
      have hc : c ≠ '/' := fun hc => hw (hc ▸ List.mem_cons_self)
      simp [hc]

/-! ## Maximal runs -/

/-- Whether characters without slash stand at a place of a text, between slashes or its ends. -/
def IsRunAt (cs : List Char) (i : Nat) (run : List Char) : Prop :=
  ∃ front back, cs = front ++ (run ++ back) ∧ front.length = i ∧ run ≠ [] ∧ '/' ∉ run ∧
    (∀ c ∈ front.getLast?, c = '/') ∧ ∀ c ∈ back.head?, c = '/'

/-- Whether runs are all maximal runs of a text, in order. -/
def AreRuns (cs : List Char) (rs : List (List Char)) : Prop :=
  ∃ located : List (Nat × List Char), located.map Prod.snd = rs ∧
    located.Pairwise (fun a b => a.1 < b.1) ∧ ∀ i run, (i, run) ∈ located ↔ IsRunAt cs i run

/-- What stands before a maximal run ends in a slash. -/
lemma slash_mem_of_getLast? {front : List Char} (h : ∀ c ∈ front.getLast?, c = '/')
    (hne : front ≠ []) : '/' ∈ front := by
  rcases List.eq_nil_or_concat front with hnil | ⟨init, c, rfl⟩
  · exact absurd hnil hne
  · have hc : c = '/' := h c (by simp)
    simp [hc]

/-- Where the first character is a slash, there is one. -/
lemma slash_mem_of_head? {back : List Char} (h : ∀ c ∈ back.head?, c = '/') (hne : back ≠ []) :
    '/' ∈ back := by
  cases back with
  | nil => exact absurd rfl hne
  | cons c back =>
    have hc : c = '/' := h c rfl
    simp [hc]

/-- A text without slashes is the one run in it, unless it is empty. -/
lemma isRunAt_of_not_mem {w run : List Char} {i : Nat} (h : '/' ∉ w) :
    IsRunAt w i run ↔ w ≠ [] ∧ i = 0 ∧ run = w := by
  constructor
  · rintro ⟨front, back, rfl, rfl, hne, -, hfront, hback⟩
    simp only [List.mem_append, not_or] at h
    obtain rfl : front = [] := Decidable.byContradiction fun hf =>
      h.1 (slash_mem_of_getLast? hfront hf)
    obtain rfl : back = [] := Decidable.byContradiction fun hb =>
      h.2.2 (slash_mem_of_head? hback hb)
    simpa using hne
  · rintro ⟨hne, rfl, rfl⟩
    exact ⟨[], [], by simp, rfl, hne, h, by simp, by simp⟩

/-- The maximal runs of a text are what stands before its first slash, unless that is empty, and
those behind it. -/
lemma isRunAt_append_slash {w t run : List Char} {i : Nat} (h : '/' ∉ w) :
    IsRunAt (w ++ '/' :: t) i run ↔
      (w ≠ [] ∧ i = 0 ∧ run = w) ∨ ∃ k, i = w.length + 1 + k ∧ IsRunAt t k run := by
  constructor
  · rintro ⟨front, back, heq, rfl, hne, hrun, hfront, hback⟩
    rcases List.append_eq_append_iff.1 heq with ⟨x, rfl, ht⟩ | ⟨x, rfl, ht⟩
    -- The first slash stands before the run, which cannot begin with it.
    · cases x with
      | nil =>
        cases run with
        | nil => exact absurd rfl hne
        | cons c run =>
          cases ht
          exact absurd List.mem_cons_self hrun
      | cons c x =>
        cases ht
        refine .inr ⟨x.length, ?_, x, back, rfl, rfl, hne, hrun, ?_, hback⟩
        · rw [List.length_append, List.length_cons]
          omega
        · intro d hd
          cases x with
          | nil => cases hd
          | cons e x => exact hfront d (by simpa using hd)
    -- The first slash stands behind the front, which therefore is empty.
    · obtain rfl : front = [] := Decidable.byContradiction fun hf =>
        h (List.mem_append_left _ (slash_mem_of_getLast? hfront hf))
      rcases List.append_eq_append_iff.1 ht with ⟨y, rfl, hy⟩ | ⟨y, rfl, hy⟩
      · cases y with
        | nil => exact .inl ⟨by simpa using hne, rfl, by simp⟩
        | cons c y =>
          have hc : c = '/' := hback c (by rw [hy]; rfl)
          exact absurd (by simp [hc]) h
      · cases y with
        | nil => exact .inl ⟨by simpa using hne, rfl, by simp⟩
        | cons c y =>
          cases hy
          exact absurd (by simp) hrun
  · rintro (⟨hne, rfl, rfl⟩ | ⟨k, rfl, front, back, rfl, rfl, hne, hrun, hfront, hback⟩)
    · exact ⟨[], '/' :: t, by simp, rfl, hne, h, by simp, by simp⟩
    · refine ⟨w ++ '/' :: front, back, by simp, by simp; omega, hne, hrun, ?_, hback⟩
      intro c hc
      cases front with
      | nil => simpa using hc.symm
      | cons d front => exact hfront c (by simpa using hc)

/-- A text without slashes has itself for its runs, unless it is empty. -/
lemma AreRuns.word {w : List Char} (h : '/' ∉ w) : AreRuns w (if w = [] then [] else [w]) := by
  refine ⟨if w = [] then [] else [(0, w)], ?_, ?_, ?_⟩
  · split <;> rfl
  · split <;> simp
  · intro i run
    rw [isRunAt_of_not_mem h]
    split <;> simp [*]

/-- The runs of two texts with a slash between them are those of one and then those of the other. -/
lemma AreRuns.append_slash {w t : List Char} {rs : List (List Char)} (h : '/' ∉ w)
    (ht : AreRuns t rs) : AreRuns (w ++ '/' :: t) ((if w = [] then [] else [w]) ++ rs) := by
  obtain ⟨first, hfirst, hordered, hruns⟩ := AreRuns.word h
  obtain ⟨located, rfl, hsorted, hlocated⟩ := ht
  refine ⟨first ++ located.map fun a => (w.length + 1 + a.1, a.2), ?_, ?_, ?_⟩
  · rw [List.map_append, hfirst, List.map_map]
    rfl
  · refine List.pairwise_append.2 ⟨hordered, ?_, ?_⟩
    · exact List.pairwise_map.2 (hsorted.imp fun hlt => by simpa using hlt)
    · rintro ⟨i, run⟩ ha b hb
      obtain ⟨a, -, rfl⟩ := List.mem_map.1 hb
      obtain ⟨-, rfl, -⟩ := (isRunAt_of_not_mem h).1 ((hruns i run).1 ha)
      show 0 < w.length + 1 + a.1
      omega
  · intro i run
    rw [isRunAt_append_slash h, List.mem_append, hruns, isRunAt_of_not_mem h]
    refine or_congr_right ⟨?_, ?_⟩
    · intro hmem
      obtain ⟨⟨k, run⟩, ha, heq⟩ := List.mem_map.1 hmem
      cases heq
      exact ⟨k, rfl, (hlocated k run).1 ha⟩
    · rintro ⟨k, rfl, hk⟩
      exact List.mem_map.2 ⟨(k, run), (hlocated k run).2 hk, rfl⟩

/-- The names in a text are its maximal runs without slash, in order. -/
lemma areRuns_runs (cs : List Char) : AreRuns cs (runs cs) := by
  induction cs using slashes_induction with
  | word w hw =>
    rw [runs_of_not_mem hw]
    exact .word hw
  | slash w t hw ih =>
    rw [runs_append_slash, runs_of_not_mem hw]
    exact ih.append_slash hw

/-! ## The shortest spelling -/

/-- Names with single slashes between them are read as these names. -/
lemma runs_intercalate {rs : List (List Char)} (h : ∀ r ∈ rs, r ≠ [] ∧ '/' ∉ r) :
    runs (['/'].intercalate rs) = rs := by
  induction rs with
  | nil => rfl
  | cons r rs ih =>
    obtain ⟨⟨hne, hr⟩, hrs⟩ := List.forall_mem_cons.1 h
    cases rs with
    | nil => rw [List.intercalate_singleton, runs_of_not_mem hr, if_neg hne]
    | cons q rs =>
      rw [List.intercalate_cons_cons, List.append_assoc, List.singleton_append, runs_append_slash,
        runs_of_not_mem hr, if_neg hne, ih hrs]
      rfl

/-- Every text holds its names with single slashes between them, in order. -/
lemma intercalate_runs_sublist (cs : List Char) :
    List.Sublist (['/'].intercalate (runs cs)) cs := by
  induction cs using slashes_induction with
  | word w hw =>
    rw [runs_of_not_mem hw]
    split
    case isTrue => exact List.nil_sublist w
    case isFalse => simp
  | slash w t hw ih =>
    rw [runs_append_slash, runs_of_not_mem hw]
    split
    case isTrue => exact (ih.cons '/').trans (List.sublist_append_right w _)
    case isFalse =>
      cases hrs : runs t with
      | nil =>
        rw [List.append_nil, List.intercalate_singleton]
        exact List.sublist_append_left w _
      | cons r rs =>
        rw [List.singleton_append, List.intercalate_cons_cons, List.append_assoc, ← hrs]
        exact (ih.cons_cons '/').append_left w

/-! ## Other spellings -/

/-- A spelling with one slash more, which means nothing: in front, behind, or beside another. -/
inductive Slip : List Char → List Char → Prop where
  | leading (cs) : Slip ('/' :: cs) cs
  | trailing (cs) : Slip (cs ++ ['/']) cs
  | repeated (cs ds) : Slip (cs ++ '/' :: '/' :: ds) (cs ++ '/' :: ds)

/-- Whether two texts differ in leading, trailing and repeated slashes only. -/
def Respelled (s t : String) : Prop :=
  Relation.EqvGen Slip s.toList t.toList

/-- To write one slash more or less leaves the runs. -/
lemma Slip.runs_eq {cs ds : List Char} (h : Slip cs ds) : runs cs = runs ds := by
  cases h with
  | leading => exact runs_append_slash [] ds
  | trailing => rw [runs_append_slash]; exact List.append_nil _
  | repeated cs ds =>
    rw [runs_append_slash, runs_append_slash]
    exact congrArg _ (runs_append_slash [] ds)

/-- Behind a slash, a leading slash is a repeated one. -/
lemma Slip.append_left {cs ds : List Char} (h : Slip cs ds) (w : List Char) :
    Slip (w ++ '/' :: cs) (w ++ '/' :: ds) := by
  cases h with
  | leading => exact .repeated w ds
  | trailing => simpa using Slip.trailing (w ++ '/' :: ds)
  | repeated cs ds => simpa using Slip.repeated (w ++ '/' :: cs) ds

/-- What makes two texts the same path does so with the same front before them. -/
lemma eqvGen_append_left {cs ds : List Char} (h : Relation.EqvGen Slip cs ds) (w : List Char) :
    Relation.EqvGen Slip (w ++ '/' :: cs) (w ++ '/' :: ds) := by
  induction h with
  | rel _ _ h => exact .rel _ _ (h.append_left w)
  | refl => exact .refl _
  | symm _ _ _ ih => exact .symm _ _ ih
  | trans _ _ _ _ _ ih ih' => exact .trans _ _ _ ih ih'

/-- Every text is a spelling of its names with single slashes between them. -/
lemma eqvGen_intercalate_runs (cs : List Char) :
    Relation.EqvGen Slip cs (['/'].intercalate (runs cs)) := by
  induction cs using slashes_induction with
  | word w hw =>
    rw [runs_of_not_mem hw]
    split
    case isTrue h => rw [h]; exact .refl _
    case isFalse => rw [List.intercalate_singleton]; exact .refl _
  | slash w t hw ih =>
    refine .trans _ _ _ (eqvGen_append_left ih w) ?_
    rw [runs_append_slash, runs_of_not_mem hw]
    split
    case isTrue h =>
      rw [h]
      exact .rel _ _ (.leading _)
    case isFalse =>
      cases hrs : runs t with
      | nil =>
        rw [List.append_nil, List.intercalate_singleton]
        exact .rel _ _ (.trailing w)
      | cons r rs =>
        rw [List.singleton_append, List.intercalate_cons_cons, List.append_assoc]
        exact .refl _

/-- Two texts hold the same names where they differ in meaningless slashes and nowhere else. -/
lemma runs_eq_iff_eqvGen {cs ds : List Char} : runs cs = runs ds ↔ Relation.EqvGen Slip cs ds := by
  constructor
  · intro h
    refine .trans _ _ _ (eqvGen_intercalate_runs cs) ?_
    rw [h]
    exact .symm _ _ (eqvGen_intercalate_runs ds)
  · intro h
    induction h with
    | rel _ _ h => exact h.runs_eq
    | refl => rfl
    | symm _ _ _ ih => exact ih.symm
    | trans _ _ _ _ _ ih ih' => exact ih.trans ih'

/-! ## Paths -/

/-- The names that a text is read as; none where it is not read. -/
def segmentsOf (s : String) : List String :=
  match parse s with
  | .ok p => p.segments
  | .error _ => []

/-- Names are the runs of a text. -/
lemma map_toList_names (s : String) : (names s).map String.toList = runs s.toList := by
  rw [names, List.map_map]
  exact List.map_id'' (fun _ => String.toList_ofList) _

/-- Two texts have the same names exactly if they have the same runs. -/
lemma names_inj {s t : String} : names s = names t ↔ runs s.toList = runs t.toList := by
  constructor
  · intro h
    rw [← map_toList_names, ← map_toList_names, h]
  · intro h
    rw [names, names, h]

/-- A text has no names exactly if it holds nothing but slashes. -/
lemma names_eq_nil_iff {s : String} : names s = [] ↔ ∀ c ∈ s.toList, c = '/' := by
  rw [names, List.map_eq_nil_iff, runs_eq_nil_iff]

/-- The names of two texts with a slash between them are those of one and then those of the other.
-/
lemma names_append_slash (s t : String) : names (s ++ "/" ++ t) = names s ++ names t := by
  have hchars : (s ++ "/" ++ t).toList = s.toList ++ '/' :: t.toList := by simp
  rw [names, hchars, runs_append_slash, List.map_append]
  rfl

/-- A text is read as a path exactly if the path has the names of the text. -/
lemma parse_eq_ok_iff {s : String} {p : FolderPath} : parse s = .ok p ↔ p.segments = names s := by
  obtain ⟨segments, hne, hclean⟩ := p
  unfold parse
  split
  case isTrue h => simpa [h] using hne
  case isFalse h => simp [eq_comm]

/-- A text is no path exactly if it has no names. -/
lemma parse_eq_error_iff {s : String} {e : CopyError} :
    parse s = .error e ↔ names s = [] ∧ e = noSegments s := by
  unfold parse
  split
  case isTrue h => simp [h, eq_comm]
  case isFalse h => simp [h]

/-- The segments of a text are its names. -/
lemma segmentsOf_eq_names (s : String) : segmentsOf s = names s := by
  unfold segmentsOf
  split
  case h_1 p h => exact parse_eq_ok_iff.1 h
  case h_2 e h => exact (parse_eq_error_iff.1 h).1.symm

/-- A path is shown as its segments with slashes between them. -/
lemma toList_display (p : FolderPath) :
    p.display.toList = ['/'].intercalate (p.segments.map String.toList) := by
  simp [display]

/-- A path that is shown is read as the same path. -/
lemma parse_display (p : FolderPath) : parse p.display = .ok p := by
  have hclean : ∀ r ∈ p.segments.map String.toList, r ≠ [] ∧ '/' ∉ r := by
    intro r hr
    obtain ⟨n, hn, rfl⟩ := List.mem_map.1 hr
    exact ⟨by simpa using (p.clean n hn).1, (p.clean n hn).2⟩
  rw [parse_eq_ok_iff, names, toList_display, runs_intercalate hclean, List.map_map]
  exact (List.map_id'' (fun _ => String.ofList_toList) _).symm

/-- No other spelling of a path is as short as the one that it is shown in. -/
lemma display_shortest {t : String} {p : FolderPath} (h : parse t = .ok p) :
    t = p.display ∨ p.display.length < t.length := by
  have hsub : List.Sublist p.display.toList t.toList := by
    rw [toList_display, parse_eq_ok_iff.1 h, map_toList_names]
    exact intercalate_runs_sublist _
  rcases Nat.eq_or_lt_of_le hsub.length_le with heq | hlt
  · exact .inl (String.toList_inj.1 (hsub.eq_of_length heq)).symm
  · rw [String.length_toList, String.length_toList] at hlt
    exact .inr hlt

/-- A text is read as a path unless it holds slashes only, and its names are then its maximal runs
without slash. A path is shown in the shortest spelling that is read as it. Two spellings of one
path differ in leading, trailing and repeated slashes only, and a slash between two texts puts their
names one after the other. -/
theorem parse_canonical :
    (∀ s, (∃ e, parse s = .error e) ↔ ∀ c ∈ s.toList, c = '/') ∧
    (∀ s p, parse s = .ok p →
      AreRuns s.toList (p.segments.map String.toList) ∧
      ∀ n ∈ p.segments, n ≠ "" ∧ '/' ∉ n.toList) ∧
    (∀ p, parse p.display = .ok p ∧
      ∀ t, parse t = .ok p → t = p.display ∨ p.display.length < t.length) ∧
    (∀ s t, (∃ p, parse s = .ok p ∧ parse t = .ok p) ↔
      (∃ c ∈ s.toList, c ≠ '/') ∧ Respelled s t) ∧
    ∀ s t, segmentsOf (s ++ "/" ++ t) = segmentsOf s ++ segmentsOf t := by
  refine ⟨?_, ?_, fun p => ⟨parse_display p, fun t => display_shortest⟩, ?_, ?_⟩
  · intro s
    simp only [parse_eq_error_iff, exists_and_left, exists_eq, and_true, names_eq_nil_iff]
  · intro s p h
    rw [parse_eq_ok_iff.1 h, map_toList_names]
    exact ⟨areRuns_runs _, fun n => mem_names⟩
  · intro s t
    have hread : (∃ c ∈ s.toList, c ≠ '/') ↔ names s ≠ [] := by
      simp [names_eq_nil_iff]
    rw [hread, Respelled, ← runs_eq_iff_eqvGen, ← names_inj]
    constructor
    · rintro ⟨p, hs, ht⟩
      rw [← parse_eq_ok_iff.1 hs, ← parse_eq_ok_iff.1 ht]
      exact ⟨p.nonempty, rfl⟩
    · rintro ⟨hne, heq⟩
      refine ⟨⟨names s, hne, fun _ => mem_names⟩, ?_, ?_⟩
      · exact parse_eq_ok_iff.2 rfl
      · exact parse_eq_ok_iff.2 heq
  · intro s t
    rw [segmentsOf_eq_names, segmentsOf_eq_names, segmentsOf_eq_names, names_append_slash]

/-- The text of this path is no shortest one, and holds two names. -/
theorem parse_canonical_spare_slashes :
    ∃ p, parse "//a/..//" = .ok p ∧ AreRuns "//a/..//".toList [['a'], ['.', '.']] ∧
      parse p.display = .ok p ∧ p.display.length < "//a/..//".length := by
  have h : parse "//a/..//" = .ok _ := rfl
  obtain ⟨-, hruns, hshown, -⟩ := parse_canonical
  obtain ⟨hread, hshort⟩ := hshown _
  refine ⟨_, h, (hruns _ _ h).1, hread, (hshort _ h).resolve_left ?_⟩
  decide

end FolderCopy.FolderPath
