import Mathlib.Tactic.Lemma
import FolderCopy.Drive.Query

/-!
# Reading queries

The drive reads a query by a grammar of its own: terms joined by `and`, each of them two operands
with an operator between them, an operand being a word or a text between single quotes. Main
statement: from a query this grammar reads exactly what was asked for, whatever the texts in it
hold, so that no text can change which entries are listed.
-/

namespace FolderCopy.Drive

/-- One side of a term. -/
inductive Operand where
  | literal (value : String)
  | word (w : String)
  deriving DecidableEq, Repr

/-- A term of a query. -/
structure Term where
  left : Operand
  operator : String
  right : Operand
  deriving DecidableEq, Repr

section Reading

/-- The value of a literal after its opening quote, and what follows its closing quote. A backslash
stands before a quote or another backslash and nowhere else. -/
def value? : List Char → Option (List Char × List Char)
  | [] => none
  | '\'' :: rest => some ([], rest)
  | ['\\'] => none
  | '\\' :: c :: rest =>
    if c = '\\' ∨ c = '\'' then (value? rest).map fun r => (c :: r.1, r.2) else none
  | c :: rest => (value? rest).map fun r => (c :: r.1, r.2)

def literal? : List Char → Option (String × List Char)
  | '\'' :: rest => (value? rest).map fun r => (String.ofList r.1, r.2)
  | _ => none

def isWordChar (c : Char) : Bool :=
  c != ' ' && c != '\''

def word? (cs : List Char) : Option (String × List Char) :=
  if (cs.takeWhile isWordChar).isEmpty then none
  else some (String.ofList (cs.takeWhile isWordChar), cs.dropWhile isWordChar)

def operand? (cs : List Char) : Option (Operand × List Char) :=
  match literal? cs with
  | some (v, rest) => some (.literal v, rest)
  | none => (word? cs).map fun r => (.word r.1, r.2)

def space? : List Char → Option (List Char)
  | ' ' :: rest => some rest
  | _ => none

def term? (cs : List Char) : Option (Term × List Char) := do
  let (left, cs) ← operand? cs
  let cs ← space? cs
  let (operator, cs) ← word? cs
  let cs ← space? cs
  let (right, cs) ← operand? cs
  return (⟨left, operator, right⟩, cs)

/-- Reading a value takes its closing quote at least. -/
lemma value?_length {cs v rest : List Char} (h : value? cs = some (v, rest)) :
    rest.length < cs.length := by
  fun_induction value? cs generalizing v with
  | case1 | case3 | case5 => cases h
  | case2 =>
    cases h
    exact Nat.lt_succ_self _
  | case4 c cs hc ih | case6 c cs hq hb he ih =>
    obtain ⟨⟨v', rest'⟩, hr, he⟩ := Option.map_eq_some_iff.1 h
    cases he
    exact Nat.lt_trans (ih hr) (by simp only [List.length_cons]; omega)

/-- Reading a literal leaves no more than there was. -/
lemma literal?_length {cs rest : List Char} {v : String} (h : literal? cs = some (v, rest)) :
    rest.length ≤ cs.length := by
  unfold literal? at h
  split at h
  · obtain ⟨⟨v', rest'⟩, hr, he⟩ := Option.map_eq_some_iff.1 h
    cases he
    exact Nat.le_succ_of_le (Nat.le_of_lt (value?_length hr))
  · cases h

/-- Reading a word leaves no more than there was. -/
lemma word?_length {cs rest : List Char} {w : String} (h : word? cs = some (w, rest)) :
    rest.length ≤ cs.length := by
  unfold word? at h
  split at h
  case isTrue => cases h
  case isFalse =>
    cases h
    exact (List.dropWhile_sublist _).length_le

/-- Reading an operand leaves no more than there was. -/
lemma operand?_length {cs rest : List Char} {o : Operand} (h : operand? cs = some (o, rest)) :
    rest.length ≤ cs.length := by
  unfold operand? at h
  split at h
  · next hl =>
    cases h
    exact literal?_length hl
  · obtain ⟨⟨w, rest'⟩, hr, he⟩ := Option.map_eq_some_iff.1 h
    cases he
    exact word?_length hr

/-- Reading a space takes it. -/
lemma space?_length {cs rest : List Char} (h : space? cs = some rest) :
    rest.length < cs.length := by
  unfold space? at h
  split at h
  · cases h
    exact Nat.lt_succ_self _
  · cases h

/-- Reading a condition takes a character at least. -/
lemma term?_length {cs rest : List Char} {t : Term} (h : term? cs = some (t, rest)) :
    rest.length < cs.length := by
  simp only [term?, Option.bind_eq_bind, Option.bind_eq_some_iff, Prod.exists] at h
  obtain ⟨l, r1, h1, r2, h2, o, r3, h3, r4, h4, r, r5, h5, he⟩ := h
  have := operand?_length h1
  have := space?_length h2
  have := word?_length h3
  have := space?_length h4
  have := operand?_length h5
  cases he
  omega

/-- The terms of a query; none if it is not written by the grammar. -/
def terms? (cs : List Char) : Option (List Term) :=
  match h : term? cs with
  | some (t, []) => some [t]
  | some (t, ' ' :: 'a' :: 'n' :: 'd' :: ' ' :: rest) =>
    have : rest.length < cs.length := by
      have := term?_length h
      simp only [List.length_cons] at this
      omega
    (terms? rest).map (t :: ·)
  | _ => none
termination_by cs.length

/-- A condition with nothing after it is the last one. -/
lemma terms?_last {cs : List Char} {t : Term} (h : term? cs = some (t, [])) :
    terms? cs = some [t] := by
  rw [terms?]
  split <;> simp_all

/-- A condition with another one after it is the first of several. -/
lemma terms?_next {cs rest : List Char} {t : Term}
    (h : term? cs = some (t, " and ".toList ++ rest)) :
    terms? cs = (terms? rest).map (t :: ·) := by
  rw [terms?]
  split <;> simp_all

end Reading

section Writing

/-- Whether a text can stand as a word. -/
def IsWord (w : String) : Prop :=
  w.toList ≠ [] ∧ w.toList.all isWordChar

instance (w : String) : Decidable (IsWord w) :=
  inferInstanceAs (Decidable (_ ∧ _))

/-- Whether a text ends here or goes on with a space, so that a word before it is over. -/
def IsBreak (cs : List Char) : Prop :=
  cs.head?.all (· == ' ')

/-- A value that is escaped is read as it was, up to the closing quote. -/
lemma value?_escapeChars (v rest : List Char) :
    value? (escapeChars v ++ '\'' :: rest) = some (v, rest) := by
  induction v with
  | nil => rfl
  | cons c v ih =>
    unfold escapeChars at ih ⊢
    rw [List.flatMap_cons, List.append_assoc]
    by_cases hc : c = '\\' ∨ c = '\''
    · simp [escapeChar, hc, value?, ih]
    · obtain ⟨hb, hq⟩ := not_or.1 hc
      simp [escapeChar, hb, hq, value?, ih]

/-- A literal is read as the value that it was written for. -/
lemma literal?_literal (v : String) (rest : List Char) :
    literal? (literal v ++ rest) = some (v, rest) := by
  simp [literal, literal?, value?_escapeChars]

/-- A literal is an operand. -/
lemma operand?_literal (v : String) (rest : List Char) :
    operand? (literal v ++ rest) = some (.literal v, rest) := by
  rw [operand?, literal?_literal]

/-- A word is read up to its end. -/
lemma word?_append {w : String} (hw : IsWord w) {rest : List Char} (hr : IsBreak rest) :
    word? (w.toList ++ rest) = some (w, rest) := by
  have hall : ∀ c ∈ w.toList, isWordChar c := List.all_eq_true.1 hw.2
  have hover : rest.takeWhile isWordChar = [] ∧ rest.dropWhile isWordChar = rest := by
    cases rest with
    | nil => exact ⟨rfl, rfl⟩
    | cons c rest =>
      obtain rfl : c = ' ' := by simpa [IsBreak] using hr
      exact ⟨rfl, rfl⟩
  rw [word?, List.takeWhile_append_of_pos hall, List.dropWhile_append_of_pos hall, hover.1, hover.2]
  simp [hw.1]

/-- A word is an operand. -/
lemma operand?_word {w : String} (hw : IsWord w) {rest : List Char} (hr : IsBreak rest) :
    operand? (w.toList ++ rest) = some (.word w, rest) := by
  have hnone : literal? (w.toList ++ rest) = none := by
    have hall := List.all_eq_true.1 hw.2
    cases hcs : w.toList with
    | nil => exact absurd hcs hw.1
    | cons c cs =>
      have hc : c ≠ '\'' := by
        rintro rfl
        cases hall '\'' (by simp [hcs])
      simp [literal?, hc]
  rw [operand?, hnone, word?_append hw hr]
  rfl

def Operand.chars : Operand → List Char
  | .literal v => Drive.literal v
  | .word w => w.toList

def Term.chars (t : Term) : List Char :=
  t.left.chars ++ ' ' :: (t.operator.toList ++ ' ' :: t.right.chars)

/-- Whether an operand can be written down: any text can be a literal, not every text a word. -/
def Operand.IsWritable : Operand → Prop
  | .literal _ => True
  | .word w => IsWord w

structure Term.IsWritable (t : Term) : Prop where
  left : t.left.IsWritable
  operator : IsWord t.operator
  right : t.right.IsWritable

/-- Every operand that can be written is read as it was. -/
lemma operand?_chars {o : Operand} (ho : o.IsWritable) {rest : List Char} (hr : IsBreak rest) :
    operand? (o.chars ++ rest) = some (o, rest) := by
  cases o with
  | literal v => exact operand?_literal v rest
  | word w => exact operand?_word ho hr

/-- A term is read back as it is, and no further. -/
lemma term?_chars {t : Term} (ht : t.IsWritable) {rest : List Char} (hr : IsBreak rest) :
    term? (t.chars ++ rest) = some (t, rest) := by
  have hspace (cs : List Char) : IsBreak (' ' :: cs) := rfl
  simp only [Term.chars, List.append_assoc, List.cons_append, term?, Option.bind_eq_bind]
  rw [operand?_chars ht.left (hspace _)]
  simp only [Option.bind_some, space?]
  rw [word?_append ht.operator (hspace _)]
  simp only [Option.bind_some]
  rw [operand?_chars ht.right hr]
  rfl

end Writing

section Conditions

/-- A condition as a term. -/
def Condition.term : Condition → Term
  | .inParents parent => ⟨.literal parent, "in", .word "parents"⟩
  | .ofType same type => ⟨.word "mimeType", if same then "=" else "!=", .literal type⟩
  | .named name => ⟨.word "name", "=", .literal name⟩
  | .notTrashed => ⟨.word "trashed", "=", .word "false"⟩

/-- A condition is written as its term. -/
lemma Condition.chars_eq (c : Condition) : c.chars = c.term.chars := by
  -- What stands before a literal, with the name of the field and the operator apart.
  have hfield (field operator : String) (v : String) :
      (field ++ " " ++ operator ++ " ").toList ++ literal v =
        field.toList ++ ' ' :: (operator.toList ++ ' ' :: literal v) := by
    simp
  cases c with
  | inParents parent =>
    have hin : " in parents".toList = ' ' :: ("in".toList ++ ' ' :: "parents".toList) := by decide
    exact congrArg (literal parent ++ ·) hin
  | ofType same type =>
    cases same with
    | true => exact hfield "mimeType" "=" type
    | false => exact hfield "mimeType" "!=" type
  | named name => exact hfield "name" "=" name
  | notTrashed => decide

/-- The operands of every condition can be written. -/
lemma Condition.isWritable (c : Condition) : c.term.IsWritable := by
  have hwords : ∀ w ∈ ["in", "parents", "mimeType", "=", "!=", "name", "trashed", "false"],
      IsWord w := by
    decide
  cases c with
  | inParents parent => exact ⟨trivial, hwords "in" (by simp), hwords "parents" (by simp)⟩
  | ofType same type =>
    cases same with
    | true => exact ⟨hwords "mimeType" (by simp), hwords "=" (by simp), trivial⟩
    | false => exact ⟨hwords "mimeType" (by simp), hwords "!=" (by simp), trivial⟩
  | named name => exact ⟨hwords "name" (by simp), hwords "=" (by simp), trivial⟩
  | notTrashed => exact ⟨hwords "trashed" (by simp), hwords "=" (by simp), hwords "false" (by simp)⟩

/-- Joined conditions are read back one by one. -/
lemma terms?_joinConditions {cs : List Condition} (hne : cs ≠ []) :
    terms? (joinConditions cs) = some (cs.map Condition.term) := by
  induction cs with
  | nil => exact absurd rfl hne
  | cons c cs ih =>
    cases cs with
    | nil =>
      apply terms?_last
      rw [joinConditions, c.chars_eq, ← List.append_nil c.term.chars]
      exact term?_chars c.isWritable rfl
    | cons c' cs =>
      have hc : term? (c.chars ++ (" and ".toList ++ joinConditions (c' :: cs))) =
          some (c.term, " and ".toList ++ joinConditions (c' :: cs)) := by
        rw [c.chars_eq]
        exact term?_chars c.isWritable rfl
      rw [← List.append_assoc] at hc
      rw [joinConditions, terms?_next hc, ih (List.cons_ne_nil _ _)]
      · rfl
      · exact nofun

/-- Different conditions have different terms. -/
lemma Condition.term_inj {c c' : Condition} (h : c.term = c'.term) : c = c' := by
  cases c <;> cases c' <;> simp_all [term]
  case ofType.ofType same _ same' _ => cases same <;> cases same' <;> simp_all

/-- A query is read as the conditions that it was written for. -/
lemma terms?_query (parent : String) (filter : Filter) :
    terms? (query parent filter).toList = some ((conditions parent filter).map Condition.term) := by
  rw [query, String.toList_ofList]
  exact terms?_joinConditions (List.cons_ne_nil _ _)

/-- Different listings have different queries. -/
lemma query_inj {parent parent' : String} {filter filter' : Filter}
    (h : query parent' filter' = query parent filter) :
    parent' = parent ∧ filter'.kind = filter.kind ∧ filter'.name = filter.name := by
  have hterms := congrArg (fun q => terms? q.toList) h
  simp only [terms?_query, Option.some.injEq] at hterms
  have hconditions := (List.map_inj_right fun _ _ => Condition.term_inj).1 hterms
  obtain ⟨kind, name⟩ := filter
  obtain ⟨kind', name'⟩ := filter'
  cases name <;> cases name' <;> cases kind <;> cases kind' <;> simp_all [conditions]

end Conditions

section Selection

/-- A file or folder, as far as queries are about it. -/
structure Item where
  parents : List String
  type : String
  name : String
  trashed : Bool
  deriving DecidableEq, Repr

/-- Whether a term holds of an item; none for a term that is about nothing known. -/
def Term.holds? (i : Item) (t : Term) : Option Bool :=
  match t.left, t.operator, t.right with
  | .literal parent, "in", .word "parents" => some (i.parents.contains parent)
  | .word "mimeType", "=", .literal type => some (i.type == type)
  | .word "mimeType", "!=", .literal type => some (i.type != type)
  | .word "name", "=", .literal name => some (i.name == name)
  | .word "trashed", "=", .word "false" => some (!i.trashed)
  | _, _, _ => none

/-- Whether a query selects an item: all of its terms hold. -/
def selects? (q : String) (i : Item) : Option Bool := do
  let ts ← terms? q.toList
  let bs ← ts.mapM (Term.holds? i)
  return bs.all id

/-- Whether a condition holds of an item. -/
def Condition.Holds (i : Item) : Condition → Prop
  | .inParents parent => parent ∈ i.parents
  | .ofType same type => i.type = type ↔ same
  | .named name => i.name = name
  | .notTrashed => i.trashed = false

/-- A condition means as a term what it means by itself. -/
lemma Condition.holds?_term (i : Item) (c : Condition) :
    ∃ b, c.term.holds? i = some b ∧ (b ↔ c.Holds i) := by
  cases c with
  | inParents parent => exact ⟨_, rfl, List.contains_iff_mem⟩
  | ofType same type =>
    cases same with
    | true => exact ⟨_, rfl, by simp [Holds]⟩
    | false => exact ⟨_, rfl, by simp [Holds]⟩
  | named name => exact ⟨_, rfl, beq_iff_eq⟩
  | notTrashed => exact ⟨_, rfl, by simp [Holds]⟩

/-- Several conditions mean as terms what they mean by themselves. -/
lemma mapM_holds? (i : Item) (cs : List Condition) :
    ∃ bs, (cs.map Condition.term).mapM (Term.holds? i) = some bs ∧
      (bs.all id ↔ ∀ c ∈ cs, c.Holds i) := by
  induction cs with
  | nil => exact ⟨[], rfl, by simp⟩
  | cons c cs ih =>
    obtain ⟨b, hb, hc⟩ := c.holds?_term i
    obtain ⟨bs, hbs, hcs⟩ := ih
    refine ⟨b :: bs, ?_, ?_⟩
    · simp [List.mapM_cons, hb, hbs]
    · simp [hc, ← hcs]

/-- A query selects an item exactly if all of its conditions hold of it. -/
lemma selects?_query (parent : String) (filter : Filter) (i : Item) :
    ∃ b, selects? (query parent filter) i = some b ∧
      (b ↔ ∀ c ∈ conditions parent filter, c.Holds i) := by
  obtain ⟨bs, hbs, hall⟩ := mapM_holds? i (conditions parent filter)
  exact ⟨bs.all id, by simp [selects?, terms?_query, hbs], hall⟩

/-- The conditions of a query say where an item is, what it is, how it is named, and that it is not
in the trash. -/
lemma forall_conditions (parent : String) (filter : Filter) (i : Item) :
    (∀ c ∈ conditions parent filter, c.Holds i) ↔
      parent ∈ i.parents ∧ (i.type = folderType ↔ filter.kind = .folder) ∧
        (∀ name ∈ filter.name, i.name = name) ∧ i.trashed = false := by
  cases filter with
  | mk kind name =>
    cases name <;> simp [conditions, Condition.Holds]

end Selection

/-- A text in which every occurrence of a character is replaced. -/
def replaceChar (c : Char) (by_ : List Char) (cs : List Char) : List Char :=
  cs.flatMap fun x => if x = c then by_ else [x]

/-- Escaping is two replacements in turn; the quotes come second, so that the backslashes put
before them stay single. -/
lemma escapeChars_eq_replaceChar (cs : List Char) :
    escapeChars cs = replaceChar '\'' ['\\', '\''] (replaceChar '\\' ['\\', '\\'] cs) := by
  unfold escapeChars replaceChar
  rw [List.flatMap_assoc]
  congr 1
  funext c
  by_cases hb : c = '\\'
  · subst hb
    rfl
  · by_cases hq : c = '\''
    · subst hq
      rfl
    · simp [escapeChar, hb, hq]

/-- From the query for the children of a folder the grammar reads the folder, the kind and the name
that are asked for and the exclusion of what was thrown away, in this order and nothing else. So a
query selects what its filter asks for, queries are the same only where parent and filter are, and a
literal ends where it was meant to end, whatever follows it. -/
theorem query_carries_filter (parent : String) (filter : Filter) :
    terms? (query parent filter).toList = some (
      [⟨.literal parent, "in", .word "parents"⟩,
        ⟨.word "mimeType", if filter.kind = .folder then "=" else "!=", .literal folderType⟩] ++
      (filter.name.map fun name => Term.mk (.word "name") "=" (.literal name)).toList ++
      [⟨.word "trashed", "=", .word "false"⟩]) ∧
    (∀ i : Item, ∃ b, selects? (query parent filter) i = some b ∧
      (b ↔ parent ∈ i.parents ∧ (i.type = folderType ↔ filter.kind = .folder) ∧
        (∀ name ∈ filter.name, i.name = name) ∧ i.trashed = false)) ∧
    (∀ (parent' : String) (filter' : Filter), query parent' filter' = query parent filter ↔
      parent' = parent ∧ filter'.kind = filter.kind ∧ filter'.name = filter.name) ∧
    ∀ (v : String) (rest : List Char),
      literal v = '\'' :: replaceChar '\'' ['\\', '\'']
        (replaceChar '\\' ['\\', '\\'] v.toList) ++ ['\''] ∧
      literal? (literal v ++ rest) = some (v, rest) := by
  refine ⟨?_, ?_, ?_, ?_⟩
  · rw [terms?_query]
    cases filter with
    | mk kind name => cases kind <;> cases name <;> rfl
  · intro i
    obtain ⟨b, hb, hall⟩ := selects?_query parent filter i
    exact ⟨b, hb, hall.trans (forall_conditions parent filter i)⟩
  · intro parent' filter'
    refine ⟨query_inj, ?_⟩
    rintro ⟨rfl, hkind, hname⟩
    obtain rfl : filter' = filter := by
      cases filter
      cases filter'
      simp_all
    rfl
  · intro v rest
    refine ⟨?_, literal?_literal v rest⟩
    rw [literal, escapeChars_eq_replaceChar]

/-- The folders named `it's`. -/
example : query "root" (.folderNamed "it's") =
    "'root' in parents and mimeType = 'application/vnd.google-apps.folder'" ++
      " and name = 'it\\'s' and trashed = false" := by
  decide +kernel

end FolderCopy.Drive
