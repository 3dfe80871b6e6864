import FolderCopy.Proofs.Json.Writing

/-!
# JSON documents

A tree has one sequence of tokens, and a document is any way of writing these. Main statement: every
document is read as the tree that it was written for.
-/

namespace FolderCopy.Json

mutual

/-- The tokens of a tree. -/
def Tree.tokens : Tree → List Token
  | .null => [.null]
  | .bool b => [.bool b]
  | .number n => [.number n]
  | .text ps => [.text ps]
  | .array [] => [.openArray, .closeArray]
  | .array (t :: ts) => .openArray :: (t.tokens ++ itemTokens ts)
  | .object [] => [.openObject, .closeObject]
  | .object ((k, t) :: ms) => .openObject :: .text k :: .colon :: (t.tokens ++ memberTokens ms)

/-- The tokens of the items of an array after the first one, and of its end. -/
def itemTokens : List Tree → List Token
  | [] => [.closeArray]
  | t :: ts => .comma :: (t.tokens ++ itemTokens ts)

/-- The tokens of the members of an object after the first one, and of its end. -/
def memberTokens : List (List Piece × Tree) → List Token
  | [] => [.closeObject]
  | (k, t) :: ms => .comma :: .text k :: .colon :: (t.tokens ++ memberTokens ms)

end

/-- The ways of writing a tree. -/
def Tree.Written (t : Tree) (bs : Bytes) : Prop :=
  TokensWritten t.tokens bs

section Reading

/-- The first token is taken, then all others. -/
lemma Waiting.run_cons (w : Waiting) (t : Token) (ts : List Token) :
    w.run (t :: ts) = (w.step t).bind (·.run ts) :=
  rfl

/-- Where a value may start, the end of an array is the only token that starts none. -/
lemma Waiting.run_value (first : Bool) (open_ : List Frame) (t : Token) (ts : List Token)
    (ht : t ≠ .closeArray) :
    (Waiting.value first open_).run (t :: ts) = (Waiting.start open_ t).bind (·.run ts) := by
  rw [run_cons]
  congr 1
  unfold Waiting.step
  split <;> simp_all

mutual

/-- The tokens of a tree are taken for this tree, whatever it stands in. -/
lemma Tree.run_tokens (first : Bool) (open_ : List Frame) (rest : List Token) :
    ∀ t : Tree, (Waiting.value first open_).run (t.tokens ++ rest) =
      (Waiting.receive t open_).run rest
  | .null => Waiting.run_value first open_ .null rest nofun
  | .bool b => Waiting.run_value first open_ (.bool b) rest nofun
  | .number n => Waiting.run_value first open_ (.number n) rest nofun
  | .text ps => Waiting.run_value first open_ (.text ps) rest nofun
  | .array [] => Waiting.run_value first open_ .openArray (.closeArray :: rest) nofun
  | .array (t :: ts) => by
    rw [Tree.tokens, List.cons_append, List.append_assoc]
    refine (Waiting.run_value first open_ .openArray _ nofun).trans ?_
    exact (t.run_tokens true (.array [] :: open_) _).trans (run_itemTokens [t] open_ rest ts)
  | .object [] => Waiting.run_value first open_ .openObject (.closeObject :: rest) nofun
  | .object ((k, t) :: ms) => by
    rw [Tree.tokens, List.cons_append, List.cons_append, List.cons_append, List.append_assoc]
    refine (Waiting.run_value first open_ .openObject _ nofun).trans ?_
    exact (t.run_tokens false (.object [] k :: open_) _).trans
      (run_memberTokens [(k, t)] open_ rest ms)

/-- The tokens of items are taken for these items. -/
lemma run_itemTokens (items : List Tree) (open_ : List Frame) (rest : List Token) :
    ∀ ts : List Tree, (Waiting.item items open_).run (itemTokens ts ++ rest) =
      (Waiting.receive (.array (items.reverse ++ ts)) open_).run rest
  | [] => by
    rw [itemTokens, List.append_nil]
    rfl
  | t :: ts => by
    rw [itemTokens, List.cons_append, List.append_assoc]
    have hts := run_itemTokens (t :: items) open_ rest ts
    rw [List.reverse_cons, List.append_assoc] at hts
    exact (t.run_tokens false (.array items :: open_) _).trans hts

/-- The tokens of members are taken for these members. -/
lemma run_memberTokens (members : List (List Piece × Tree)) (open_ : List Frame)
    (rest : List Token) :
    ∀ ms : List (List Piece × Tree), (Waiting.member members open_).run (memberTokens ms ++ rest) =
      (Waiting.receive (.object (members.reverse ++ ms)) open_).run rest
  | [] => by
    rw [memberTokens, List.append_nil]
    rfl
  | (k, t) :: ms => by
    rw [memberTokens, List.cons_append, List.cons_append, List.cons_append, List.append_assoc]
    have hms := run_memberTokens ((k, t) :: members) open_ rest ms
    rw [List.reverse_cons, List.append_assoc] at hms
    exact (t.run_tokens false (.object members k :: open_) _).trans hms

end

/-- The tokens of a tree are read as the tree. -/
lemma ofTokens?_tokens (t : Tree) : Tree.ofTokens? t.tokens = some t := by
  have h := t.run_tokens false [] []
  rw [List.append_nil] at h
  rw [Tree.ofTokens?, h]
  rfl

end Reading

section Separation

/-- Whether tokens can follow a value: they do not let a number go on. -/
def CanFollow (ts : List Token) : Prop :=
  (∀ s ∈ ts.head?, s.isSeparator) ∧ Separated ts

/-- Tokens stay separated with one in front that is no number. -/
lemma separated_cons {t : Token} {ts : List Token} (ht : ∀ n, t ≠ .number n) (hts : Separated ts) :
    Separated (t :: ts) :=
  ⟨fun n hn => absurd hn (ht n), hts⟩

/-- A separator in front of separated tokens may follow anything. -/
lemma canFollow_cons {t : Token} {ts : List Token} (ht : t.isSeparator) (hts : Separated ts) :
    CanFollow (t :: ts) := by
  refine ⟨?_, separated_cons ?_ hts⟩
  · rintro s ⟨⟩
    exact ht
  · rintro n rfl
    cases ht

mutual

/-- The tokens of a tree are separated, if what follows it may follow anything. -/
lemma Tree.separated {rest : List Token} (hrest : CanFollow rest) :
    ∀ t : Tree, Separated (t.tokens ++ rest)
  | .null | .bool b | .text ps => separated_cons nofun hrest.2
  | .number n => ⟨fun _ _ => hrest.1, hrest.2⟩
  | .array [] => separated_cons nofun (canFollow_itemTokens hrest []).2
  | .object [] => separated_cons nofun (canFollow_memberTokens hrest []).2
  | .array (t :: ts) => by
    rw [Tree.tokens, List.cons_append, List.append_assoc]
    exact separated_cons nofun (t.separated (canFollow_itemTokens hrest ts))
  | .object ((k, t) :: ms) => by
    rw [Tree.tokens, List.cons_append, List.cons_append, List.cons_append, List.append_assoc]
    refine separated_cons nofun (separated_cons nofun (separated_cons nofun ?_))
    exact t.separated (canFollow_memberTokens hrest ms)

/-- What follows a value among items may follow anything. -/
lemma canFollow_itemTokens {rest : List Token} (hrest : CanFollow rest) :
    ∀ ts : List Tree, CanFollow (itemTokens ts ++ rest)
  | [] => canFollow_cons rfl hrest.2
  | t :: ts => by
    rw [itemTokens, List.cons_append, List.append_assoc]
    exact canFollow_cons rfl (t.separated (canFollow_itemTokens hrest ts))

/-- What follows a value among members may follow anything. -/
lemma canFollow_memberTokens {rest : List Token} (hrest : CanFollow rest) :
    ∀ ms : List (List Piece × Tree), CanFollow (memberTokens ms ++ rest)
  | [] => canFollow_cons rfl hrest.2
  | (k, t) :: ms => by
    rw [memberTokens, List.cons_append, List.cons_append, List.cons_append, List.append_assoc]
    refine canFollow_cons rfl (separated_cons nofun (separated_cons nofun ?_))
    exact t.separated (canFollow_memberTokens hrest ms)

end

end Separation

/-- Every way of writing a tree is read as this tree. -/
theorem Tree.Written.ofBytes?_eq {t : Tree} {bs : Bytes} (h : t.Written bs) :
    Tree.ofBytes? bs = some t := by
  have hend : CanFollow [] := ⟨nofun, trivial⟩
  have hseparated := t.separated hend
  rw [List.append_nil] at hseparated
  rw [Tree.ofBytes?, tokens?, TokensWritten.scan_eq h hseparated, List.reverse_nil, List.nil_append,
    Option.bind_some, ofTokens?_tokens]

end FolderCopy.Json
