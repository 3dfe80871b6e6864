import Mathlib.Tactic.Lemma
import FolderCopy.Json.Tree

/-!
# The ways of writing JSON

A value may be written in many ways: with any white space between its tokens, any character of a
text escaped or not, either mark before an exponent. The grammar says which bytes are a way of
writing a token sequence. Main statement: the scan reads the tokens back from every one of them.
-/

namespace FolderCopy.Json

/-- The bytes of characters. -/
def bytesOf (cs : List Char) : Bytes :=
  cs.flatMap String.utf8EncodeChar

section Grammar

/-- The letters of the short escapes, with the characters that they stand for. -/
def shortEscapes : List (Char × Char) :=
  [('"', '"'), ('\\', '\\'), ('/', '/'), ('b', '\x08'), ('f', '\x0c'), ('n', '\n'), ('r', '\r'),
    ('t', '\t')]

/-- A hexadecimal digit in upper or lower case. -/
def hexDigit (upper : Bool) (n : Nat) : UInt8 :=
  UInt8.ofNat (if n < 10 then 0x30 + n else if upper then 0x37 + n else 0x57 + n)

/-- The ways of writing a piece of a text. -/
inductive Piece.Written : Piece → Bytes → Prop where
  /-- A byte stands for itself unless it is a control, a quote or a backslash. -/
  | byte {b : UInt8} (hcontrol : 0x20 ≤ b) (hquote : b ≠ 0x22) (hbackslash : b ≠ 0x5C) :
    Written (.byte b) [b]
  | short {e c : Char} (h : (e, c) ∈ shortEscapes) : Written (.code c.toNat) (bytesOf ['\\', e])
  /-- Each of the four digits may be in upper or lower case. -/
  | code {n : Nat} (hn : n < 0x10000) (u₁ u₂ u₃ u₄ : Bool) :
    Written (.code n) (bytesOf ['\\', 'u'] ++ [hexDigit u₁ (n / 0x1000),
      hexDigit u₂ (n / 0x100 % 16), hexDigit u₃ (n / 0x10 % 16), hexDigit u₄ (n % 16)])

inductive PiecesWritten : List Piece → Bytes → Prop where
  | nil : PiecesWritten [] []
  | cons {p ps bs rest} (hp : p.Written bs) (hps : PiecesWritten ps rest) :
    PiecesWritten (p :: ps) (bs ++ rest)

def IsDigits (ds : List Char) : Prop :=
  ds ≠ [] ∧ ds.all Char.isDigit

/-- Whether a number is one that can be written down. -/
structure Numeral.WellFormed (n : Numeral) : Prop where
  whole : IsDigits n.whole
  leading : n.whole.head? = some '0' → n.whole = ['0']
  fraction : ∀ ds ∈ n.fraction, IsDigits ds
  exponent : ∀ e ∈ n.exponent, IsDigits e.2
  sign : ∀ e ∈ n.exponent, ∀ c ∈ e.1, c = '+' ∨ c = '-'

/-- A number without its sign, with a given mark before its exponent. -/
def Numeral.unsigned (mark : Char) (n : Numeral) : List Char :=
  n.whole ++ ((n.fraction.elim [] fun ds => '.' :: ds) ++
    n.exponent.elim [] fun e => mark :: (e.1.toList ++ e.2))

def Numeral.writing (mark : Char) (n : Numeral) : List Char :=
  (if n.negative then ['-'] else []) ++ n.unsigned mark

/-- The ways of writing a token. -/
inductive Token.Written : Token → Bytes → Prop where
  | openArray : Written .openArray (bytesOf ['['])
  | closeArray : Written .closeArray (bytesOf [']'])
  | openObject : Written .openObject (bytesOf ['\x7b'])
  | closeObject : Written .closeObject (bytesOf ['\x7d'])
  | comma : Written .comma (bytesOf [','])
  | colon : Written .colon (bytesOf [':'])
  | null : Written .null (bytesOf ['n', 'u', 'l', 'l'])
  | true : Written (.bool true) (bytesOf ['t', 'r', 'u', 'e'])
  | false : Written (.bool false) (bytesOf ['f', 'a', 'l', 's', 'e'])
  | number {n mark} (hn : n.WellFormed) (hmark : mark = 'e' ∨ mark = 'E') :
    Written (.number n) (bytesOf (n.writing mark))
  | text {ps bs} (h : PiecesWritten ps bs) :
    Written (.text ps) (bytesOf ['"'] ++ (bs ++ bytesOf ['"']))

/-- The ways of writing tokens one after the other, with white space before each of them and at the
end. -/
inductive TokensWritten : List Token → Bytes → Prop where
  | nil {ws} (hws : ws.all isSpace) : TokensWritten [] ws
  | cons {ws t ts bs rest} (hws : ws.all isSpace) (ht : Token.Written t bs)
    (hts : TokensWritten ts rest) : TokensWritten (t :: ts) (ws ++ (bs ++ rest))

end Grammar

section Texts

/-- Every short escape has its letter, which is not the one of a code. -/
lemma shortEscape?_of_mem : ∀ p ∈ shortEscapes, bytesOf [p.1] = [UInt8.ofNat p.1.toNat] ∧
    UInt8.ofNat p.1.toNat ≠ 0x75 ∧ shortEscape? (UInt8.ofNat p.1.toNat) = some p.2.toNat := by
  decide

/-- A hexadecimal digit has the value that it was written for. -/
lemma hexValue?_hexDigit : ∀ n < 16, ∀ upper, hexValue? (hexDigit upper n) = some n := by
  decide

/-- Four hexadecimal digits have the value that they were written for. -/
lemma hexCode?_hexDigit {n : Nat} (hn : n < 0x10000) (u₁ u₂ u₃ u₄ : Bool) :
    hexCode? (hexDigit u₁ (n / 0x1000)) (hexDigit u₂ (n / 0x100 % 16)) (hexDigit u₃ (n / 0x10 % 16))
      (hexDigit u₄ (n % 16)) = some n := by
  have hvalue : ((n / 0x1000 * 16 + n / 0x100 % 16) * 16 + n / 0x10 % 16) * 16 + n % 16 = n := by
    omega
  simp only [hexCode?, Option.bind_eq_bind]
  rw [hexValue?_hexDigit _ (by omega), hexValue?_hexDigit _ (by omega),
    hexValue?_hexDigit _ (by omega), hexValue?_hexDigit _ (by omega)]
  exact congrArg some hvalue

/-- A written piece is read as it was. -/
lemma Piece.Written.pieces_eq {p : Piece} {bs : Bytes} (h : p.Written bs) (done : List Piece)
    (rest : Bytes) : pieces done (bs ++ rest) = pieces (p :: done) rest := by
  cases h with
  | byte hcontrol hquote hbackslash =>
    have hkept : ¬ _ < (0x20 : UInt8) := UInt8.not_lt.2 hcontrol
    rw [List.singleton_append, pieces.eq_5]
    · simp [hkept, hbackslash]
    · exact hquote
    · exact fun _ _ _ _ _ hb => absurd hb hbackslash
    · exact fun _ _ hb => absurd hb hbackslash
  | @short e c h =>
    obtain ⟨hbyte, hne, hcode⟩ := shortEscape?_of_mem _ h
    have hbytes : bytesOf ['\\', e] ++ rest = 0x5C :: UInt8.ofNat e.toNat :: rest := by
      rw [show bytesOf ['\\', e] = 0x5C :: bytesOf [e] from rfl, hbyte]
      rfl
    rw [hbytes, pieces.eq_4, hcode]
    exact fun _ _ _ _ _ he => absurd he hne
  | @code n hn u₁ u₂ u₃ u₄ =>
    have hbytes (ds : Bytes) :
        bytesOf ['\\', 'u'] ++ ds ++ rest = 0x5C :: 0x75 :: (ds ++ rest) := rfl
    simp only [hbytes, List.cons_append, List.nil_append]
    rw [pieces.eq_3, hexCode?_hexDigit hn]

/-- Written pieces are read as they were, up to the closing quote. -/
lemma PiecesWritten.pieces_eq {ps : List Piece} {bs : Bytes} (h : PiecesWritten ps bs)
    (done : List Piece) (rest : Bytes) :
    pieces done (bs ++ 0x22 :: rest) = some (done.reverse ++ ps, rest) := by
  induction h generalizing done with
  | nil => simp [pieces.eq_2]
  | cons hp hps ih =>
    rw [List.append_assoc, hp.pieces_eq, ih]
    simp

end Texts

section Numbers

/-- Whether a number before these bytes is over. -/
def EndsNumber (bs : Bytes) : Prop :=
  ∀ b ∈ bs.head?, ¬ isDigit b ∧ b ≠ 0x2E ∧ b ≠ 0x65 ∧ b ≠ 0x45

/-- A digit is one byte. -/
lemma byte_of_isDigit {c : Char} (h : c.isDigit) :
    ∃ b, String.utf8EncodeChar c = [b] ∧ isDigit b ∧ Char.ofNat b.toNat = c := by
  have hall : ∀ n < 58, 48 ≤ n → ∃ b, String.utf8EncodeChar (Char.ofNat n) = [b] ∧ isDigit b ∧
      Char.ofNat b.toNat = Char.ofNat n := by
    intro n hlt hle
    refine ⟨UInt8.ofNat n, ?_⟩
    revert n
    decide
  rw [Char.isDigit, Bool.and_eq_true, decide_eq_true_eq, decide_eq_true_eq] at h
  have h' := hall c.toNat (Nat.lt_succ_of_le h.2) h.1
  rwa [Char.ofNat_toNat] at h'

/-- No characters have no bytes. -/
lemma bytesOf_nil : bytesOf [] = [] :=
  rfl

/-- The bytes of a list of characters begin with those of the first one. -/
lemma bytesOf_cons (c : Char) (cs : List Char) :
    bytesOf (c :: cs) = String.utf8EncodeChar c ++ bytesOf cs :=
  List.flatMap_cons

/-- The bytes of characters in two parts are those of one part and then those of the other. -/
lemma bytesOf_append (cs ds : List Char) : bytesOf (cs ++ ds) = bytesOf cs ++ bytesOf ds :=
  List.flatMap_append

/-- Digits are read as they were, up to what is no digit. -/
lemma digits_append {ds : List Char} (hds : ds.all Char.isDigit) {rest : Bytes}
    (hr : ∀ b ∈ rest.head?, ¬ isDigit b) : digits (bytesOf ds ++ rest) = (ds, rest) := by
  induction ds with
  | nil =>
    cases rest with
    | nil => rfl
    | cons b rest =>
      have hb : isDigit b = false := by simpa using hr b rfl
      simp [digits, bytesOf, hb]
  | cons d ds ih =>
    simp only [List.all_cons, Bool.and_eq_true] at hds
    obtain ⟨b, hb, hdigit, hchar⟩ := byte_of_isDigit hds.1
    have hih := ih hds.2
    simp only [digits, Prod.mk.injEq] at hih ⊢
    rw [bytesOf_cons, hb]
    simp [hdigit, hchar, hih]

/-- Digits that must be there are read as they were. -/
lemma digits?_append {ds : List Char} (hds : IsDigits ds) {rest : Bytes}
    (hr : ∀ b ∈ rest.head?, ¬ isDigit b) : digits? (bytesOf ds ++ rest) = some (ds, rest) := by
  rw [digits?, digits_append hds.2 hr]
  simp [hds.1]

/-- The whole part of a number is read as it was, unless it has a leading zero. -/
lemma whole?_append {ds : List Char} (hds : IsDigits ds)
    (hlead : ds.head? = some '0' → ds = ['0']) {rest : Bytes}
    (hr : ∀ b ∈ rest.head?, ¬ isDigit b) : whole? (bytesOf ds ++ rest) = some (ds, rest) := by
  cases ds with
  | nil => exact absurd rfl hds.1
  | cons d ds =>
    by_cases hd : d = '0'
    · subst hd
      obtain rfl : ds = [] := by simpa using hlead rfl
      rfl
    · rw [whole?.eq_2, digits?_append hds hr]
      intro rest' h
      have hall := hds.2
      rw [List.all_cons, Bool.and_eq_true] at hall
      obtain ⟨b, hb, -, hchar⟩ := byte_of_isDigit hall.1
      rw [bytesOf_cons, hb] at h
      cases h
      exact hd hchar.symm

/-- The fraction of a number is read as it was, or is not there. -/
lemma fraction?_append {fraction : Option (List Char)} (hf : ∀ ds ∈ fraction, IsDigits ds)
    {rest : Bytes} (hr : ∀ b ∈ rest.head?, ¬ isDigit b ∧ b ≠ 0x2E) :
    fraction? (bytesOf (fraction.elim [] fun ds => '.' :: ds) ++ rest) = some (fraction, rest) := by
  cases fraction with
  | none =>
    rw [Option.elim_none, show bytesOf [] ++ rest = rest from rfl, fraction?.eq_2]
    rintro rest' rfl
    exact absurd rfl (hr 0x2E rfl).2
  | some ds =>
    have hdot : bytesOf ('.' :: ds) ++ rest = 0x2E :: (bytesOf ds ++ rest) := rfl
    rw [Option.elim_some, hdot, fraction?, digits?_append (hf ds rfl) fun b hb => (hr b hb).1]
    rfl

/-- A sign is read as it was, or is not there. -/
lemma sign_append {ds : List Char} (hds : IsDigits ds) {sign_ : Option Char}
    (hs : ∀ c ∈ sign_, c = '+' ∨ c = '-') (rest : Bytes) :
    sign (bytesOf (sign_.toList ++ ds) ++ rest) = (sign_, bytesOf ds ++ rest) := by
  cases sign_ with
  | some c => rcases hs c rfl with rfl | rfl <;> rfl
  | none =>
    cases ds with
    | nil => exact absurd rfl hds.1
    | cons d ds =>
      have hall := hds.2
      rw [List.all_cons, Bool.and_eq_true] at hall
      obtain ⟨b, hb, hdigit, -⟩ := byte_of_isDigit hall.1
      rw [Option.toList_none, List.nil_append, bytesOf_cons, hb, sign.eq_3]
      · rintro rest' h
        cases h
        cases hdigit
      · rintro rest' h
        cases h
        cases hdigit

/-- The exponent of a number is read as it was, or is not there. -/
lemma exponent?_append {mark : Char} (hmark : mark = 'e' ∨ mark = 'E')
    {exponent : Option (Option Char × List Char)} (hd : ∀ e ∈ exponent, IsDigits e.2)
    (hs : ∀ e ∈ exponent, ∀ c ∈ e.1, c = '+' ∨ c = '-') {rest : Bytes} (hr : EndsNumber rest) :
    exponent? (bytesOf (exponent.elim [] fun e => mark :: (e.1.toList ++ e.2)) ++ rest) =
      some (exponent, rest) := by
  cases exponent with
  | none =>
    rw [Option.elim_none, show bytesOf [] ++ rest = rest from rfl]
    cases rest with
    | nil => rfl
    | cons b rest =>
      obtain ⟨-, -, he, hE⟩ := hr b rfl
      simp [exponent?, he, hE]
  | some e =>
    obtain ⟨sign_, ds⟩ := e
    have hbyte : ∃ b, (b == 0x65 || b == 0x45) ∧
        bytesOf (mark :: (sign_.toList ++ ds)) = b :: bytesOf (sign_.toList ++ ds) := by
      rcases hmark with rfl | rfl
      · exact ⟨0x65, rfl, rfl⟩
      · exact ⟨0x45, rfl, rfl⟩
    obtain ⟨b, hb, hbytes⟩ := hbyte
    rw [Option.elim_some, hbytes, List.cons_append, exponent?, if_pos hb,
      sign_append (hd _ rfl) (hs _ rfl), digits?_append (hd _ rfl) fun b hb => (hr b hb).1]
    rfl

/-- An exponent begins neither with a digit nor with a point. -/
lemma head_exponent {mark : Char} (hmark : mark = 'e' ∨ mark = 'E')
    (exponent : Option (Option Char × List Char)) {rest : Bytes} (hr : EndsNumber rest) :
    ∀ b ∈ (bytesOf (exponent.elim [] fun e => mark :: (e.1.toList ++ e.2)) ++ rest).head?,
      ¬ isDigit b ∧ b ≠ 0x2E := by
  cases exponent with
  | none => exact fun b hb => ⟨(hr b hb).1, (hr b hb).2.1⟩
  | some e =>
    rcases hmark with rfl | rfl
    · rintro b ⟨⟩
      decide
    · rintro b ⟨⟩
      decide

/-- A fraction does not begin with a digit. -/
lemma head_fraction (fraction : Option (List Char)) {rest : Bytes}
    (hr : ∀ b ∈ rest.head?, ¬ isDigit b ∧ b ≠ 0x2E) :
    ∀ b ∈ (bytesOf (fraction.elim [] fun ds => '.' :: ds) ++ rest).head?, ¬ isDigit b := by
  cases fraction with
  | none => exact fun b hb => (hr b hb).1
  | some ds =>
    rintro b ⟨⟩
    decide

/-- A number is read up to its end. -/
lemma Numeral.WellFormed.magnitude?_eq {n : Numeral} (hn : n.WellFormed) {mark : Char}
    (hmark : mark = 'e' ∨ mark = 'E') {rest : Bytes} (hr : EndsNumber rest) (negative : Bool) :
    magnitude? negative (bytesOf (n.unsigned mark) ++ rest) =
      some (.number { n with negative }, rest) := by
  have hexponent := head_exponent hmark n.exponent hr
  have hfraction := head_fraction n.fraction hexponent
  simp only [Numeral.unsigned, bytesOf_append, List.append_assoc, magnitude?,
    Option.bind_eq_bind]
  rw [whole?_append hn.whole hn.leading hfraction, Option.bind_some,
    fraction?_append hn.fraction hexponent, Option.bind_some,
    exponent?_append hmark hn.exponent hn.sign hr, Option.bind_some]
  rfl

end Numbers

section Tokens

/-- A token that begins with a digit is a number. -/
lemma startingWith?_digit {b : UInt8} (hb : isDigit b) (rest : Bytes) :
    Token.startingWith? b rest = magnitude? false (b :: rest) := by
  unfold Token.startingWith?
  split <;> first | rfl | cases hb

/-- A digit is no space. -/
lemma not_isSpace_of_isDigit {b : UInt8} (hb : isDigit b) : ¬ isSpace b := by
  intro h
  simp only [isSpace, Bool.or_eq_true, beq_iff_eq] at h
  rcases h with ((rfl | rfl) | rfl) | rfl <;> cases hb

/-- A number without its sign begins with a digit. -/
lemma bytesOf_unsigned {n : Numeral} (hn : n.WellFormed) (mark : Char) :
    ∃ b rest, bytesOf (n.unsigned mark) = b :: rest ∧ isDigit b := by
  have hwhole := hn.whole
  unfold Numeral.unsigned
  cases hw : n.whole with
  | nil => exact absurd hw hwhole.1
  | cons d ds =>
    have hall := hwhole.2
    rw [hw, List.all_cons, Bool.and_eq_true] at hall
    obtain ⟨b, hb, hdigit, -⟩ := byte_of_isDigit hall.1
    exact ⟨b, _, by rw [List.cons_append, bytesOf_cons, hb]; rfl, hdigit⟩

/-- A token is read from every way of writing it, a number only where it is over. -/
lemma Token.Written.startingWith?_eq {t : Token} {bs : Bytes} (h : t.Written bs) {rest : Bytes}
    (hr : ∀ n, t = .number n → EndsNumber rest) :
    ∃ b bs', bs = b :: bs' ∧ ¬ isSpace b ∧
      Token.startingWith? b (bs' ++ rest) = some (t, rest) := by
  cases h with
  | openArray | closeArray | openObject | closeObject | comma | colon | null | true | false =>
    exact ⟨_, _, rfl, by decide, rfl⟩
  | @text ps bs hps =>
    refine ⟨0x22, bs ++ [0x22], rfl, by decide, ?_⟩
    rw [Token.startingWith?, List.append_assoc, List.singleton_append, hps.pieces_eq]
    rfl
  | @number n mark hn hmark =>
    obtain ⟨b, bs', hbs, hb⟩ := bytesOf_unsigned hn mark
    have hread := hn.magnitude?_eq hmark (hr n rfl) n.negative
    cases hsign : n.negative with
    | true =>
      refine ⟨0x2D, bytesOf (n.unsigned mark), ?_, by decide, ?_⟩
      · simp only [Numeral.writing, hsign, if_true]
        rfl
      · rw [hsign] at hread
        rw [Token.startingWith?, hread, ← hsign]
    | false =>
      refine ⟨b, bs', ?_, ?_, ?_⟩
      · simp [Numeral.writing, hsign, hbs]
      · exact not_isSpace_of_isDigit hb
      · rw [hsign, hbs] at hread
        rw [startingWith?_digit hb, ← List.cons_append, hread, ← hsign]

/-- Space between tokens is skipped. -/
lemma scan_space {ws : Bytes} (hws : ws.all isSpace) (done : List Token) (rest : Bytes) :
    scan done (ws ++ rest) = scan done rest := by
  induction ws with
  | nil => rfl
  | cons b ws ih =>
    rw [List.all_cons, Bool.and_eq_true] at hws
    rw [List.cons_append, scan, if_pos hws.1, ih hws.2]

/-- A written token is read as it was, if a number is over there. -/
lemma Token.Written.scan_eq {t : Token} {bs : Bytes} (h : t.Written bs) {rest : Bytes}
    (hr : ∀ n, t = .number n → EndsNumber rest) (done : List Token) :
    scan done (bs ++ rest) = scan (t :: done) rest := by
  obtain ⟨b, bs', rfl, hb, hread⟩ := h.startingWith?_eq hr
  rw [List.cons_append, scan, if_neg hb]
  split
  · next hnone => cases hnone.symm.trans hread
  · next hsome =>
    cases hsome.symm.trans hread
    rfl

/-- Whether a token ends what stands before it. -/
def Token.isSeparator : Token → Bool
  | .comma | .colon | .closeArray | .closeObject => true
  | _ => false

/-- Whether no number stands directly before a token that it could go on with. -/
def Separated : List Token → Prop
  | [] => True
  | t :: ts => (∀ n, t = .number n → ∀ s ∈ ts.head?, s.isSeparator) ∧ Separated ts

/-- Where a separator follows, a number is over. -/
lemma TokensWritten.endsNumber {ts : List Token} {bs : Bytes} (h : TokensWritten ts bs)
    (hts : ∀ s ∈ ts.head?, s.isSeparator) : EndsNumber bs := by
  have hspace {b : UInt8} {ws rest : Bytes} (hws : (b :: ws).all isSpace) :
      EndsNumber (b :: ws ++ rest) := by
    rw [List.all_cons, Bool.and_eq_true] at hws
    obtain ⟨hb, -⟩ := hws
    simp only [isSpace, Bool.or_eq_true, beq_iff_eq] at hb
    rcases hb with ((rfl | rfl) | rfl) | rfl <;> · rintro b ⟨⟩; decide
  cases h with
  | nil hws =>
    cases bs with
    | nil => exact nofun
    | cons b ws =>
      rw [← List.append_nil (b :: ws)]
      exact hspace hws
  | @cons ws t ts bs rest hws ht hrest =>
    cases ws with
    | cons b ws => exact hspace hws
    | nil =>
      have ht' := hts t rfl
      cases ht with
      | comma | colon | closeArray | closeObject =>
        rintro b ⟨⟩
        decide
      | openArray | openObject | null | true | false | number | text => cases ht'

/-- The scan reads tokens back from every way of writing them. -/
theorem TokensWritten.scan_eq {ts : List Token} {bs : Bytes} (h : TokensWritten ts bs)
    (hts : Separated ts) (done : List Token) : scan done bs = some (done.reverse ++ ts) := by
  induction h generalizing done with
  | @nil ws hws =>
    rw [← List.append_nil ws, scan_space hws, scan, List.append_nil]
  | cons hws ht hrest ih =>
    rw [scan_space hws, ht.scan_eq fun n hn => hrest.endsNumber (hts.1 n hn), ih hts.2]
    simp

end Tokens

end FolderCopy.Json
