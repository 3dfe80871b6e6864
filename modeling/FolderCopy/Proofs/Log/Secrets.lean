import FolderCopy.Log.Sink
import FolderCopy.Proofs.Json.Values

/-!
# Secrets in log events

An application that takes part in the log is told of an event with the values that it carries, but
of no value whose name tells of a secret and of no bearer token. Said of two logs: where they differ
in such values only, the application receives the same entries. Names are compared in lower case,
and what of them is no ASCII character tells of nothing, so it does not matter how a lower-casing
treats it (`isSensitiveName_iff`). Main statement: `secrets_withheld`.
-/

namespace FolderCopy

namespace Json

section Members

variable {α : Type} (k : String)

/-- The first member is found under its key, all others under their own. -/
lemma lookup_cons (m : String × α) (ms : List (String × α)) :
    (m :: ms).lookup k = if k = m.1 then some m.2 else ms.lookup k := by
  rw [List.lookup_cons]
  split
  case h_1 h => rw [if_pos (beq_iff_eq.1 h)]
  case h_2 h => rw [if_neg (beq_eq_false_iff_ne.1 h)]

/-- Values that are changed by key are found under their keys as before. -/
lemma lookup_map (g : String → α → α) (ms : List (String × α)) :
    (ms.map fun m => (m.1, g m.1 m.2)).lookup k = (ms.lookup k).map (g k) := by
  induction ms with
  | nil => rfl
  | cons m ms ih =>
    rw [List.map_cons, lookup_cons, lookup_cons, ih]
    split
    case isTrue h => exact h ▸ rfl
    case isFalse => rfl

/-- A member that is set is found under its key, and what is found under others stays. -/
lemma lookup_put (key : String) (value : α) (ms : List (String × α)) :
    (put key value ms).lookup k = if k = key then some value else ms.lookup k := by
  induction ms with
  | nil => exact lookup_cons k (key, value) []
  | cons m ms ih =>
    rw [put]
    split
    case isTrue => exact lookup_cons k _ _
    case isFalse =>
      split
      case isTrue heq =>
        subst heq
        rw [lookup_cons, lookup_cons]
        split <;> rfl
      case isFalse hne =>
        rw [lookup_cons, ih, lookup_cons]
        split
        case isTrue hk => rw [if_neg fun h => hne (h.symm.trans hk)]
        case isFalse => rfl

end Members

end Json

namespace Log

/-! ## Names in lower case -/

/-- A way to write texts in lower case. What becomes of a character may hang on those before it, the
nearest one first, and on those after it. Beyond ASCII, the Kelvin sign and the dotted capital I
alone have a lower case with an ASCII letter. -/
structure LowerCasing where
  character : (before : List Char) → Char → (after : List Char) → List Char
  ascii : ∀ before c after, c.toNat < 128 → character before c after = [c.toLower]
  kelvinSign : ∀ before after, character before '\u212a' after = ['k']
  dottedI : ∀ before after, character before '\u0130' after = ['i', '\u0307']
  other_ne_nil : ∀ before c after, character before c after ≠ []
  other : ∀ before c after, 128 ≤ c.toNat → c ≠ '\u212a' → c ≠ '\u0130' →
    ∀ d ∈ character before c after, 128 ≤ d.toNat

namespace LowerCasing

/-- The rest of a text in lower case, where some characters come before it. -/
def textFrom (L : LowerCasing) (before : List Char) : List Char → List Char
  | [] => []
  | c :: cs => L.character before c cs ++ L.textFrom (c :: before) cs

/-- A text in lower case. -/
def text (L : LowerCasing) (s : String) : List Char :=
  L.textFrom [] s.toList

end LowerCasing

/-- Whether two texts are the same but for what is no ASCII character in them. -/
inductive SameAscii : List Char → List Char → Prop where
  | nil : SameAscii [] []
  | cons (c : Char) {s t} (h : SameAscii s t) : SameAscii (c :: s) (c :: t)
  | block {xs ys s t} (hx : xs ≠ []) (hy : ys ≠ []) (hxs : ∀ c ∈ xs, 128 ≤ c.toNat)
    (hys : ∀ c ∈ ys, 128 ≤ c.toNat) (h : SameAscii s t) : SameAscii (xs ++ s) (ys ++ t)

section Words

variable {w s t xs : List Char}

/-- No ASCII word begins where there is a character beyond ASCII. -/
lemma prefix_block_iff (hw : ∀ c ∈ w, c.toNat < 128) (hx : xs ≠ [])
    (hxs : ∀ c ∈ xs, 128 ≤ c.toNat) : w <+: xs ++ s ↔ w = [] := by
  constructor
  · intro h
    obtain ⟨x, xs, rfl⟩ := List.exists_cons_of_ne_nil hx
    rcases List.prefix_cons_iff.1 h with rfl | ⟨v, rfl, -⟩
    · rfl
    · have hlt := hw x List.mem_cons_self
      have hge := hxs x List.mem_cons_self
      omega
  · rintro rfl
    exact List.nil_prefix

/-- An ASCII word stands in a text exactly if it does without a block of other characters in front.
-/
lemma infix_block_iff (hw : ∀ c ∈ w, c.toNat < 128) (hxs : ∀ c ∈ xs, 128 ≤ c.toNat) :
    w <:+: xs ++ s ↔ w <:+: s := by
  induction xs with
  | nil => rfl
  | cons x xs ih =>
    rw [List.cons_append, List.infix_cons_iff, ← List.cons_append,
      prefix_block_iff hw (List.cons_ne_nil x xs) hxs,
      ih fun c hc => hxs c (List.mem_cons_of_mem x hc)]
    refine or_iff_right_of_imp ?_
    rintro rfl
    exact List.nil_infix

/-- An ASCII word stands at the front of both texts or of none. -/
lemma SameAscii.prefix_iff (h : SameAscii s t) (hw : ∀ c ∈ w, c.toNat < 128) :
    w <+: s ↔ w <+: t := by
  induction h generalizing w with
  | nil => rfl
  | cons c h ih =>
    cases w with
    | nil => simp
    | cons d w =>
      rw [List.cons_prefix_cons, List.cons_prefix_cons,
        ih fun c hc => hw c (List.mem_cons_of_mem d hc)]
  | block hx hy hxs hys h ih => rw [prefix_block_iff hw hx hxs, prefix_block_iff hw hy hys]

/-- An ASCII word stands in both texts or in none. -/
lemma SameAscii.infix_iff (h : SameAscii s t) (hw : ∀ c ∈ w, c.toNat < 128) :
    w <:+: s ↔ w <:+: t := by
  induction h with
  | nil => rfl
  | cons c h ih =>
    rw [List.infix_cons_iff, List.infix_cons_iff, (h.cons c).prefix_iff hw, ih]
  | block hx hy hxs hys h ih => rw [infix_block_iff hw hxs, infix_block_iff hw hys, ih]

/-- The search for a word finds it wherever it stands. -/
lemma occursIn_iff : occursIn w s ↔ w <:+: s := by
  induction s with
  | nil => rw [occursIn, List.isEmpty_iff, List.infix_nil]
  | cons c s ih =>
    rw [occursIn, Bool.or_eq_true, ih, List.isPrefixOf_iff_prefix, List.infix_cons_iff]

end Words

/-- Characters beyond ASCII are not lowered. -/
lemma toLower_of_ge {c : Char} (h : 128 ≤ c.toNat) : c.toLower = c := by
  refine dif_neg fun hc => ?_
  have hle : c.toNat ≤ 90 := hc.2
  omega

/-- A name is lowered as any lower-casing does, as far as its ASCII characters go. -/
lemma sameAscii_lower (L : LowerCasing) (before cs : List Char) :
    SameAscii (cs.flatMap lowerChar) (L.textFrom before cs) := by
  induction cs generalizing before with
  | nil => exact .nil
  | cons c cs ih =>
    have hrest := ih (c :: before)
    rw [List.flatMap_cons, LowerCasing.textFrom]
    rcases Nat.lt_or_ge c.toNat 128 with hlt | hge
    · have hk : c ≠ '\u212a' := by rintro rfl; exact absurd hlt (by decide)
      have hi : c ≠ '\u0130' := by rintro rfl; exact absurd hlt (by decide)
      rw [L.ascii before c cs hlt, lowerChar, if_neg hk, if_neg hi]
      exact hrest.cons _
    · by_cases hk : c = '\u212a'
      · subst hk
        rw [L.kelvinSign]
        exact hrest.cons _
      · by_cases hi : c = '\u0130'
        · subst hi
          rw [L.dottedI]
          exact (hrest.cons _).cons _
        · rw [lowerChar, if_neg hk, if_neg hi, toLower_of_ge hge]
          refine .block (List.cons_ne_nil c []) (L.other_ne_nil before c cs) ?_
            (L.other before c cs hge hk hi) hrest
          intro d hd
          rwa [List.mem_singleton.1 hd]

/-! ## What is withheld -/

/-- Whether the name of a field tells of a secret: one of these words stands somewhere in it, in any
case. -/
def TellsOfSecret (L : LowerCasing) (name : String) : Prop :=
  ∃ w ∈ ["token", "password", "secret", "api_key", "authorization", "bearer"],
    w.toList <:+: L.text name

/-- Whether a value is a bearer token. -/
def IsBearerToken (value : String) : Prop :=
  "Bearer ".toList <+: value.toList

/-- A name is taken for sensitive exactly if it tells of a secret, whatever lower-casing is used. -/
lemma isSensitiveName_iff (L : LowerCasing) {name : String} :
    isSensitiveName name ↔ TellsOfSecret L name := by
  have hascii : ∀ w ∈ sensitiveWords, ∀ c ∈ w.toList, c.toNat < 128 := by
    simp [sensitiveWords]
  rw [isSensitiveName, List.any_eq_true]
  refine exists_congr fun w => and_congr_right fun hw => ?_
  rw [occursIn_iff]
  exact (sameAscii_lower L [] name.toList).infix_iff (hascii w hw)

/-- A value is taken for a bearer token exactly if it is one. -/
lemma isBearer_iff {value : String} : isBearer value ↔ IsBearerToken value :=
  List.isPrefixOf_iff_prefix

/-- A secret is replaced. -/
lemma redact_of_secret {L : LowerCasing} {name value : String}
    (h : TellsOfSecret L name ∨ IsBearerToken value) : redact name value = "[REDACTED]" := by
  rw [← isSensitiveName_iff, ← isBearer_iff, ← Bool.or_eq_true] at h
  exact if_pos h

/-- What is no secret is left as it is. -/
lemma redact_of_not_secret {L : LowerCasing} {name value : String}
    (hn : ¬ TellsOfSecret L name) (hv : ¬ IsBearerToken value) : redact name value = value := by
  rw [← isSensitiveName_iff] at hn
  rw [← isBearer_iff] at hv
  exact if_neg (by simp [hn, hv])

/-! ## Entries -/

/-- The text of the last one of the values of a name. -/
def lastText? (rs : List (String × Recorded)) (name : String) : Option String :=
  (rs.reverse.lookup name).map Recorded.toText

/-- The text of the value that an event carries under a name, of the last one if there are several.
-/
def Event.value? (e : Event) (name : String) : Option String :=
  lastText? e.records name

/-- What an entry tells of an event. The message is told as it is; everything else is told under its
name, or withheld. -/
structure Entry.TellsOf (L : LowerCasing) (redacting : Bool) (innermost : Option String) (e : Event)
    (entry : Entry) : Prop where
  level : entry.level = e.level
  target : entry.target = e.target
  message : entry.message = (e.value? "message").getD e.name
  span : entry.span = innermost
  /-- Each name is there once. -/
  once : Json.Ascending entry.fields
  unnamed : ∀ name, name = "message" ∨ e.value? name = none → entry.fields.lookup name = none
  withheld : redacting → ∀ name v, name ≠ "message" → e.value? name = some v →
    TellsOfSecret L name ∨ IsBearerToken v → entry.fields.lookup name = some "[REDACTED]"
  told : ∀ name v, name ≠ "message" → e.value? name = some v →
    (redacting → ¬ TellsOfSecret L name ∧ ¬ IsBearerToken v) → entry.fields.lookup name = some v

section Collected

variable {rs : List (String × Recorded)} {c : Collector}

/-- What has been collected of values that were recorded in turn. -/
structure Collector.Holds (c : Collector) (rs : List (String × Recorded)) : Prop where
  message : c.message = lastText? rs "message"
  lookup : ∀ name, c.values.lookup name = if name = "message" then none else lastText? rs name
  ascending : Json.Ascending c.values

/-- A value that is recorded goes before all others of its name. -/
lemma lastText?_append (rs : List (String × Recorded)) (r : String × Recorded) (name : String) :
    lastText? (rs ++ [r]) name = if name = r.1 then some r.2.toText else lastText? rs name := by
  rw [lastText?, List.reverse_append, List.reverse_singleton, List.singleton_append,
    Json.lookup_cons]
  split <;> rfl

/-- One more value is collected. -/
lemma Collector.Holds.record (h : c.Holds rs) (r : String × Recorded) :
    (c.record r).Holds (rs ++ [r]) := by
  unfold Collector.record push
  split
  case isTrue hr =>
    refine ⟨?_, fun name => ?_, h.ascending⟩
    · rw [lastText?_append, if_pos hr.symm]
    · rw [h.lookup, lastText?_append, hr]
      split <;> rfl
  case isFalse hr =>
    refine ⟨?_, fun name => ?_, h.ascending.put⟩
    · rw [lastText?_append, if_neg (Ne.symm hr)]
      exact h.message
    · rw [Json.lookup_put, h.lookup, lastText?_append]
      by_cases hn : name = r.1
      · rw [if_pos hn, if_pos hn, if_neg (hn ▸ hr)]
      · rw [if_neg hn, if_neg hn]

/-- All values that are recorded are collected. -/
lemma Collector.holds_collect (rs : List (String × Recorded)) :
    (Collector.collect rs).Holds rs := by
  induction rs using List.reverseRecOn with
  | nil => exact ⟨rfl, fun name => (ite_self _).symm, .nil⟩
  | append_singleton rs r ih =>
    have hcollect : Collector.collect (rs ++ [r]) = (Collector.collect rs).record r :=
      List.foldl_append
    exact hcollect ▸ ih.record r

end Collected

section Told

variable (redacting : Bool) (span : Option String) (e : Event)

/-- Values that have been collected, as they are told. -/
def toldValues (vs : List (String × String)) : List (String × String) :=
  vs.map fun f => (f.1, told redacting f.1 f.2)

/-- What is told keeps the order of its names. -/
lemma ascending_toldValues {vs : List (String × String)} (h : Json.Ascending vs) :
    Json.Ascending (toldValues redacting vs) :=
  List.pairwise_map.2 h

/-- An entry for an event, put together at once. -/
lemma Entry.ofEvent_eq :
    Entry.ofEvent redacting span e =
      { level := e.level
        target := e.target
        message := (e.value? "message").getD e.name
        fields := toldValues redacting (Collector.collect e.records).values
        span } := by
  have hcollected := Collector.holds_collect e.records
  have hfold (vs : List (String × String)) (entry : Entry) :
      vs.foldl (fun entry f => entry.withField f.1 (told redacting f.1 f.2)) entry =
        { entry with
          fields := (toldValues redacting vs).foldl (fun ms f => Json.put f.1 f.2 ms)
            entry.fields } := by
    induction vs generalizing entry with
    | nil => rfl
    | cons f vs ih => exact ih _
  have hfields : Json.ofPairs (toldValues redacting (Collector.collect e.records).values) = _ :=
    (ascending_toldValues redacting hcollected.ascending).ofPairs_eq (.refl _)
  simp only [Entry.ofEvent, hfold, hcollected.message, Entry.make]
  exact congrArg (Entry.mk _ _ _ · _) hfields

/-- Under every name but that of the message, what an event carries is told. -/
lemma Entry.lookup_ofEvent (name : String) :
    (Entry.ofEvent redacting span e).fields.lookup name =
      if name = "message" then none else (e.value? name).map (told redacting name) := by
  rw [ofEvent_eq, toldValues, Json.lookup_map, (Collector.holds_collect e.records).lookup]
  split <;> rfl

/-- The entry for an event tells of it. -/
lemma Entry.ofEvent_tellsOf (L : LowerCasing) :
    (Entry.ofEvent redacting span e).TellsOf L redacting span e where
  level := by rw [ofEvent_eq]
  target := by rw [ofEvent_eq]
  message := by rw [ofEvent_eq]
  span := by rw [ofEvent_eq]
  once := by
    rw [ofEvent_eq]
    exact ascending_toldValues redacting (Collector.holds_collect e.records).ascending
  unnamed name h := by
    rw [lookup_ofEvent]
    split
    case isTrue => rfl
    case isFalse hn => rw [h.resolve_left hn, Option.map_none]
  withheld hr name v hn hv hs := by
    rw [lookup_ofEvent, if_neg hn, hv, Option.map_some, Log.told, if_pos hr, redact_of_secret hs]
  told name v hn hv hs := by
    rw [lookup_ofEvent, if_neg hn, hv, Option.map_some, Log.told]
    split
    case isTrue hr => rw [redact_of_not_secret (hs hr).1 (hs hr).2]
    case isFalse => rfl

end Told

/-! ## Two logs -/

/-- Whether two recorded values under names are the same as texts but for a secret. The message is
no secret, whatever it is. -/
def AlikeRecord (L : LowerCasing) (f g : String × Recorded) : Prop :=
  f.1 = g.1 ∧ (f.2.toText = g.2.toText ∨ f.1 ≠ "message" ∧
    (TellsOfSecret L f.1 ∨ IsBearerToken f.2.toText ∧ IsBearerToken g.2.toText))

/-- Whether two reports are the same but for secrets among the values. -/
structure Report.Alike (L : LowerCasing) (r r' : Report) : Prop where
  spans : r'.spans = r.spans
  event : r'.event = { r.event with records := r'.event.records }
  records : List.Forall₂ (AlikeRecord L) r.event.records r'.event.records

section Logs

variable {L : LowerCasing} {f g : String × Recorded} {rs rs' : List (String × Recorded)}
  {r r' : Report} {way : Forwarding}

/-- Of what two alike values come to as texts, the same is told. -/
lemma AlikeRecord.redact_eq (h : AlikeRecord L f g) :
    redact f.1 f.2.toText = redact g.1 g.2.toText := by
  obtain ⟨hname, hvalue | ⟨-, hsecret | ⟨hf, hg⟩⟩⟩ := h
  · rw [hname, hvalue]
  · rw [redact_of_secret (.inl hsecret), redact_of_secret (.inl (hname ▸ hsecret))]
  · rw [redact_of_secret (L := L) (.inr hf), redact_of_secret (L := L) (.inr hg)]

/-- A value that replaces another one is told in its place. -/
lemma toldValues_put (name text : String) (vs : List (String × String)) :
    toldValues true (Json.put name text vs) =
      Json.put name (redact name text) (toldValues true vs) := by
  induction vs with
  | nil => rfl
  | cons f vs ih =>
    show toldValues true (if name < f.1 then _ else if name = f.1 then _ else _) =
      if name < f.1 then _ else if name = f.1 then _ else _
    split
    · rfl
    · split
      · rfl
      · exact congrArg (_ :: ·) ih

/-- Whether of two events the same has been collected, as far as it is told. -/
structure Collector.SameTold (c d : Collector) : Prop where
  message : c.message = d.message
  values : toldValues true c.values = toldValues true d.values

/-- One alike value more keeps what is told the same. -/
lemma Collector.SameTold.record {c d : Collector} (hc : c.SameTold d) (h : AlikeRecord L f g) :
    (c.record f).SameTold (d.record g) := by
  have hredact := h.redact_eq
  obtain ⟨hname, hvalue⟩ := h
  simp only [Collector.record, push, ← hname] at hredact ⊢
  split
  case isTrue hm => exact ⟨congrArg some (hvalue.resolve_right fun hv => hv.1 hm), hc.values⟩
  case isFalse =>
    exact ⟨hc.message, by rw [toldValues_put, toldValues_put, hc.values, hredact]⟩

/-- Alike values keep what is told the same. -/
lemma Collector.SameTold.foldl {c d : Collector} (hc : c.SameTold d)
    (h : List.Forall₂ (AlikeRecord L) rs rs') :
    (rs.foldl Collector.record c).SameTold (rs'.foldl Collector.record d) := by
  induction h generalizing c d with
  | nil => exact hc
  | cons hf _ ih => exact ih (hc.record hf)

/-- Of two alike events the same is told. -/
lemma ofEvent_eq_of_alike (span : Option String) (h : Report.Alike L r r') :
    Entry.ofEvent true span r.event = Entry.ofEvent true span r'.event := by
  have hsame : (Collector.collect r.event.records).SameTold (.collect r'.event.records) :=
    Collector.SameTold.foldl ⟨rfl, rfl⟩ h.records
  have hmessage : r.event.value? "message" = r'.event.value? "message" :=
    (Collector.holds_collect r.event.records).message.symm.trans
      (hsame.message.trans (Collector.holds_collect r'.event.records).message)
  rw [Entry.ofEvent_eq, Entry.ofEvent_eq, hsame.values, hmessage, h.event]

/-- Two alike lists of values are there under the same names. -/
lemma names_eq_of_alike (h : List.Forall₂ (AlikeRecord L) rs rs') :
    rs'.map Prod.fst = rs.map Prod.fst := by
  induction h with
  | nil => rfl
  | cons hf _ ih => rw [List.map_cons, List.map_cons, ih, hf.1]

/-- What decides on whether an event is received. -/
lemma isSome_entry?_iff : (way.entry? r).isSome ↔
    way.filter.allows r ∧ ∃ least, way.sink = some least ∧ least.rank ≤ r.event.level.rank := by
  unfold Forwarding.entry?
  cases way.sink with
  | none => simp
  | some least => simp

/-- For two alike events the application receives the same. -/
lemma entry?_eq_of_alike (hr : way.redacting) (h : Report.Alike L r r') :
    way.entry? r = way.entry? r' := by
  have hallows := way.filter.allows_of_names r _ (names_eq_of_alike h.records)
  rw [← h.event, ← h.spans] at hallows
  have hlevel : r'.event.level = r.event.level := by rw [h.event]
  simp only [Forwarding.entry?, hr, hallows, h.spans, hlevel, ofEvent_eq_of_alike _ h]

end Logs

/-- With redaction on, two logs that differ in secrets only are the same to the application: in
values whose names tell of a secret, and in values that are bearer tokens in both of them. What the
application receives for an event tells of it under the names that it carries, each value as it is
where it is no secret, and all values as they are with redaction off. An event that passes the
filter is received exactly if it is not less important than what the application wants, and its
values do not matter for either. All this holds whichever filter it is, as long as it does not look
at values; `Watch.toFilter` is the one in use. -/
theorem secrets_withheld (L : LowerCasing) (way : Forwarding) :
    (way.redacting → ∀ rs rs', List.Forall₂ (Report.Alike L) rs rs' →
      way.entries rs = way.entries rs') ∧
    (∀ r entry, way.entry? r = some entry →
      entry.TellsOf L way.redacting (way.filter.innermost r.spans) r.event) ∧
    (∀ r, (way.entry? r).isSome ↔
      way.filter.allows r ∧ ∃ least, way.sink = some least ∧ least.rank ≤ r.event.level.rank) ∧
    ∀ (r : Report) (records : List (String × Recorded)),
      records.map Prod.fst = r.event.records.map Prod.fst →
      way.filter.allows { r with event := { r.event with records } } = way.filter.allows r ∧
      (way.entry? { r with event := { r.event with records } }).isSome =
        (way.entry? r).isSome := by
  refine ⟨?_, ?_, fun r => isSome_entry?_iff, ?_⟩
  · intro hr rs rs' h
    induction h with
    | nil => rfl
    | cons halike _ ih =>
      simp only [Forwarding.entries, List.filterMap_cons, entry?_eq_of_alike hr halike] at ih ⊢
      rw [ih]
  · intro r entry he
    unfold Forwarding.entry? at he
    split at he
    case h_1 => cases he
    case h_2 =>
      split at he <;> cases he
      exact Entry.ofEvent_tellsOf _ _ _ L
  · intro r records hnames
    have hallows := way.filter.allows_of_names r records hnames
    exact ⟨hallows, by rw [Bool.eq_iff_iff, isSome_entry?_iff, isSome_entry?_iff, hallows]⟩

/-- Lower-casing of ASCII letters, with the two characters that have one for their lower case. -/
def asciiLowerCasing : LowerCasing where
  character _ c _ := lowerChar c
  ascii _ c _ h := by
    have hk : c ≠ '\u212a' := by rintro rfl; exact absurd h (by decide)
    have hi : c ≠ '\u0130' := by rintro rfl; exact absurd h (by decide)
    rw [lowerChar, if_neg hk, if_neg hi]
  kelvinSign _ _ := rfl
  dottedI _ _ := rfl
  other_ne_nil _ c _ := by
    unfold lowerChar
    split
    · exact List.cons_ne_nil _ _
    · split <;> exact List.cons_ne_nil _ _
  other _ c _ h hk hi := by
    intro d hd
    rw [lowerChar, if_neg hk, if_neg hi, toLower_of_ge h] at hd
    rwa [List.mem_singleton.1 hd]

/-- An event with a token whose name has a Kelvin sign for a letter, with a header, and with values
of other kinds. -/
def tokenReport (token header : String) : Report where
  spans := [Component.coordinator.span "transfer" []]
  event :=
    { level := .info
      target := Component.coordinator.target
      records := [("message", .shown "Page fetched"), ("folder_id", .text "1AbC"),
        ("Page_TO\u212aEN", .text token), ("attempts", .number 2), ("header", .text header)] }

/-- Two tokens under the same name and two headers with bearer tokens, in a log that is filtered as
it is by default. -/
theorem secrets_withheld_two_tokens :
    let l : Logging :=
      { watch := .ofFilter (.standard .info), redacting := true, sink := some .info }
    l.entries [tokenReport "ya29" "Bearer a"] = l.entries [tokenReport "ya30" "Bearer b"] ∧
      (l.entries [tokenReport "ya29" "Bearer a"]).map (fun e => (e.message, e.fields)) =
        [("Page fetched", [("Page_TO\u212aEN", "[REDACTED]"), ("attempts", "2"),
          ("folder_id", "1AbC"), ("header", "[REDACTED]")])] := by
  intro l
  obtain ⟨hsame, -, -, -⟩ := secrets_withheld asciiLowerCasing l.forwarding
  have htoken : TellsOfSecret asciiLowerCasing "Page_TO\u212aEN" :=
    (isSensitiveName_iff asciiLowerCasing).1 (by decide)
  have hbearer (c : Char) : IsBearerToken (String.ofList ("Bearer ".toList ++ [c])) :=
    ⟨[c], by simp⟩
  refine ⟨hsame rfl _ _ (.cons ⟨rfl, rfl, ?_⟩ .nil), by decide +kernel⟩
  exact .cons ⟨rfl, .inl rfl⟩ (.cons ⟨rfl, .inl rfl⟩
    (.cons ⟨rfl, .inr ⟨by decide, .inl htoken⟩⟩ (.cons ⟨rfl, .inl rfl⟩
      (.cons ⟨rfl, .inr ⟨by decide, .inr ⟨hbearer 'a', hbearer 'b'⟩⟩⟩ .nil))))

end Log

end FolderCopy
