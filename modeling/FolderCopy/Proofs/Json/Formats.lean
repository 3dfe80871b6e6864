import Mathlib.Logic.Equiv.Defs
import FolderCopy.CopyError
import FolderCopy.Log.Event
import FolderCopy.Progress
import FolderCopy.Proofs.Drive.Pages
import FolderCopy.Proofs.Json.Values

/-!
# Records that are written and read

Every kind of record has its reader beside its writer. What is written is read back as it was, so
that different records are never written alike, and an update is read from its members in any order
and among others. Main statement: `records_survive`.
-/

namespace FolderCopy

open Json

namespace Json

/-- How the records of a kind are written and read. -/
structure Format (α : Type) where
  write : α → Json
  read : Tree → Option α

namespace Format

variable {α : Type} {f : Format α} {Valid Integral : α → Prop}

/-- The bytes that a record is written in. -/
def encode (f : Format α) (a : α) : Bytes :=
  Text.Utf8.encode (f.write a).render

/-- The record that is read from bytes. -/
def decode (f : Format α) (body : Bytes) : Option α :=
  (Tree.ofBytes? body).bind f.read

/-- Whether what is written is read back: every valid record, and every record that was read itself,
if its numbers are integers. -/
structure Survives (f : Format α) (Valid Integral : α → Prop) : Prop where
  decoded : ∀ a, Valid a → f.decode (f.encode a) = some a
  again : ∀ body a, f.decode body = some a → Integral a → f.decode (f.encode a) = some a
  distinct : ∀ a b, Valid a → Valid b → f.encode a = f.encode b → a = b

/-- What is read from bytes is read from the tree that they were written for. -/
lemma decode_of_written {t : Tree} {body : Bytes} (h : t.Written body) :
    f.decode body = f.read t := by
  rw [decode, h.ofBytes?_eq, Option.bind_some]

/-- Records survive where the reader takes every tree that is written for the record it was written
for, and gives valid records only. -/
lemma survives (hwrite : ∀ a, Valid a → (f.write a).IsWritable)
    (hread : ∀ a, Valid a → f.read (f.write a).tree = some a)
    (hvalid : ∀ t a, f.read t = some a → Integral a → Valid a) : f.Survives Valid Integral := by
  have hdecoded (a : α) (ha : Valid a) : f.decode (f.encode a) = some a :=
    (decode_of_written (written_render (hwrite a ha))).trans (hread a ha)
  refine ⟨hdecoded, ?_, ?_⟩
  · intro body a h ha
    obtain ⟨t, -, ht⟩ := Option.bind_eq_some_iff.1 h
    exact hdecoded a (hvalid t a ht ha)
  · intro a b ha hb h
    exact Option.some.inj ((hdecoded a ha).symm.trans (h ▸ hdecoded b hb))

end Format

/-- A field that must be there was read from some tree. -/
lemma Slot.exists_of_required {α : Type} {value : Tree → Option α} {s : Slot} {a : α}
    (h : s.required value = some a) : ∃ t, value t = some a := by
  cases s with
  | given t => exact ⟨t, h⟩
  | noKey | noItem => cases h

/-- An object gives the fields that it is written with. -/
lemma gives_object (fields : List String) (members : List (String × Json)) :
    (object members).tree.Gives fields (members.map fun m => (m.1, m.2.tree)) :=
  gives_tree (.of_eq (List.append_nil members).symm) nofun

/-- What is written for a record of two fields says of both what it was written for. -/
lemma slots?_pair {k l : String} (hne : k ≠ l) (v w : Json) :
    (object [(k, v), (l, w)]).tree.slots? [k, l] = some [.given v.tree, .given w.tree] := by
  refine (gives_object [k, l] [(k, v), (l, w)]).slots?_eq (.cons ?_ (.cons ?_ .nil)) <;>
    simp [slot?, hne, hne.symm]

section Pairs

variable {α β : Type} {value : Tree → Option α} {number : α → Int} {InRange : α → Prop}
  {make : α → α → β}

/-- Reads a record of two members that must both be there. -/
def pair? (value : Tree → Option α) (make : α → α → β) : List Slot → Option β
  | [s, t] => (s.required value).bind fun x => (t.required value).bind fun y => some (make x y)
  | _ => none

/-- A record is read from its two members. -/
lemma pair?_given {s t : Tree} {x y : α} (hx : value s = some x) (hy : value t = some y) :
    pair? value make [.given s, .given t] = some (make x y) := by
  simp [pair?, Slot.required, hx, hy]

/-- Both members of a record have been read. -/
lemma exists_of_pair? {slots : List Slot} {b : β} (h : pair? value make slots = some b) :
    ∃ x y, (∃ u, value u = some x) ∧ (∃ u, value u = some y) ∧ make x y = b := by
  unfold pair? at h
  split at h
  · obtain ⟨x, hx, h⟩ := Option.bind_eq_some_iff.1 h
    obtain ⟨y, hy, h⟩ := Option.bind_eq_some_iff.1 h
    exact ⟨x, y, Slot.exists_of_required hx, Slot.exists_of_required hy, Option.some.inj h⟩
  · cases h

/-- Records of two numbers survive where the reader of numbers takes all that are in a range, and
gives none beyond it. -/
lemma Format.survives_pair {f : Format β} (e : β ≃ α × α) {k l : String} (hne : k ≠ l)
    (hvalue : ∀ x, InRange x → value (int (number x)).tree = some x)
    (hrange : ∀ t x, value t = some x → InRange x)
    (hwrite : ∀ b, f.write b = object [(k, int (number (e b).1)), (l, int (number (e b).2))])
    (hread : ∀ t, f.read t = (t.slots? [k, l]).bind (pair? value fun x y => e.symm (x, y))) :
    f.Survives (fun b => InRange (e b).1 ∧ InRange (e b).2) fun _ => True := by
  refine Format.survives ?_ ?_ ?_
  · intro b _
    rw [hwrite]
    exact ⟨trivial, trivial, trivial⟩
  · rintro b ⟨hx, hy⟩
    rw [hread, hwrite, slots?_pair hne, Option.bind_some, pair?_given (hvalue _ hx) (hvalue _ hy)]
    exact congrArg some (e.symm_apply_apply b)
  · intro t b h _
    rw [hread] at h
    obtain ⟨slots, -, h⟩ := Option.bind_eq_some_iff.1 h
    obtain ⟨x, y, ⟨_, hx⟩, ⟨_, hy⟩, rfl⟩ := exists_of_pair? h
    rw [e.apply_symm_apply]
    exact ⟨hrange _ x hx, hrange _ y hy⟩

end Pairs

/-- A text is read as it was written. -/
lemma text?_tree (s : String) : (text s).tree.text? = some s :=
  pieceText?_escapePieces s

/-- A name is read as it was written. -/
lemma name?_tree (s : String) : (text s).tree.name? = some s :=
  pieceText?_escapePieces s

end Json

section Counters

/-- Whether totals are counts of 64 bits. -/
def Totals.Fits (t : Totals) : Prop :=
  t.files ≤ maxCount ∧ t.bytes ≤ maxCount

def Totals.format : Format Totals :=
  ⟨toJson, ofTree?⟩

/-- Totals as a pair of numbers, in the order in which they are written. -/
def Totals.equivPair : Totals ≃ Nat × Nat where
  toFun t := (t.files, t.bytes)
  invFun p := ⟨p.1, p.2⟩

/-- Totals survive as long as they fit. -/
lemma Totals.survives : format.Survives Fits fun _ => True :=
  Format.survives_pair equivPair (by decide : "files" ≠ "bytes") (fun _ => count?_tree)
    (fun _ _ => le_of_count?) (fun _ => rfl) fun _ => rfl

namespace Progress

/-- Whether the amounts of a change are integers of 64 bits with a sign. -/
def Delta.Fits (d : Delta) : Prop :=
  (minInt ≤ d.bytes ∧ d.bytes ≤ maxInt) ∧ minInt ≤ d.files ∧ d.files ≤ maxInt

def Delta.format : Format Delta :=
  ⟨toJson, ofTree?⟩

/-- A change as a pair of numbers, in the order in which they are written. -/
def Delta.equivPair : Delta ≃ Int × Int where
  toFun d := (d.bytes, d.files)
  invFun p := ⟨p.1, p.2⟩

/-- A change survives as long as it fits. -/
lemma Delta.survives : format.Survives Fits fun _ => True :=
  Format.survives_pair equivPair (by decide : "bytes" ≠ "files") (fun _ => signed?_tree)
    (fun _ _ => bounds_of_signed?) (fun _ => rfl) fun _ => rfl

/-- Whether counters are counts of 64 bits. -/
def Snapshot.Fits (s : Snapshot) : Prop :=
  s.bytes ≤ maxCount ∧ s.files ≤ maxCount

def Snapshot.format : Format Snapshot :=
  ⟨toJson, ofTree?⟩

/-- Counters as a pair of numbers, in the order in which they are written. -/
def Snapshot.equivPair : Snapshot ≃ Nat × Nat where
  toFun s := (s.bytes, s.files)
  invFun p := ⟨p.1, p.2⟩

/-- Counters that fit are read as they were written. -/
lemma Snapshot.Fits.ofSlots?_eq {s : Snapshot} (h : s.Fits) :
    ofSlots? [.given (Json.int s.bytes).tree, .given (Json.int s.files).tree] = some s :=
  pair?_given (count?_tree h.1) (count?_tree h.2)

/-- Counters that are read fit. -/
lemma Snapshot.fits_of_ofSlots? {slots : List Slot} {s : Snapshot} (h : ofSlots? slots = some s) :
    s.Fits := by
  obtain ⟨bytes, files, ⟨_, hbytes⟩, ⟨_, hfiles⟩, rfl⟩ := exists_of_pair? h
  exact ⟨le_of_count? hbytes, le_of_count? hfiles⟩

/-- Counters survive as long as they fit. -/
lemma Snapshot.survives : format.Survives Fits fun _ => True :=
  Format.survives_pair equivPair (by decide : "bytesRemaining" ≠ "filesRemaining")
    (fun _ => count?_tree) (fun _ _ => le_of_count?) (fun _ => rfl) fun _ => rfl

end Progress

end Counters

section Messages

namespace StatusMessage

/-- Whether a message can be read back where it stands inside `around` containers: its arguments are
in order, and their values are regular to the depth that is left. -/
structure Regular (around : Nat) (m : StatusMessage) : Prop where
  order : Ascending m.args
  values : ∀ a ∈ m.args, a.2.Regular (maxNesting - around - 2)

/-- Whether the numbers in the arguments of a message are integers. -/
def Integral (m : StatusMessage) : Prop :=
  ∀ a ∈ m.args, a.2.Integral

/-- Whether a tree stands for a message. Its fields and its arguments are in any order, and its
texts are spelled in any way. -/
def IsSent (m : StatusMessage) (t : Tree) : Prop :=
  ∃ text key args, Drive.IsText m.text text ∧ Drive.IsText m.key key ∧ List.Perm args m.args ∧
    t.Gives fields [("defaultMessage", text), ("messageKey", key),
      ("messageArgs", (Json.object args).tree)]

def format : Format StatusMessage :=
  ⟨toJson, ofTree? 0⟩

variable {m : StatusMessage} {t : Tree} {around : Nat}

/-- The way in which a message is written stands for it. -/
lemma isSent_tree (m : StatusMessage) : m.IsSent m.toJson.tree :=
  ⟨_, _, m.args, Drive.isText_tree m.text, Drive.isText_tree m.key, .refl _, gives_object fields _⟩

/-- From every tree that stands for a message this message is read. -/
lemma Regular.ofTree?_eq (h : m.Regular around) (ht : m.IsSent t) : ofTree? around t = some m := by
  obtain ⟨text, key, args, htext, hkey, hargs, hgives⟩ := ht
  have hvalues : args? (maxNesting - around - 2) (Json.object args).tree = some m.args := by
    have hvalue : ∀ a ∈ args, a.2.tree.value? (maxNesting - around - 2) = some a.2 := fun a ha =>
      (h.values a (hargs.mem_iff.1 ha)).value?_eq
    rw [tree, args?, memberValues?_memberTrees hvalue, Option.map_some, h.order.ofPairs_eq hargs]
  rw [ofTree?, hgives.slots?_eq (.cons rfl (.cons rfl (.cons rfl .nil)))]
  simp [Slot.required, htext.text?_eq, hkey.text?_eq, hvalues]

/-- A message that was read can be read again. -/
lemma regular_of_ofTree? (h : ofTree? around t = some m) (hm : m.Integral) : m.Regular around := by
  obtain ⟨slots, -, h⟩ := Option.bind_eq_some_iff.1 h
  split at h
  · obtain ⟨text, -, h⟩ := Option.bind_eq_some_iff.1 h
    obtain ⟨key, -, h⟩ := Option.bind_eq_some_iff.1 h
    obtain ⟨args, hargs, h⟩ := Option.bind_eq_some_iff.1 h
    cases h
    obtain ⟨t, ht⟩ := Slot.exists_of_required hargs
    cases t with
    | object ms =>
      obtain ⟨ps, hps, rfl⟩ := Option.map_eq_some_iff.1 ht
      obtain ⟨hascending, hmem⟩ := ascending_ofPairs ps
      exact ⟨hascending, fun a ha => regular_of_memberValues? ms _ hps a (hmem a ha) (hm a ha)⟩
    | _ => cases ht
  · cases h

/-- A message that can be read can be written. -/
lemma Regular.isWritable (h : m.Regular around) : m.toJson.IsWritable :=
  ⟨trivial, trivial, membersWritable_of_forall fun a ha => (h.values a ha).isWritable, trivial⟩

/-- Messages survive as long as they are not nested too deep. -/
lemma survives : format.Survives (Regular 0) Integral :=
  Format.survives (fun _ hm => hm.isWritable) (fun m hm => hm.ofTree?_eq m.isSent_tree)
    fun _ _ h hm => regular_of_ofTree? h hm

end StatusMessage

namespace Progress.Update

/-- Whether an update can be read back: its counters fit, and so does its message, which stands
inside the update. -/
structure Regular (u : Update) : Prop where
  progress : u.progress.Fits
  message : u.message.Regular 1

def Integral (u : Update) : Prop :=
  u.message.Integral

/-- Whether a tree stands for an update. Its counters and its message are in any order, and among
members with unknown keys, whose values can be read. -/
def IsSent (u : Update) : Tree → Prop
  | .object ms => ∃ members message extras, SpellsMembers ms members ∧ u.message.IsSent message ∧
      members.Perm ([("bytesRemaining", (Json.int u.progress.bytes).tree),
        ("filesRemaining", (Json.int u.progress.files).tree), ("message", message)] ++ extras) ∧
      ∀ m ∈ extras, m.1 ∉ ["bytesRemaining", "filesRemaining", "message"] ∧
        ∃ v, m.2.value? (maxNesting - 1) = some v
  | _ => False

def format : Format Update :=
  ⟨toJson, ofTree?⟩

variable {u : Update} {t : Tree}

/-- The way in which an update is written stands for it. -/
lemma isSent_tree (u : Update) : u.IsSent u.toJson.tree :=
  ⟨_, _, [], spellsMembers_memberTrees _, u.message.isSent_tree, .refl _, nofun⟩

/-- From every tree that stands for an update this update is read. -/
lemma Regular.ofTree?_eq (h : u.Regular) (ht : u.IsSent t) : ofTree? t = some u := by
  cases t with
  | null | bool | number | text | array => exact ht.elim
  | object ms =>
    obtain ⟨members, message, extras, hms, hmessage, hperm, hextras⟩ := ht
    have hslot {field : String} {s : Slot}
        (hfield : field ∈ ["bytesRemaining", "filesRemaining", "message"])
        (hs : slot? [("bytesRemaining", (Json.int u.progress.bytes).tree),
          ("filesRemaining", (Json.int u.progress.files).tree), ("message", message)] field =
          some s) : slot? members field = some s :=
      slot?_of_perm hperm (fun m hm he => (hextras m hm).1 (he ▸ hfield)) hs
    have hreadable : ((members.filter fun m =>
        (["bytesRemaining", "filesRemaining", "message"].contains m.1).not).any
          fun m => (m.2.value? (maxNesting - 1)).isNone) = false := by
      rw [List.any_eq_false]
      intro m hm
      obtain ⟨hm, hunknown⟩ := List.mem_filter.1 hm
      rcases List.mem_append.1 (hperm.mem_iff.1 hm) with hgiven | hextra
      · simp only [List.mem_cons, List.not_mem_nil, or_false] at hgiven
        rcases hgiven with rfl | rfl | rfl <;> simp at hunknown
      · obtain ⟨-, v, hv⟩ := hextras m hextra
        simp [hv]
    have hbytes : slot? members "bytesRemaining" = _ := hslot (by decide) rfl
    have hfiles : slot? members "filesRemaining" = _ := hslot (by decide) rfl
    have hgiven : slot? members "message" = _ := hslot (by decide) rfl
    simp only [ofTree?, hms.members?_eq, Option.bind_eq_bind, Option.bind_some, hreadable,
      Bool.false_eq_true, if_false, hbytes, hfiles, hgiven, h.progress.ofSlots?_eq, Slot.required,
      h.message.ofTree?_eq hmessage]
    rfl

/-- An update that was read can be read again. -/
lemma regular_of_ofTree? (h : ofTree? t = some u) (hu : u.Integral) : u.Regular := by
  obtain ⟨members, -, h⟩ := Option.bind_eq_some_iff.1 h
  dsimp only at h
  split at h
  · cases h
  · obtain ⟨bytes, -, h⟩ := Option.bind_eq_some_iff.1 h
    obtain ⟨files, -, h⟩ := Option.bind_eq_some_iff.1 h
    obtain ⟨message, -, h⟩ := Option.bind_eq_some_iff.1 h
    obtain ⟨progress, hprogress, h⟩ := Option.bind_eq_some_iff.1 h
    obtain ⟨message, hmessage, h⟩ := Option.bind_eq_some_iff.1 h
    cases h
    obtain ⟨t, ht⟩ := Slot.exists_of_required hmessage
    exact ⟨Snapshot.fits_of_ofSlots? hprogress, StatusMessage.regular_of_ofTree? ht hu⟩

/-- Updates survive as long as their counters fit and their messages are not nested too deep. -/
lemma survives : format.Survives Regular Integral := by
  refine Format.survives ?_ (fun u hu => hu.ofTree?_eq u.isSent_tree) fun _ _ h hu =>
    regular_of_ofTree? h hu
  exact fun u hu => ⟨trivial, trivial, hu.message.isWritable, trivial⟩

end Progress.Update

end Messages

section Texts

def Drive.FileRecord.format : Format Drive.FileRecord :=
  ⟨toJson, ofTree?⟩

/-- What is written for a file says nothing of a size where there is none. -/
lemma Drive.FileRecord.slots?_tree (f : FileRecord) :
    f.toJson.tree.slots? ["id", "name", "size"] = some [.given (Json.text f.id).tree,
      .given (Json.text f.name).tree, f.size.elim .noKey fun s => .given (Json.text s).tree] := by
  obtain ⟨id, name, size⟩ := f
  cases size with
  | none => exact (gives_object _ _).slots?_eq (.cons rfl (.cons rfl (.cons rfl .nil)))
  | some s => exact (gives_object _ _).slots?_eq (.cons rfl (.cons rfl (.cons rfl .nil)))

/-- A file survives, with or without a size. -/
lemma Drive.FileRecord.survives : format.Survives (fun _ => True) fun _ => True := by
  refine Format.survives ?_ ?_ fun _ _ _ _ => trivial
  · rintro ⟨id, name, size⟩ -
    cases size with
    | none => exact ⟨trivial, trivial, trivial⟩
    | some s => exact ⟨trivial, trivial, trivial, trivial⟩
  · rintro f -
    have hsize : (f.size.elim Slot.noKey fun s => .given (Json.text s).tree).optionalKey
        Tree.text? = some f.size := by
      cases f.size with
      | none => rfl
      | some s => exact (isText_tree s).nullable?_eq
    show ofTree? f.toJson.tree = some f
    rw [ofTree?, slots?_tree]
    simp [Slot.required, Slot.withDefault, text?_tree, hsize]

def ErrorKind.format : Format ErrorKind :=
  ⟨toJson, ofTree?⟩

/-- The kind of an error survives. -/
lemma ErrorKind.survives : format.Survives (fun _ => True) fun _ => True := by
  refine Format.survives (fun _ _ => trivial) ?_ fun _ _ _ _ => trivial
  intro k _
  exact (congrArg (Option.bind · ofName?) (name?_tree k.name)).trans k.ofName?_name

def Log.Level.format : Format Log.Level :=
  ⟨toJson, ofTree?⟩

/-- A level survives. -/
lemma Log.Level.survives : format.Survives (fun _ => True) fun _ => True := by
  refine Format.survives (fun _ _ => trivial) ?_ fun _ _ _ _ => trivial
  intro l _
  exact (congrArg (Option.bind · ofTitle?) (name?_tree l.title)).trans l.ofTitle?_title

end Texts

/-- Every kind of record is read back as it was written, and so is every record that was read
itself; different records are written differently. This holds of messages whose arguments have
integers of 64 bits for numbers and nest no deeper than is read, of counters, totals and changes of
64 bits, and of all files, kinds of errors and levels. An update is read from its members in any
order and among others. -/
theorem records_survive :
    StatusMessage.format.Survives (StatusMessage.Regular 0) StatusMessage.Integral ∧
    Progress.Snapshot.format.Survives Progress.Snapshot.Fits (fun _ => True) ∧
    Progress.Update.format.Survives Progress.Update.Regular Progress.Update.Integral ∧
    Progress.Delta.format.Survives Progress.Delta.Fits (fun _ => True) ∧
    Totals.format.Survives Totals.Fits (fun _ => True) ∧
    Drive.FileRecord.format.Survives (fun _ => True) (fun _ => True) ∧
    ErrorKind.format.Survives (fun _ => True) (fun _ => True) ∧
    Log.Level.format.Survives (fun _ => True) (fun _ => True) ∧
    ∀ u : Progress.Update, u.Regular → ∀ t body, u.IsSent t → t.Written body →
      Progress.Update.format.decode body = some u := by
  refine ⟨StatusMessage.survives, Progress.Snapshot.survives, Progress.Update.survives,
    Progress.Delta.survives, Totals.survives, Drive.FileRecord.survives, ErrorKind.survives,
    Log.Level.survives, ?_⟩
  intro u hu t body ht hbody
  exact (Format.decode_of_written hbody).trans (hu.ofTree?_eq ht)

/-- An update with numbers at the bounds and a text that needs escapes. -/
def updateAtBounds : Progress.Update where
  progress := ⟨maxCount, 0⟩
  message := ⟨"\"\\\n", "", [("a", .int maxCount), ("b", .array [.int minInt, .object []])]⟩

/-- The members of that update behind an unknown one and in reverse order. -/
def updateReversed : Json :=
  .object [("note", .array [.null]), ("message", updateAtBounds.message.toJson),
    ("filesRemaining", .int 0), ("bytesRemaining", .int maxCount)]

/-- The update with the largest counters can be read back. -/
lemma regular_updateAtBounds : updateAtBounds.Regular := by
  refine ⟨⟨Nat.le_refl _, Nat.zero_le _⟩, List.pairwise_pair.2 (by decide), ?_⟩
  intro a ha
  simp only [updateAtBounds, List.mem_cons, List.not_mem_nil, or_false] at ha
  rcases ha with rfl | rfl
  · exact .int (by decide)
  · refine .array ?_
    intro v hv
    simp only [List.mem_cons, List.not_mem_nil, or_false] at hv
    rcases hv with rfl | rfl
    · exact .int (by decide)
    · exact .object .nil nofun

/-- That update is read from either way of writing it. -/
theorem records_survive_at_bounds :
    Progress.Update.format.decode (Text.Utf8.encode updateReversed.render) = some updateAtBounds ∧
    Progress.Update.format.decode (Progress.Update.format.encode updateAtBounds) =
      some updateAtBounds := by
  obtain ⟨-, -, hsurvive, -, -, -, -, -, hsent⟩ := records_survive
  have hu := regular_updateAtBounds
  have hreverse (w x y z : String × Tree) : [w, x, y, z].Perm [z, y, x, w] :=
    List.reverse_perm [z, y, x, w]
  refine ⟨?_, hsurvive.decoded _ hu⟩
  refine hsent _ hu updateReversed.tree _ ?_ (written_render ?_)
  · refine ⟨_, _, [("note", .array [.null])], spellsMembers_memberTrees _,
      updateAtBounds.message.isSent_tree, hreverse _ _ _ _, ?_⟩
    intro m hm
    rw [List.mem_singleton.1 hm]
    exact ⟨by decide, _, rfl⟩
  · exact ⟨⟨trivial, trivial⟩, hu.message.isWritable, trivial, trivial, trivial⟩

end FolderCopy
