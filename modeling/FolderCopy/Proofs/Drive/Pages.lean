import FolderCopy.Drive.Connector
import FolderCopy.Proofs.Json.Fields

/-!
# Reading pages of a listing

A page may be sent in many ways: its fields and those of its files stand in any order and among
others, every text may be spelled in any way, and what is missing may be left out or null. Main
statement: from each of them the page is read as it was meant, and a page with a file that has no id
is not read at all (`listing_decoded`). The same is said of the answer to the creation of a folder
(`creation_decoded`).
-/

namespace FolderCopy.Drive

open Json

section Sending

/-- Whether a tree spells a text. -/
def IsText (s : String) : Tree → Prop
  | .text ps => Spells ps s.toList
  | _ => False

/-- Whether a text is a numeral for a count of 64 bits: digits, with or without a plus sign. -/
def IsCount (s : String) (n : Nat) : Prop :=
  n < UInt64.size ∧ ∃ ds, (s.toList = ds ∨ s.toList = '+' :: ds) ∧ IsDigits ds ∧
    Nat.ofDigitChars 10 ds 0 = n

/-- The ways of giving a size, as members of a file. A text that is no count stands for no size. -/
inductive GivesSize : Option Nat → List (String × Tree) → Prop where
  | absent : GivesSize none []
  | null : GivesSize none [("size", .null)]
  | text {size s t} (ht : IsText s t) (hs : ∀ n, size = some n ↔ IsCount s n) :
    GivesSize size [("size", t)]

/-- The ways of giving the files of a page, each of them by itself given in some way. -/
inductive GivesFiles (file : Entry → Tree → Prop) :
    List Entry → List (String × Tree) → Prop where
  | absent : GivesFiles file [] []
  | array {entries items} (h : List.Forall₂ file entries items) :
    GivesFiles file entries [("files", .array items)]

inductive GivesNext : Option String → List (String × Tree) → Prop where
  | absent : GivesNext none []
  | null : GivesNext none [("nextPageToken", .null)]
  | text {s t} (ht : IsText s t) : GivesNext (some s) [("nextPageToken", t)]

/-- Whether a tree stands for a file. -/
def IsFile (e : Entry) (t : Tree) : Prop :=
  ∃ id name size, IsText e.id id ∧ IsText e.name name ∧ GivesSize e.size size ∧
    t.Gives ["id", "name", "size"] ([("id", id), ("name", name)] ++ size)

/-- Whether a tree stands for a page. -/
def IsPage (p : Page) (t : Tree) : Prop :=
  ∃ files next, GivesFiles IsFile p.entries files ∧ GivesNext p.next next ∧
    t.Gives ["files", "nextPageToken"] (files ++ next)

/-- Whether a tree is an object with readable keys that gives no id; null is none. -/
def LacksId : Tree → Prop
  | .object ms => ∃ members, SpellsMembers ms members ∧ ∀ m ∈ members, m.1 = "id" → m.2 = .null
  | _ => False

/-- Whether a tree is an object with readable keys and a file without id among its files. -/
def HoldsFileWithoutId : Tree → Prop
  | .object ms => ∃ members items, SpellsMembers ms members ∧ ("files", .array items) ∈ members ∧
      ∃ f ∈ items, LacksId f
  | _ => False

end Sending

section Counts

/-- The digits of a numeral, if it is one: what follows its plus sign, or all of it. -/
def digitsOf (s : String) : List Char :=
  match s.toList with
  | '+' :: ds => ds
  | ds => ds

/-- A text has these digits, after a plus sign or alone, exactly if they are what follows its sign.
-/
lemma digitsOf_eq_iff {s : String} {ds : List Char} (hds : IsDigits ds) :
    s.toList = ds ∨ s.toList = '+' :: ds ↔ digitsOf s = ds := by
  have hplus (rest : List Char) : ds ≠ '+' :: rest := by
    rintro rfl
    cases hds.2
  unfold digitsOf
  split
  · next rest hs => simp [hs, (hplus rest).symm]
  · next hs => exact or_iff_left (hs ds)

/-- Whether a text is a count is seen from what follows its sign. -/
lemma isCount_iff {s : String} {n : Nat} : IsCount s n ↔
    n < UInt64.size ∧ IsDigits (digitsOf s) ∧ Text.digitsValue (digitsOf s) = n := by
  constructor
  · rintro ⟨hn, ds, hs, hds, hvalue⟩
    rw [digitsOf_eq_iff hds] at hs
    subst hs
    exact ⟨hn, hds, hvalue⟩
  · rintro ⟨hn, hds, hvalue⟩
    exact ⟨hn, digitsOf s, (digitsOf_eq_iff hds).2 rfl, hds, hvalue⟩

/-- A count is read from its numerals, and from no other text. -/
lemma count?_eq_some {s : String} {n : Nat} : Text.count? s = some n ↔ IsCount s n := by
  have hcount : Text.count? s = if (digitsOf s).isEmpty || !(digitsOf s).all Char.isDigit then none
      else if Text.digitsValue (digitsOf s) ≤ maxCount then some (Text.digitsValue (digitsOf s))
      else none := rfl
  rw [hcount, isCount_iff, IsDigits]
  cases hempty : (digitsOf s).isEmpty with
  | true => simp [List.isEmpty_iff.1 hempty]
  | false =>
    cases (digitsOf s).all Char.isDigit with
    | false => simp
    | true =>
      have hne : digitsOf s ≠ [] := by simpa using hempty
      have hle (m : Nat) : m ≤ maxCount ↔ m < UInt64.size := Nat.lt_succ_iff.symm
      simp only [Bool.not_true, Bool.or_self, Bool.false_eq_true, if_false, hne, ne_eq,
        not_false_eq_true, true_and, Option.ite_none_right_eq_some, Option.some.injEq, hle]
      exact and_congr_left fun h => by rw [h]

/-- The numeral of a count. -/
lemma isCount_toString {n : Nat} (hn : n < UInt64.size) : IsCount (toString n) n := by
  refine ⟨hn, Nat.toDigits 10 n, .inl Nat.toList_repr, isDigits_toDigits n, ?_⟩
  exact Nat.ofDigitChars_ten_toDigits

end Counts

section Reading

/-- A spelled text is read as it was meant. -/
lemma IsText.text?_eq {s : String} {t : Tree} (h : IsText s t) : t.text? = some s := by
  cases t with
  | text ps => exact h.pieceText?_eq
  | null | bool | number | array | object => exact h.elim

/-- A spelled text is no null. -/
lemma IsText.nullable?_eq {s : String} {t : Tree} (h : IsText s t) :
    t.nullable? Tree.text? = some (some s) := by
  cases t with
  | text ps => simp [Tree.nullable?, IsText.text?_eq h]
  | null | bool | number | array | object => exact h.elim

/-- Every count of 64 bits is the size that its numeral gives. -/
lemma givesSize_toString {n : Nat} (hn : n < UInt64.size) {size : Tree}
    (hsize : IsText (toString n) size) : GivesSize (some n) [("size", size)] := by
  refine .text hsize fun m => ?_
  rw [← count?_eq_some, count?_eq_some.2 (isCount_toString hn)]

/-- A size is given in the field of that name only. -/
lemma GivesSize.key {size : Option Nat} {ms : List (String × Tree)} (h : GivesSize size ms) :
    ∀ m ∈ ms, m.1 = "size" := by
  cases h <;> simp

/-- Whatever way a size is given in, its count is read. -/
lemma GivesSize.slot?_eq {size : Option Nat} {ms : List (String × Tree)} (h : GivesSize size ms) :
    ∃ slot text, slot? ms "size" = some slot ∧ slot.optionalKey Tree.text? = some text ∧
      text.bind Text.count? = size := by
  cases h with
  | absent => exact ⟨.noKey, none, rfl, rfl, rfl⟩
  | null => exact ⟨.given .null, none, rfl, rfl, rfl⟩
  | @text _ s t ht hs =>
    refine ⟨.given t, some s, rfl, ht.nullable?_eq, ?_⟩
    apply Option.ext
    intro n
    rw [Option.bind_some, count?_eq_some, ← hs]

/-- From every way of sending a file this file is read. -/
lemma IsFile.ofTree?_eq {e : Entry} {t : Tree} (h : IsFile e t) :
    ∃ f, FileRecord.ofTree? t = some f ∧ f.toEntry = e := by
  obtain ⟨id, name, size, hid, hname, hsize, hgives⟩ := h
  obtain ⟨slot, text, hslot, htext, hcount⟩ := hsize.slot?_eq
  have hfield {field : String} {s : Slot} (hne : field ≠ "size")
      (hs : slot? [("id", id), ("name", name)] field = some s) :
      slot? ([("id", id), ("name", name)] ++ size) field = some s :=
    slot?_of_perm (.refl _) (fun m hm he => hne (he.symm.trans (hsize.key m hm))) hs
  have hsize' : slot? ([("id", id), ("name", name)] ++ size) "size" = some slot :=
    slot?_of_perm List.perm_append_comm (by simp) hslot
  have hslots := hgives.slots?_eq
    (.cons (hfield (by decide) rfl) (.cons (hfield (by decide) rfl) (.cons hsize' .nil)))
  refine ⟨⟨e.id, e.name, text⟩, ?_, ?_⟩
  · rw [FileRecord.ofTree?, hslots]
    simp [Slot.required, Slot.withDefault, hid.text?_eq, hname.text?_eq, htext]
  · rw [FileRecord.toEntry, hcount]

/-- Files that are sent one after the other are read one after the other. -/
lemma ofTree?_files {entries : List Entry} {items : List Tree}
    (h : List.Forall₂ IsFile entries items) :
    ∃ files, items.mapM FileRecord.ofTree? = some files ∧
      files.map FileRecord.toEntry = entries := by
  induction h with
  | nil => exact ⟨[], rfl, rfl⟩
  | cons he hes ih =>
    obtain ⟨f, hf, rfl⟩ := he.ofTree?_eq
    obtain ⟨fs, hfs, rfl⟩ := ih
    refine ⟨f :: fs, ?_, rfl⟩
    rw [List.mapM_cons, hf, hfs]
    rfl

/-- Files are given in the field of that name only. -/
lemma GivesFiles.key {file : Entry → Tree → Prop} {entries : List Entry}
    {ms : List (String × Tree)} (h : GivesFiles file entries ms) : ∀ m ∈ ms, m.1 = "files" := by
  cases h <;> simp

/-- Whatever way files are given in, they are read. -/
lemma GivesFiles.slot?_eq {entries : List Entry} {ms : List (String × Tree)}
    (h : GivesFiles IsFile entries ms) : ∃ slot files, slot? ms "files" = some slot ∧
      slot.withDefault (Tree.list? FileRecord.ofTree?) [] = some files ∧
      files.map FileRecord.toEntry = entries := by
  cases h with
  | absent => exact ⟨.noKey, [], rfl, rfl, rfl⟩
  | @array _ items hitems =>
    obtain ⟨files, hfiles, hentries⟩ := ofTree?_files hitems
    exact ⟨.given (.array items), files, rfl, hfiles, hentries⟩

/-- The next token is given in the field of that name only. -/
lemma GivesNext.key {next : Option String} {ms : List (String × Tree)} (h : GivesNext next ms) :
    ∀ m ∈ ms, m.1 = "nextPageToken" := by
  cases h <;> simp

/-- Whatever way the next token is given in, it is read. -/
lemma GivesNext.slot?_eq {next : Option String} {ms : List (String × Tree)}
    (h : GivesNext next ms) : ∃ slot, slot? ms "nextPageToken" = some slot ∧
      slot.withDefault (Tree.nullable? Tree.text?) none = some next := by
  cases h with
  | absent => exact ⟨.noKey, rfl, rfl⟩
  | null => exact ⟨.given .null, rfl, rfl⟩
  | @text s t ht => exact ⟨.given t, rfl, ht.nullable?_eq⟩

/-- From every way of sending a page this page is read. -/
lemma IsPage.ofTree?_eq {p : Page} {t : Tree} (h : IsPage p t) :
    ∃ l, FileList.ofTree? t = some l ∧ l.toPage = p := by
  obtain ⟨files, next, hfiles, hnext, hgives⟩ := h
  obtain ⟨slot, records, hslot, hrecords, hentries⟩ := hfiles.slot?_eq
  obtain ⟨slot', hslot', htoken⟩ := hnext.slot?_eq
  have hfiles' : slot? (files ++ next) "files" = some slot :=
    slot?_of_perm (.refl _) (fun m hm => by simp [hnext.key m hm]) hslot
  have hnext' : slot? (files ++ next) "nextPageToken" = some slot' :=
    slot?_of_perm List.perm_append_comm (fun m hm => by simp [hfiles.key m hm]) hslot'
  have hslots := hgives.slots?_eq (.cons hfiles' (.cons hnext' .nil))
  refine ⟨⟨records, p.next⟩, ?_, ?_⟩
  · rw [FileList.ofTree?, hslots]
    simp [hrecords, htoken]
  · rw [FileList.toPage, hentries]

end Reading

section Rejection

/-- A file without id is not read. -/
lemma LacksId.ofTree?_eq {t : Tree} (h : LacksId t) : FileRecord.ofTree? t = none := by
  cases t with
  | null | bool | number | text | array => exact h.elim
  | object ms =>
    obtain ⟨members, hms, hid⟩ := h
    cases hslots : (Tree.object ms).slots? ["id", "name", "size"] with
    | none =>
      rw [FileRecord.ofTree?, hslots]
      rfl
    | some slots =>
      obtain ⟨slot, rest, rfl, hslot⟩ := hms.slots?_head hslots
      have hrequired : slot.required Tree.text? = none := by
        rcases slot?_eq_some hslot with rfl | ⟨t, ht, rfl⟩
        · rfl
        · obtain rfl : t = .null := hid _ ht rfl
          rfl
      rw [FileRecord.ofTree?, hslots]
      rcases rest with _ | ⟨name, _ | ⟨size, _ | _⟩⟩ <;> simp [hrequired]

/-- A page that holds a file without id is not read. -/
lemma HoldsFileWithoutId.ofTree?_eq {t : Tree} (h : HoldsFileWithoutId t) :
    FileList.ofTree? t = none := by
  cases t with
  | null | bool | number | text | array => exact h.elim
  | object ms =>
    obtain ⟨members, items, hms, hitems, f, hf, hlacks⟩ := h
    cases hslots : (Tree.object ms).slots? ["files", "nextPageToken"] with
    | none =>
      rw [FileList.ofTree?, hslots]
      rfl
    | some slots =>
      obtain ⟨slot, rest, rfl, hslot⟩ := hms.slots?_head hslots
      have hnone : slot.withDefault (Tree.list? FileRecord.ofTree?) [] = none := by
        rcases slot?_of_mem hitems with hs | hs
        · cases hs.symm.trans hslot
        · cases hs.symm.trans hslot
          exact mapM_eq_none hf hlacks.ofTree?_eq
      rw [FileList.ofTree?, hslots]
      rcases rest with _ | ⟨next, _ | _⟩ <;> simp [hnone]

end Rejection

/-- From every way of sending a page the drive reads this page: its files in their order with their
ids, names and sizes, and the token of the next page. Every count of 64 bits is a size. A page that
is sent with a file without id is rejected as an unreadable answer. -/
theorem listing_decoded (parent : Option String) (filter : Filter) (token : Option String)
    (status : Nat) (hstatus : 200 ≤ status ∧ status ≤ 299) (t : Tree) (body : Bytes)
    (hbody : t.Written body) :
    (∀ p, IsPage p t → (FileList.ofBytes? body).map FileList.toPage = some p ∧
      outcome (.list parent filter token) ⟨status, body⟩ = .ok p) ∧
    (HoldsFileWithoutId t → FileList.ofBytes? body = none ∧
      ∃ m, outcome (.list parent filter token) ⟨status, body⟩ = .error (.invalidResponse m)) ∧
    ∀ n < UInt64.size, ∀ size, IsText (toString n) size → GivesSize (some n) [("size", size)] := by
  have hread : FileList.ofBytes? body = FileList.ofTree? t := by
    rw [FileList.ofBytes?, hbody.ofBytes?_eq, Option.bind_some]
  have hsuccess : (Http.Response.mk status body).isSuccess :=
    (Http.Response.isSuccess_iff _).2 hstatus
  refine ⟨?_, ?_, ?_⟩
  · intro p hp
    obtain ⟨l, hl, rfl⟩ := hp.ofTree?_eq
    rw [outcome, if_pos hsuccess, answer, readBody]
    simp only [hread, hl]
    exact ⟨rfl, rfl⟩
  · intro ht
    refine ⟨hread.trans ht.ofTree?_eq, ?_⟩
    rw [outcome, if_pos hsuccess, answer, readBody]
    simp only [hread, ht.ofTree?_eq]
    exact ⟨_, rfl⟩
  · intro n hn size hsize
    exact givesSize_toString hn hsize

/-- A page with one file of the largest size, its fields in an unusual order and among another. -/
def pageOfLargest : Json :=
  .object [("nextPageToken", .text "more"), ("kind", .text "drive#fileList"),
    ("files", .array [.object [("name", .text "a\"b"), ("size", .text (toString (UInt64.size - 1))),
      ("id", .text "1")]])]

/-- A page with a file that has a name only. -/
def pageWithoutId : Json :=
  .object [("files", .array [.object [("name", .text "a")]])]

/-- The way in which the library itself writes a text spells it. -/
lemma isText_tree (s : String) : IsText s (Json.text s).tree :=
  spells_escapePieces s.toList

/-- The page with the file of the largest size is one of the ways to send what it stands for. -/
lemma isPage_pageOfLargest :
    IsPage ⟨[⟨"1", "a\"b", some (UInt64.size - 1)⟩], some "more"⟩ pageOfLargest.tree := by
  have hsize : GivesSize (some (UInt64.size - 1))
      [("size", (Json.text (toString (UInt64.size - 1))).tree)] :=
    givesSize_toString (by decide) (isText_tree _)
  have hperm (x y z : String × Json) : [x, y, z].Perm [z, x, y] :=
    @List.perm_append_comm _ [x, y] [z]
  have hfile : IsFile ⟨"1", "a\"b", some (UInt64.size - 1)⟩ (Json.object [("name", .text "a\"b"),
      ("size", .text (toString (UInt64.size - 1))), ("id", .text "1")]).tree := by
    refine ⟨_, _, _, isText_tree "1", isText_tree "a\"b", hsize, ?_⟩
    exact @gives_tree _ _ [("id", .text "1"), ("name", .text "a\"b"),
      ("size", .text (toString (UInt64.size - 1)))] [] (hperm _ _ _) nofun
  refine ⟨_, _, .array (.cons hfile .nil), .text (isText_tree "more"), ?_⟩
  exact @gives_tree _ _ [("files", .array [_]), ("nextPageToken", .text "more")]
    [("kind", .text "drive#fileList")] (hperm _ _ _) (by simp)

/-- The first of these pages is read, the second one rejected. -/
theorem listing_decoded_two_pages :
    outcome (.list none .files none) ⟨200, Text.Utf8.encode pageOfLargest.render⟩ =
      .ok ⟨[⟨"1", "a\"b", some (UInt64.size - 1)⟩], some "more"⟩ ∧
    ∃ m, outcome (.list none .files none) ⟨200, Text.Utf8.encode pageWithoutId.render⟩ =
      .error (.invalidResponse m) := by
  have hlacks : HoldsFileWithoutId pageWithoutId.tree :=
    ⟨_, _, spellsMembers_memberTrees _, List.mem_singleton_self _, _, List.mem_singleton_self _,
      _, spellsMembers_memberTrees _, by simp⟩
  have hfirst := listing_decoded none .files none 200 (by decide) pageOfLargest.tree _
    (written_render ⟨trivial, trivial, ⟨⟨trivial, trivial, trivial, trivial⟩, trivial⟩, trivial⟩)
  have hsecond := listing_decoded none .files none 200 (by decide) pageWithoutId.tree _
    (written_render ⟨⟨⟨trivial, trivial⟩, trivial⟩, trivial⟩)
  exact ⟨(hfirst.1 _ isPage_pageOfLargest).2, (hsecond.2.1 hlacks).2⟩

section Creation

/-- Whether a tree stands for a new folder with an id: an object with the id as its field, or an
array of the id alone. -/
def IsCreated (id : String) (t : Tree) : Prop :=
  ∃ value, IsText id value ∧ (t.Gives ["id"] [("id", value)] ∨ t = .array [value])

variable {id : String} {t : Tree}

/-- What is read of a record with one field that must be there. -/
lemma createdId?_of_slots? {slot : Slot} (h : t.slots? ["id"] = some [slot]) :
    createdId? t = slot.required Tree.text? := by
  rw [createdId?, h]
  exact Option.bind_some _ _

/-- An array of an id alone is a record of the id. -/
lemma createdId?_array (value : Tree) : createdId? (.array [value]) = value.text? := by
  have hslots : (Tree.array [value]).slots? ["id"] = some [.given value] := rfl
  rw [createdId?_of_slots? hslots, Slot.required]

/-- What an object says of a single field is what its members say of it. -/
lemma slots?_singleton_iff {ms : List (List Piece × Tree)} {field : String} {slot : Slot} :
    (Tree.object ms).slots? [field] = some [slot] ↔ ∃ members,
      (Tree.object ms).members? = some members ∧ slot? members field = some slot := by
  simp only [Tree.slots?, Option.bind_eq_bind, Option.bind_eq_some_iff]
  refine exists_congr fun members => and_congr_right fun _ => ?_
  rw [List.mapM_cons]
  cases slot? members field with
  | none => simp
  | some s => simp

/-- An id is read exactly where it is a text that can be read and is alone in an array, or stands
just once in an object whose keys can be read. -/
lemma createdId?_eq_some_iff : createdId? t = some id ↔ ∃ value, value.text? = some id ∧
    (t = .array [value] ∨
      ∃ members, t.members? = some members ∧ slot? members "id" = some (.given value)) := by
  constructor
  · intro h
    cases t with
    | null | bool | number | text => cases h
    | array items =>
      match items with
      | [] => cases h
      | [value] => exact ⟨value, h, .inl rfl⟩
      | _ :: _ :: _ => cases h
    | object ms =>
      obtain ⟨slots, hslots, h⟩ := Option.bind_eq_some_iff.1 h
      match slots, h with
      | [], h | _ :: _ :: _, h => cases h
      | [slot], h =>
        obtain ⟨members, hmembers, hslot⟩ := slots?_singleton_iff.1 hslots
        cases slot with
        | given value => exact ⟨value, h, .inr ⟨members, hmembers, hslot⟩⟩
        | noKey | noItem => cases h
  · rintro ⟨value, hvalue, rfl | ⟨members, hmembers, hslot⟩⟩
    · rw [createdId?_array, hvalue]
    · cases t with
      | null | bool | number | text | array => cases hmembers
      | object ms =>
        rw [createdId?_of_slots? (slots?_singleton_iff.2 ⟨members, hmembers, hslot⟩)]
        exact hvalue

/-- From every way of sending an id this id is read. -/
lemma IsCreated.createdId?_eq (h : IsCreated id t) : createdId? t = some id := by
  obtain ⟨value, hvalue, hgives | rfl⟩ := h
  · rw [createdId?_of_slots? (hgives.slots?_eq (.cons rfl .nil))]
    exact hvalue.text?_eq
  · rw [createdId?_array, hvalue.text?_eq]

/-- Without an id nothing is read. -/
lemma LacksId.createdId?_eq (h : LacksId t) : createdId? t = none := by
  cases t with
  | null | bool | number | text | array => exact h.elim
  | object ms =>
    obtain ⟨members, hms, hid⟩ := h
    rw [Option.eq_none_iff_forall_ne_some]
    intro id hread
    obtain ⟨value, hvalue, harray | ⟨members', hmembers, hslot⟩⟩ := createdId?_eq_some_iff.1 hread
    · cases harray
    · obtain rfl : members = members' := Option.some.inj (hms.members?_eq.symm.trans hmembers)
      rcases slot?_eq_some hslot with hnone | ⟨t, ht, hgiven⟩
      · cases hnone
      · cases hgiven
        obtain rfl : value = .null := hid _ ht rfl
        cases hvalue

end Creation

/-- The answer to the creation of a folder is read from every way of sending it, and is rejected as
unreadable where it has no id. Nothing but an object or an array with a readable id is read. -/
theorem creation_decoded (name : String) (parent : Option String) (status : Nat)
    (hstatus : 200 ≤ status ∧ status ≤ 299) (t : Tree) (body : Bytes) (hbody : t.Written body) :
    (∀ id, IsCreated id t → createdIdOfBytes? body = some id ∧
      outcome (.create name parent) ⟨status, body⟩ = .ok id) ∧
    (LacksId t → createdIdOfBytes? body = none ∧
      ∃ m, outcome (.create name parent) ⟨status, body⟩ = .error (.invalidResponse m)) ∧
    ∀ id, createdIdOfBytes? body = some id ↔ ∃ value, value.text? = some id ∧
      (t = .array [value] ∨
        ∃ members, t.members? = some members ∧ slot? members "id" = some (.given value)) := by
  have hread : createdIdOfBytes? body = createdId? t := by
    rw [createdIdOfBytes?, hbody.ofBytes?_eq, Option.bind_some]
  have houtcome : outcome (.create name parent) ⟨status, body⟩ =
      readBody "created folder" createdIdOfBytes? ⟨status, body⟩ :=
    if_pos ((Http.Response.isSuccess_iff _).2 hstatus)
  rw [houtcome, readBody]
  simp only [hread]
  refine ⟨?_, ?_, fun id => createdId?_eq_some_iff⟩
  · intro id hid
    rw [hid.createdId?_eq]
    exact ⟨rfl, rfl⟩
  · intro ht
    rw [ht.createdId?_eq]
    exact ⟨rfl, _, rfl⟩

end FolderCopy.Drive
