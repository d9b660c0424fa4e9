import TypedVars.Proofs.Backend.Document
import TypedVars.Proofs.Json.Grammar

/-!
# Opening a document

A path can be opened where nothing stands but a document can be put, where a file without bytes
stands, and where a file holds the UTF-8 text of an object of objects of strings
(`Document.Finds`).  Then the map holds the members of that object, of which the last one of a name
counts (`RawMap.Holds`), and no other map does (`RawMap.holds_iff`).  At every other path opening
reports an error of the backend.  The bytes of a file stay, and after an opening that succeeds the
next one finds the same (`Document.openOn_exact`).

All of this is so where a file that stands at the path can be read.  A document that is there and
cannot be read is replaced by an empty one (`Document.openOn_unreadable`).
-/

namespace TypedVars

variable {α β : Type}

/-! ## Members of a document -/

namespace RawMap

/-- The members of a document: scopes with the names and the texts in them. -/
abbrev Members := List (String × List (String × String))

/-- A map holds the members of a document, of which the last one of a name counts. -/
structure Holds (m : RawMap) (members : Members) : Prop where
  scope : ∀ scope, (m.scopes.get? scope).isSome = true ↔ scope ∈ members.map Prod.fst
  text : ∀ var raw, m.get? var = some raw ↔
    ∃ vars, LastEntry members var.scope.name vars ∧ LastEntry vars var.key raw

variable {m m' : RawMap} {members : Members}

/-- There is only one map that holds given members. -/
lemma Holds.unique (h : m.Holds members) (h' : m'.Holds members) : m = m' := by
  have htext : ∀ var, m.get? var = m'.get? var := fun var => Option.ext fun raw =>
    (h.text var raw).trans (h'.text var raw).symm
  have hscope : ∀ name, (m.scopes.get? name).isSome = (m'.scopes.get? name).isSome := fun name =>
    Bool.eq_iff_iff.2 ((h.scope name).trans (h'.scope name).symm)
  obtain ⟨scopes⟩ := m
  obtain ⟨scopes'⟩ := m'
  rw [mk.injEq]
  refine Dict.ext_get? fun name => ?_
  have hname := hscope name
  cases hvars : scopes.get? name with
  | none =>
    rw [hvars] at hname
    exact (Option.isNone_iff_eq_none.1 (Option.isSome_eq_false_iff.1 hname.symm)).symm
  | some vars =>
    rw [hvars] at hname
    obtain ⟨vars', hvars'⟩ := Option.isSome_iff_exists.1 hname.symm
    rw [hvars']
    refine congrArg some (Dict.ext_get? fun key => ?_)
    have hkey := htext ⟨⟨name⟩, key⟩
    rwa [get?, get?, inScope, inScope, hvars, hvars'] at hkey

/-- The map of the members of a document. -/
def ofMembers (members : Members) : RawMap :=
  ⟨.ofList (members.map fun member => (member.1, .ofList member.2))⟩

lemma holds_ofMembers (members : Members) : (ofMembers members).Holds members where
  scope name := by
    rw [ofMembers, Dict.isSome_get?_ofList_iff, List.map_map]
    rfl
  text var raw := by
    rw [get?_eq_some_iff, ofMembers]
    simp only [Dict.get?_ofList_eq_some_iff, lastEntry_map_iff]
    constructor
    · rintro ⟨_, ⟨vars, hvars, rfl⟩, htext⟩
      exact ⟨vars, hvars, Dict.get?_ofList_eq_some_iff.1 htext⟩
    · rintro ⟨vars, hvars, htext⟩
      exact ⟨_, ⟨vars, hvars, rfl⟩, Dict.get?_ofList_eq_some_iff.2 htext⟩

/-- The members of a document are held by one map and by no other. -/
lemma holds_iff : m.Holds members ↔ m = ofMembers members :=
  ⟨fun h => h.unique (holds_ofMembers members), fun h => h ▸ holds_ofMembers members⟩

end RawMap

/-! ## Documents as JSON -/

lemma mapM_members_eq_some_iff {R : Json → α → Prop} {f : α → β}
    {g : String × Json → Option (String × β)}
    (h : ∀ m e, g m = some e ↔ ∃ a, R m.2 a ∧ (m.1, f a) = e) {ms : List (String × Json)}
    {es : List (String × β)} :
    ms.mapM g = some es ↔ ∃ as, Json.Members R ms as ∧ as.map (fun a => (a.1, f a.2)) = es := by
  induction ms generalizing es with
  | nil => simp [Json.Members, List.forall₂_nil_left_iff]
  | cons m ms ih =>
    simp only [List.mapM_cons, Option.bind_eq_bind, Option.bind_eq_some_iff, Option.pure_def,
      Option.some.injEq, h, ih]
    constructor
    · rintro ⟨_, ⟨a, ha, rfl⟩, _, ⟨as, has, rfl⟩, rfl⟩
      exact ⟨(m.1, a) :: as, .cons ⟨rfl, ha⟩ has, rfl⟩
    · rintro ⟨_, hmembers, rfl⟩
      obtain ⟨⟨name, a⟩, as, ⟨rfl, ha⟩, has, rfl⟩ := List.forall₂_cons_left_iff.1 hmembers
      exact ⟨_, ⟨a, ha, rfl⟩, _, ⟨as, has, rfl⟩, rfl⟩

namespace RawMap

variable {m : RawMap} {j : Json}

/-- A scope of a document is an object of strings. -/
def IsScope : Json → List (String × String) → Prop := Json.IsObject fun j s => j = .string s

lemma varsOfJson?_eq_some_iff {d : Dict String} :
    varsOfJson? j = some d ↔ ∃ vars, IsScope j vars ∧ .ofList vars = d := by
  cases j with
  | object ms =>
    simp only [varsOfJson?, Option.bind_eq_bind, Option.bind_eq_some_iff, Option.some.injEq]
    refine exists_congr fun vars => and_congr_left' ?_
    rw [mapM_members_eq_some_iff (f := id) (R := fun j s => j = .string s), IsScope,
      Json.isObject_object_iff]
    · simp
    · rintro ⟨key, j⟩ e
      cases j <;> simp
  | _ => simp [varsOfJson?, IsScope, Json.IsObject]

lemma ofJson?_eq_some_iff : ofJson? j = some m ↔
    ∃ members, Json.IsObject IsScope j members ∧ ofMembers members = m := by
  cases j with
  | object ms =>
    have hscope : ∀ (member : String × Json) e, (varsOfJson? member.2).map (member.1, ·) = some e ↔
        ∃ vars, IsScope member.2 vars ∧ (member.1, Dict.ofList vars) = e := by
      intro member e
      simp only [Option.map_eq_some_iff, varsOfJson?_eq_some_iff, exists_exists_and_eq_and]
    simp only [ofJson?, Option.bind_eq_bind, Option.bind_eq_some_iff, Option.some.injEq,
      Json.isObject_object_iff]
    constructor
    · rintro ⟨scopes, hscopes, rfl⟩
      obtain ⟨members, hmembers, rfl⟩ := (mapM_members_eq_some_iff hscope).1 hscopes
      exact ⟨members, hmembers, rfl⟩
    · rintro ⟨members, hmembers, rfl⟩
      exact ⟨_, (mapM_members_eq_some_iff hscope).2 ⟨members, hmembers, rfl⟩, rfl⟩
  | _ => simp [ofJson?, Json.IsObject]

end RawMap

/-! ## Opening -/

namespace Document

variable {disk : Disk} {bytes : ByteArray} {members : RawMap.Members} {m : RawMap}

/-- The text of a document: an object of objects of strings, with white space around it. -/
def DocumentText : List Char → RawMap.Members → Prop :=
  Json.WholeText (Json.ObjectText (Json.ObjectText Json.StringText))

/-- What opening finds at a path: nothing yet where a document can be put, nothing in a file without
bytes, and otherwise the members of the document in the file. -/
inductive Finds : Disk → RawMap.Members → Prop where
  | vacant : Finds .vacant []
  | noParent : Finds .noParent []
  | empty : Finds (.file .empty) []
  | document {text : String} {members : RawMap.Members}
    (h : DocumentText text.toList members) : Finds (.file text.toUTF8) members

/-- What opening a document comes to, where a file can be read or not. -/
structure OpensExactly (disk : Disk) (readable : Bool) : Prop where
  /-- A path is opened just when there is something to be found. -/
  accepted : (∃ b, openOn disk readable = .ok b) ↔ ∃ members, Finds disk members
  /-- The map holds what is found, and no other map does. -/
  held : ∀ b members, openOn disk readable = .ok b → Finds disk members →
    ∀ m : RawMap, m.Holds members ↔ m = b.map
  /-- Otherwise it is an error of the backend. -/
  rejected : (¬∃ members, Finds disk members) → openOn disk readable = .error (.backend none)
  /-- A document that is missing is created. -/
  created : disk = .vacant ∨ disk = .noParent →
    openOn disk readable = .ok ⟨.empty, .file (bytesOf .empty)⟩
  /-- To open it again makes no difference. -/
  again : ∀ b, openOn disk readable = .ok b → openOn b.disk = .ok b
  /-- The bytes of a file stay, whether or not it can be opened. -/
  untouched : ∀ bytes, disk = .file bytes → (readOrCreate disk readable).2 = .file bytes ∧
    ∀ b, openOn disk readable = .ok b → b.disk = .file bytes

lemma fromUTF8?_eq_some_iff {text : String} :
    String.fromUTF8? bytes = some text ↔ bytes = text.toUTF8 := by
  constructor
  · intro h
    unfold String.fromUTF8? at h
    split at h
    · cases h
      rfl
    · cases h
  · rintro rfl
    exact fromUTF8?_toUTF8 text

lemma documentText_iff {cs : List Char} : DocumentText cs members ↔
    ∃ j, Json.parse? cs = some j ∧ Json.IsObject RawMap.IsScope j members :=
  (Json.reads_string.object.object.parse?_iff).symm

lemma isEmpty_toUTF8_of_documentText {text : String} (h : DocumentText text.toList members) :
    text.toUTF8.isEmpty = false := by
  have hne : text ≠ "" := by
    rintro rfl
    obtain ⟨j, hread, -⟩ := documentText_iff.1 h
    cases hread
  exact isEmpty_toUTF8 hne

/-- What is found in a file is what its bytes say. -/
lemma finds_file_iff : Finds (.file bytes) members ↔
    if bytes.isEmpty then members = []
    else ∃ text : String, bytes = text.toUTF8 ∧ DocumentText text.toList members := by
  constructor
  · intro h
    cases h with
    | empty => rfl
    | document h =>
      rw [isEmpty_toUTF8_of_documentText h]
      exact ⟨_, rfl, h⟩
  · split
    · next hempty =>
      rintro rfl
      have hbytes : bytes = .empty := by simpa [ByteArray.isEmpty] using hempty
      exact hbytes ▸ .empty
    · rintro ⟨text, rfl, h⟩
      exact .document h

/-- The map of a file is that of the members that are found in it. -/
lemma mapOf?_eq_some_iff : mapOf? bytes = some m ↔
    ∃ members, Finds (.file bytes) members ∧ RawMap.ofMembers members = m := by
  simp only [finds_file_iff, mapOf?]
  split
  · rw [exists_eq_left, Option.some.injEq]
    rfl
  · simp only [Option.bind_eq_bind, Option.bind_eq_some_iff, fromUTF8?_eq_some_iff,
      RawMap.ofJson?_eq_some_iff, documentText_iff]
    constructor
    · rintro ⟨text, hbytes, j, hread, members, hj, rfl⟩
      exact ⟨members, ⟨text, hbytes, j, hread, hj⟩, rfl⟩
    · rintro ⟨members, ⟨text, hbytes, j, hread, hj⟩, rfl⟩
      exact ⟨text, hbytes, j, hread, members, hj, rfl⟩

lemma readOrCreate_file (bytes : ByteArray) : readOrCreate (.file bytes) =
    ((mapOf? bytes).elim (.error (.backend none)) .ok, .file bytes) := by
  simp only [readOrCreate, Disk.createParents, Disk.read?]
  cases mapOf? bytes <;> rfl

lemma openOn_file_of_finds (h : Finds (.file bytes) members) :
    openOn (.file bytes) = .ok ⟨RawMap.ofMembers members, .file bytes⟩ := by
  rw [openOn, readOrCreate_file, mapOf?_eq_some_iff.2 ⟨members, h, rfl⟩]
  rfl

/-- Where something is found there is a document afterwards, and the next opening finds it. -/
lemma openOn_of_finds (h : Finds disk members) : ∃ b, openOn disk = .ok b ∧
    b.map = RawMap.ofMembers members ∧ openOn b.disk = .ok b := by
  cases disk with
  | file bytes => exact ⟨_, openOn_file_of_finds h, rfl, openOn_file_of_finds h⟩
  | vacant =>
    cases h
    exact ⟨_, openOn_missing (.inl rfl), rfl, Synced.openOn rfl⟩
  | noParent =>
    cases h
    exact ⟨_, openOn_missing (.inr rfl), rfl, Synced.openOn rfl⟩
  | _ => cases h

lemma openOn_of_not_finds (h : ¬∃ members, Finds disk members) :
    openOn disk = .error (.backend none) := by
  cases disk with
  | file bytes =>
    have hmap : mapOf? bytes = none := by
      refine Option.eq_none_iff_forall_ne_some.2 fun m hm => h ?_
      obtain ⟨members, hmembers, -⟩ := mapOf?_eq_some_iff.1 hm
      exact ⟨members, hmembers⟩
    rw [openOn, readOrCreate_file, hmap]
    rfl
  | vacant => exact absurd ⟨_, .vacant⟩ h
  | noParent => exact absurd ⟨_, .noParent⟩ h
  | _ => rfl

lemma exists_finds_of_openOn {b : Document} (h : openOn disk = .ok b) :
    ∃ members, Finds disk members := by
  by_contra hnone
  rw [openOn_of_not_finds hnone] at h
  cases h

/-- Only where a file stands does it matter whether it can be read. -/
lemma readOrCreate_of_readable {readable : Bool}
    (hread : ∀ bytes, disk = .file bytes → readable = true) :
    readOrCreate disk readable = readOrCreate disk := by
  cases disk with
  | file bytes => rw [hread bytes rfl]
  | _ => rfl

/-- A path is opened just when it is free for a document or has one, and the map is what the
document says.  The bytes of a file that can be read stay as they are, and what an opening leaves
the next one finds. -/
theorem openOn_exact (disk : Disk) (readable : Bool)
    (hread : ∀ bytes, disk = .file bytes → readable = true) : OpensExactly disk readable := by
  have hcreate : readOrCreate disk readable = readOrCreate disk := readOrCreate_of_readable hread
  have hopen : openOn disk readable = openOn disk := by rw [openOn, openOn, hcreate]
  constructor
  case accepted =>
    rw [hopen]
    constructor
    · rintro ⟨b, hb⟩
      exact exists_finds_of_openOn hb
    · rintro ⟨members, h⟩
      obtain ⟨b, hb, -⟩ := openOn_of_finds h
      exact ⟨b, hb⟩
  case held =>
    intro b members hb h m
    obtain ⟨b', hb', hmap, -⟩ := openOn_of_finds h
    obtain rfl := Except.ok.inj (hb.symm.trans (hopen.trans hb'))
    rw [hmap]
    exact RawMap.holds_iff
  case rejected => exact fun h => hopen.trans (openOn_of_not_finds h)
  case created => exact fun h => hopen.trans (openOn_missing h)
  case again =>
    intro b hb
    rw [hopen] at hb
    obtain ⟨members, h⟩ := exists_finds_of_openOn hb
    obtain ⟨b', hb', -, hagain⟩ := openOn_of_finds h
    obtain rfl := Except.ok.inj (hb.symm.trans hb')
    exact hagain
  case untouched =>
    rintro bytes rfl
    rw [hcreate]
    refine ⟨congrArg Prod.snd (readOrCreate_file bytes), fun b hb => ?_⟩
    rw [hopen] at hb
    obtain ⟨members, h⟩ := exists_finds_of_openOn hb
    rw [openOn_file_of_finds h] at hb
    cases hb
    rfl

/-- A document with a scope and a key that stand there twice, and a pair of surrogates. -/
def repeated : String :=
  "\x7b\"s\": \x7b\"other\":\"n:1\"\x7d, \"s\": \x7b\"k\":\"n:1\",\"k\":\"s:\\ud83d\\ude00\"\x7d\x7d"

/-- Its members as they stand there. -/
def repeatedMembers : RawMap.Members :=
  [("s", [("other", "n:1")]), ("s", [("k", "n:1"), ("k", "s:😀")])]

/-- The last scope and in it the last text of the key are held. -/
theorem openOn_repeated :
    (∀ bytes, Disk.file repeated.toUTF8 = .file bytes → true = true) ∧
      Finds (.file repeated.toUTF8) repeatedMembers ∧
      ∃ b, openOn (.file repeated.toUTF8) = .ok b ∧ b.disk = .file repeated.toUTF8 ∧
        b.map.get? ⟨⟨"s"⟩, "k"⟩ = some "s:😀" ∧ b.map.get? ⟨⟨"s"⟩, "other"⟩ = none := by
  have hparse : Json.parse? repeated.toList = some (.object
      [("s", .object [("other", .string "n:1")]),
        ("s", .object [("k", .string "n:1"), ("k", .string "s:😀")])]) := by cbv
  have hfinds : Finds (.file repeated.toUTF8) repeatedMembers := by
    refine .document (documentText_iff.2 ⟨_, hparse, _, rfl, ?_⟩)
    exact .cons ⟨rfl, _, rfl, .cons ⟨rfl, rfl⟩ .nil⟩
      (.cons ⟨rfl, _, rfl, .cons ⟨rfl, rfl⟩ (.cons ⟨rfl, rfl⟩ .nil)⟩ .nil)
  have hread : ∀ bytes, Disk.file repeated.toUTF8 = .file bytes → true = true := fun _ _ => rfl
  have hexact := openOn_exact (.file repeated.toUTF8) true hread
  obtain ⟨b, hb⟩ := hexact.accepted.2 ⟨_, hfinds⟩
  have hmap := (hexact.held b _ hb hfinds _).1 (RawMap.holds_ofMembers repeatedMembers)
  refine ⟨hread, hfinds, b, hb, (hexact.untouched _ rfl).2 b hb, ?_, ?_⟩
  · rw [← hmap]
    decide
  · rw [← hmap]
    decide

/-! ## What is not opened, or not kept -/

/-- A file that is there and cannot be read is taken for a missing document. -/
theorem openOn_unreadable (bytes : ByteArray) :
    openOn (.file bytes) false = .ok ⟨.empty, .file (bytesOf .empty)⟩ := rfl

/-- A document with the first half of a pair of surrogates. -/
def halfPair : String := "\x7b\"global\":\x7b\"k\":\"\\ud800\"\x7d\x7d"

/-- A document with a count. -/
def oneCount : String := "\x7b\"global\":\x7b\"visits\":\"n:41\"\x7d\x7d"

lemma codedText_halfPair :
    Json.WholeText (Json.ObjectText (Json.ObjectText Json.CodedText)) halfPair.toList
      [("global", [("k", [0xD800])])] := by
  have hname : Json.StringText "\"global\":\x7b\"k\":\"\\ud800\"\x7d\x7d".toList "global"
      ":\x7b\"k\":\"\\ud800\"\x7d\x7d".toList := Json.readString?_eq_some_iff.1 (by decide)
  have hkey : Json.StringText "\"k\":\"\\ud800\"\x7d\x7d".toList "k"
      ":\"\\ud800\"\x7d\x7d".toList := Json.readString?_eq_some_iff.1 (by decide)
  have hunit : Json.UnitText "\\ud800\"\x7d\x7d".toList 0xD800 "\"\x7d\x7d".toList :=
    Json.hexValue4?_eq_some_iff.1 (by decide)
  have htext : Json.CodedText "\"\\ud800\"\x7d\x7d".toList [0xD800] "\x7d\x7d".toList :=
    .quoted (.unit hunit (.done _))
  have hscope : Json.ObjectText Json.CodedText "\x7b\"k\":\"\\ud800\"\x7d\x7d".toList
      [("k", [0xD800])] "\x7d".toList :=
    .members (.last (.named (.refl _) hkey (.refl _) (.refl _) htext) (.refl _))
  exact ⟨_, [], .refl _,
    .members (.last (.named (.refl _) hname (.refl _) (.refl _) hscope) (.refl _)), .refl _⟩

/-- An object of objects of strings is refused where a string of JSON's grammar is none of
characters; and a document is lost when its opening cannot read it. -/
theorem openOn_inexact :
    (Json.WholeText (Json.ObjectText (Json.ObjectText Json.CodedText)) halfPair.toList
        [("global", [("k", [0xD800])])] ∧
      openOn (.file halfPair.toUTF8) = .error (.backend none)) ∧
    DocumentText oneCount.toList [("global", [("visits", "n:41")])] ∧
      ∃ b, openOn (.file oneCount.toUTF8) false = .ok b ∧ b.disk ≠ .file oneCount.toUTF8 ∧
        b.map.get? ⟨.global, "visits"⟩ = none := by
  refine ⟨⟨codedText_halfPair, ?_⟩, ?_, _, openOn_unreadable _, ?_, rfl⟩
  · have hparse : Json.parse? halfPair.toList = none := by cbv
    have hmap : mapOf? halfPair.toUTF8 = none := by
      rw [mapOf?_toUTF8 (by decide), hparse]
      rfl
    rw [openOn, readOrCreate_file, hmap]
    rfl
  · have hparse : Json.parse? oneCount.toList = some (.object
        [("global", .object [("visits", .string "n:41")])]) := by cbv
    exact documentText_iff.2 ⟨_, hparse, _, rfl, .cons ⟨rfl, _, rfl, .cons ⟨rfl, rfl⟩ .nil⟩ .nil⟩
  · intro hdisk
    have htext := congrArg String.fromUTF8? (Disk.file.inj hdisk)
    rw [bytesOf, fromUTF8?_toUTF8, fromUTF8?_toUTF8] at htext
    exact absurd htext (by decide)

end Document

end TypedVars
