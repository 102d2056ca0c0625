import SourceRecovery.Configuration.Document
import SourceRecovery.Proofs.Json.Skipping

/-! # What a configuration document says

A document is read as the settings that it names, whatever its layout: the order of its members,
the blanks between its tokens and the spelling of its strings mean nothing, and members with other
keys are skipped. A field that is named once more ends the reading at its key.

* **`exists_readDraft_of_isBeginning`** — reading the front of a document comes to the settings in
  it.
* **`loadConfiguration_of_document`** — what loading a document comes to. -/

namespace SourceRecovery

namespace Configuration

open Json

/-! ## Settings -/

/-- The value of a field as it stands in a document. -/
def textAt (c : Configuration) : Field → Text
  | .mappingFile => c.mappingFile
  | .sourceDirectory => c.sourceDirectory
  | .captureOrder => c.captureOrder.word

/-- Whether a text may be the value of a field: any text is a path, and two words are capture
orders. -/
def IsValue : Field → Text → Prop
  | .captureOrder, v => v = "upstream".toList ∨ v = "conventional".toList
  | .mappingFile, _ | .sourceDirectory, _ => True

/-- The value of a field that has been read. -/
def Draft.textAt? (d : Draft) : Field → Option Text
  | .mappingFile => d.mappingFile?
  | .sourceDirectory => d.sourceDirectory?
  | .captureOrder => d.captureOrder?.map CaptureOrder.word

/-- The draft with a field set. -/
def Draft.put (d : Draft) : Field → Text → Draft
  | .mappingFile, v => { d with mappingFile? := some v }
  | .sourceDirectory, v => { d with sourceDirectory? := some v }
  | .captureOrder, v => { d with captureOrder? := CaptureOrder.ofWord? v }

/-- A value for the capture order is the word of one of the two orders. -/
theorem IsValue.exists_order {v : Text} (h : IsValue .captureOrder v) :
    ∃ o : CaptureOrder, v = o.word := by
  rcases h with rfl | rfl
  · exact ⟨.obfuscatedFirst, rfl⟩
  · exact ⟨.restoredFirst, rfl⟩

/-- What a configuration has in a field is a value for the field. -/
theorem isValue_textAt (c : Configuration) (f : Field) : IsValue f (c.textAt f) := by
  cases f with
  | mappingFile => trivial
  | sourceDirectory => trivial
  | captureOrder =>
    simp only [IsValue, textAt]
    cases c.captureOrder with
    | obfuscatedFirst => exact .inl rfl
    | restoredFirst => exact .inr rfl

/-- A value put into a draft is then in its field, and the other fields are what they were. -/
theorem Draft.textAt?_put (d : Draft) {f : Field} {v : Text} (h : IsValue f v) (g : Field) :
    (d.put f v).textAt? g = if g = f then some v else d.textAt? g := by
  cases f with
  | mappingFile => cases g <;> rfl
  | sourceDirectory => cases g <;> rfl
  | captureOrder =>
    obtain ⟨o, rfl⟩ := h.exists_order
    cases g <;> simp [put, textAt?]

/-- A draft has a field exactly if there is a text in it. -/
theorem Draft.has_eq (d : Draft) (f : Field) : d.has f = (d.textAt? f).isSome := by
  cases f <;> simp [has, textAt?]

/-- A completed draft has the default in each field that was missing. -/
theorem Draft.textAt_complete (d : Draft) (f : Field) :
    d.complete.textAt f = (d.textAt? f).getD (default.textAt f) := by
  cases f with
  | mappingFile => rfl
  | sourceDirectory => rfl
  | captureOrder => cases h : d.captureOrder? <;> simp [complete, textAt, textAt?, h]

/-- A configuration is known by the values of its fields. -/
theorem ext_textAt {c d : Configuration} (h : ∀ f, c.textAt f = d.textAt f) : c = d := by
  obtain ⟨mappingFile, sourceDirectory, order⟩ := c
  obtain ⟨mappingFile', sourceDirectory', order'⟩ := d
  obtain rfl : mappingFile = mappingFile' := h .mappingFile
  obtain rfl : sourceDirectory = sourceDirectory' := h .sourceDirectory
  have hword : CaptureOrder.ofWord? order.word = CaptureOrder.ofWord? order'.word :=
    congrArg _ (h .captureOrder)
  rw [CaptureOrder.ofWord?_word, CaptureOrder.ofWord?_word, Option.some.injEq] at hword
  rw [hword]

/-! ## The grammar of a document -/

/-- The bytes of a **member**, with the blanks around it, and the setting that it makes. A member
whose key is no field makes none, and has any value. -/
inductive IsMember : Bytes → Option (Field × Text) → Prop where
  | setting {front key back before value after : Bytes} {f : Field} {v : Text}
      (hfront : IsBlank front) (hkey : Spells key f.key) (hback : IsBlank back)
      (hbefore : IsBlank before) (hvalue : Spells value v) (hv : IsValue f v)
      (hafter : IsBlank after) :
      IsMember (front ++ 0x22 :: (key ++ 0x22 :: (back ++ 0x3A ::
        (before ++ 0x22 :: (value ++ 0x22 :: after))))) (some (f, v))
  | other {front key back bytes : Bytes} {k : Text} (hfront : IsBlank front)
      (hkey : Spells key k) (hk : ∀ f : Field, k ≠ f.key) (hback : IsBlank back)
      (h : Derives .item bytes) :
      IsMember (front ++ 0x22 :: (key ++ 0x22 :: (back ++ 0x3A :: bytes))) none

/-- The bytes of the **beginning** of a document, up to a place where a member may stand that is
not alone in the object, and the settings made so far, in order. -/
inductive IsBeginning : Bytes → List (Field × Text) → Prop where
  | opening {blank : Bytes} (h : IsBlank blank) : IsBeginning (blank ++ [0x7B]) []
  | member {bytes member : Bytes} {settings : List (Field × Text)} {s : Option (Field × Text)}
      (h : IsBeginning bytes settings) (hmember : IsMember member s) :
      IsBeginning (bytes ++ (member ++ [0x2C])) (settings ++ s.toList)

/-- The bytes of a **document** and the settings that it makes, in order. -/
inductive IsDocument : Bytes → List (Field × Text) → Prop where
  | empty {front blank back : Bytes} (hfront : IsBlank front) (hblank : IsBlank blank)
      (hback : IsBlank back) : IsDocument (front ++ 0x7B :: (blank ++ 0x7D :: back)) []
  | members {bytes member back : Bytes} {settings : List (Field × Text)}
      {s : Option (Field × Text)} (h : IsBeginning bytes settings) (hmember : IsMember member s)
      (hback : IsBlank back) :
      IsDocument (bytes ++ (member ++ 0x7D :: back)) (settings ++ s.toList)

/-! ## Reading a member -/

/-- A capture order is read from each spelling of its word, behind blanks. -/
theorem readCaptureOrder_of_spells {blank bytes : Bytes} {o : CaptureOrder}
    (hblank : IsBlank blank) (h : Spells bytes o.word) (rest : Bytes) :
    readCaptureOrder (blank ++ 0x22 :: (bytes ++ 0x22 :: rest)) = .ok (o, rest) := by
  rw [readCaptureOrder, skipSpaces_blank_append hblank rfl]
  simp [readString_of_spells h, captureOrderOf, Except.map]

/-- The value of a field is put into the draft. -/
theorem Draft.readField_of_spells (d : Draft) {f : Field} {v : Text} {blank bytes : Bytes}
    (hblank : IsBlank blank) (h : Spells bytes v) (hv : IsValue f v) (rest : Bytes) :
    d.readField f (blank ++ 0x22 :: (bytes ++ 0x22 :: rest)) = .ok (d.put f v, rest) := by
  cases f with
  | mappingFile => simp [readField, readPath, readText_of_spells hblank h, Except.map, put]
  | sourceDirectory => simp [readField, readPath, readText_of_spells hblank h, Except.map, put]
  | captureOrder =>
    obtain ⟨o, rfl⟩ := hv.exists_order
    simp [readField, readCaptureOrder_of_spells hblank h, Except.map, put]

/-- A key of no field is not known. -/
theorem Field.ofKey?_eq_none {k : Text} (h : ∀ f : Field, k ≠ f.key) : ofKey? k = none := by
  rw [ofKey?, List.find?_eq_none]
  intro f _
  simpa using Ne.symm (h f)

/-- The reading of members as an equation that can be rewritten with. -/
theorem Draft.readMembers_eq (d : Draft) (isFirst : Bool) (bytes : Bytes) :
    d.readMembers isFirst bytes =
      match readKey? isFirst bytes with
      | .error e => .error e
      | .ok none => (readObjectEnd bytes).map (d, ·)
      | .ok (some (key, rest)) =>
        match d.readMember key rest with
        | .error e => .error e
        | .ok (d', rest') => d'.readMembers false rest' := by
  rw [readMembers]
  split
  · next h => rw [h]
  · next h => rw [h]
  · next h =>
    rw [h]
    dsimp only
    split
    · next h' => rw [h']
    · next h' => rw [h']

/-- Blanks in front of a member mean nothing. -/
theorem Draft.readMembers_blank_append (d : Draft) (isFirst : Bool) {blank : Bytes}
    (h : IsBlank blank) (bytes : Bytes) :
    d.readMembers isFirst (blank ++ bytes) = d.readMembers isFirst bytes := by
  have hskip : skipSpaces (blank ++ bytes) = skipSpaces bytes :=
    List.dropWhile_append_of_pos h.isSpace
  rw [readMembers_eq, readMembers_eq d isFirst bytes, readKey?, readObjectEnd, hskip]
  rfl

/-- The draft with what a member says. -/
def Draft.putMember (d : Draft) : Option (Field × Text) → Draft
  | some (f, v) => d.put f v
  | none => d

/-- What follows a member does not continue a number. -/
theorem isEnd_comma_or_brace {b : UInt8} (hb : b = 0x2C ∨ b = 0x7D) (rest : Bytes) :
    IsEnd (b :: rest) := isEnd_cons (by tauto)

/-- **A member is read**, whatever its layout, if it names no field once more. -/
theorem Draft.readMembers_of_isMember (d : Draft) {member : Bytes} {s : Option (Field × Text)}
    (h : IsMember member s) (hnew : ∀ f v, s = some (f, v) → d.has f = false) (isFirst : Bool)
    {b : UInt8} (hb : b = 0x2C ∨ b = 0x7D) (rest : Bytes) :
    d.readMembers isFirst (separator isFirst ++ (member ++ b :: rest)) =
      (d.putMember s).readMembers false (b :: rest) := by
  cases h with
  | @setting front key back before value after f v hfront hkey hback hbefore hvalue hv hafter =>
    have hmember : d.readMember f.key
        (back ++ 0x3A :: (before ++ 0x22 :: (value ++ 0x22 :: (after ++ b :: rest)))) =
          .ok (d.put f v, after ++ b :: rest) := by
      simp [readMember, hnew f v rfl, readColon_blank_append hback,
        d.readField_of_spells hbefore hvalue hv]
    simp only [List.append_assoc, List.cons_append]
    rw [readMembers_eq, readKey?_of_spells hfront hkey]
    simp only [hmember]
    exact (d.put f v).readMembers_blank_append false hafter _
  | @other front key back bytes k hfront hkey hk hback h =>
    obtain ⟨after, hafter, hskip⟩ := exists_skipValue_of_derives h
    -- The value is skipped up to the blanks behind it, as what follows it does not continue it.
    have hmember : d.readMember k (back ++ 0x3A :: (bytes ++ b :: rest)) =
        .ok (d, after ++ b :: rest) := by
      simp [readMember, Field.ofKey?_eq_none hk, readColon_blank_append hback,
        hskip _ (isEnd_comma_or_brace hb rest), Except.map]
    simp only [List.append_assoc, List.cons_append]
    rw [readMembers_eq, readKey?_of_spells hfront hkey]
    simp only [hmember]
    exact d.readMembers_blank_append false hafter _

/-- **A field that has been read is not read once more**, whatever follows its key. -/
theorem Draft.readMembers_of_repeated (d : Draft) {f : Field} (h : d.has f = true)
    {front key : Bytes} (hfront : IsBlank front) (hkey : Spells key f.key) (isFirst : Bool)
    (rest : Bytes) :
    d.readMembers isFirst (separator isFirst ++ (front ++ 0x22 :: (key ++ 0x22 :: rest))) =
      .error (.repeatedKey f.key) := by
  rw [readMembers_eq, readKey?_of_spells hfront hkey]
  simp [readMember, h]

/-! ## Reading a document -/

/-- A draft **holds** the settings of a list. -/
def Draft.Holds (d : Draft) (settings : List (Field × Text)) : Prop :=
  ∀ f, d.textAt? f = settings.lookup f

/-- A draft has exactly the fields that have been set. -/
theorem Draft.Holds.has_iff {d : Draft} {settings : List (Field × Text)} (h : d.Holds settings)
    (f : Field) : d.has f = true ↔ f ∈ settings.map (·.1) := by
  rw [Draft.has_eq, h f, List.lookup_isSome_iff, List.mem_map]
  exact exists_congr fun p => and_congr_right fun _ => by rw [beq_iff_eq, eq_comm]

/-- The value of a member is one for its field. -/
theorem IsMember.isValue {member : Bytes} {f : Field} {v : Text}
    (h : IsMember member (some (f, v))) : IsValue f v := by
  cases h with
  | setting _ _ _ _ _ hv _ => exact hv

/-- A member that names no field once more is put into a draft that holds the settings in front of
it. -/
theorem Draft.Holds.putMember {d : Draft} {settings : List (Field × Text)}
    {s : Option (Field × Text)} {member : Bytes} (hd : d.Holds settings) (h : IsMember member s)
    (hnodup : ((settings ++ s.toList).map (·.1)).Nodup) :
    (∀ f v, s = some (f, v) → d.has f = false) ∧
      (d.putMember s).Holds (settings ++ s.toList) := by
  cases s with
  | none => exact ⟨by simp, by simpa [Draft.putMember] using hd⟩
  | some s =>
    obtain ⟨f, v⟩ := s
    have hmem : f ∉ settings.map (·.1) := by
      rw [List.map_append, List.nodup_append] at hnodup
      exact fun hf => hnodup.2.2 f hf f (by simp) rfl
    have hnew : d.has f = false := by rwa [← Bool.not_eq_true, hd.has_iff]
    refine ⟨?_, fun g => ?_⟩
    · rintro g w ⟨⟩
      exact hnew
    · rw [Draft.putMember, d.textAt?_put h.isValue, List.lookup_append, ← hd g]
      by_cases hg : g = f
      · subst hg
        rw [Draft.has_eq, Option.isSome_eq_false_iff, Option.isNone_iff_eq_none] at hnew
        simp [hnew]
      · simp [hg, List.lookup_cons, beq_eq_false_iff_ne.2 hg]

/-- **Reading the beginning of a document** comes to a draft of the settings in it. -/
theorem exists_readDraft_of_isBeginning {bytes : Bytes} {settings : List (Field × Text)}
    (h : IsBeginning bytes settings) (hnodup : (settings.map (·.1)).Nodup) :
    ∃ (d : Draft) (isFirst : Bool), d.Holds settings ∧
      ∀ rest, readDraft (bytes ++ rest) = d.readMembers isFirst (separator isFirst ++ rest) := by
  -- The reading comes to a stop in front of the last comma, which belongs to the next member.
  induction h with
  | opening h =>
    refine ⟨.empty, true, fun f => by cases f <;> rfl, fun rest => ?_⟩
    rw [List.append_assoc, List.singleton_append, readDraft, skipSpaces_blank_append h rfl]
    rfl
  | @member bytes member settings s h hmember ih =>
    have hfront : (settings.map (·.1)).Nodup := by
      rw [List.map_append] at hnodup
      exact hnodup.of_append_left
    obtain ⟨d, isFirst, hd, hread⟩ := ih hfront
    obtain ⟨hnew, hholds⟩ := hd.putMember hmember hnodup
    refine ⟨d.putMember s, false, hholds, fun rest => ?_⟩
    rw [List.append_assoc, List.append_assoc, List.singleton_append, hread,
      d.readMembers_of_isMember hmember hnew isFirst (.inl rfl)]
    rfl

/-- **Reading a document** comes to a draft of all its settings. -/
theorem exists_readDraft_of_isDocument {bytes : Bytes} {settings : List (Field × Text)}
    (h : IsDocument bytes settings) (hnodup : (settings.map (·.1)).Nodup) :
    ∃ (d : Draft) (blank : Bytes), d.Holds settings ∧ IsBlank blank ∧
      readDraft bytes = .ok (d, blank) := by
  cases h with
  | @empty front blank back hfront hblank hback =>
    refine ⟨.empty, back, fun f => by cases f <;> rfl, hback, ?_⟩
    rw [readDraft, skipSpaces_blank_append hfront rfl]
    simp [Draft.readMembers_eq, readKey?_blank_append hblank, readObjectEnd_blank_append hblank,
      Except.map]
  | @members bytes member back settings s h hmember hback =>
    have hfront : (settings.map (·.1)).Nodup := by
      rw [List.map_append] at hnodup
      exact hnodup.of_append_left
    obtain ⟨d, isFirst, hd, hread⟩ := exists_readDraft_of_isBeginning h hfront
    obtain ⟨hnew, hholds⟩ := hd.putMember hmember hnodup
    refine ⟨d.putMember s, back, hholds, hback, ?_⟩
    rw [hread, d.readMembers_of_isMember hmember hnew isFirst (.inr rfl), Draft.readMembers_eq]
    rfl

/-- **A document is read as its settings**: a field that is not set has its default. -/
theorem exists_read_of_isDocument {bytes : Bytes} {settings : List (Field × Text)}
    (h : IsDocument bytes settings) (hnodup : (settings.map (·.1)).Nodup) :
    ∃ c, read bytes = .ok c ∧
      ∀ f, c.textAt f = (settings.lookup f).getD (default.textAt f) := by
  obtain ⟨d, blank, hd, hblank, hread⟩ := exists_readDraft_of_isDocument h hnodup
  refine ⟨d.complete, ?_, fun f => by rw [d.textAt_complete, hd f]⟩
  simp [read, hread, readEnd_blank hblank, Except.map]

/-- **A document that names a field once more** cannot be read, whatever follows the key. -/
theorem read_of_repeated {bytes : Bytes} {settings : List (Field × Text)}
    (h : IsBeginning bytes settings) (hnodup : (settings.map (·.1)).Nodup) {f : Field}
    (hf : f ∈ settings.map (·.1)) {front key : Bytes} (hfront : IsBlank front)
    (hkey : Spells key f.key) (rest : Bytes) :
    read (bytes ++ (front ++ 0x22 :: (key ++ 0x22 :: rest))) = .error (.repeatedKey f.key) := by
  obtain ⟨d, isFirst, hd, hread⟩ := exists_readDraft_of_isBeginning h hnodup
  simp [read, hread, d.readMembers_of_repeated ((hd.has_iff f).2 hf) hfront hkey]

/-- **A configuration document means only the fields that it names**, for every tree and every file
in it.

A document in which each field is named at most once is loaded: a field that it names has the value
that is spelled, and any other field has its default. The order of the members, the blanks between
the tokens, the spelling of keys and values and the members with other keys do not matter.

A document whose beginning names each field at most once and goes on with the key of a field that
has been named cannot be loaded, whatever follows that key. -/
theorem loadConfiguration_of_document {t : FileTree} {p : Path} {bytes : Bytes}
    (hread : t.read p = .ok bytes) :
    (∀ settings, IsDocument bytes settings → (settings.map (·.1)).Nodup →
      ∃ c, t.loadConfiguration p = .ok c ∧
        ∀ f, c.textAt f = (settings.lookup f).getD (default.textAt f)) ∧
    (∀ beginning settings front key rest, ∀ f : Field,
      bytes = beginning ++ (front ++ 0x22 :: (key ++ 0x22 :: rest)) →
      IsBeginning beginning settings → (settings.map (·.1)).Nodup → f ∈ settings.map (·.1) →
      IsBlank front → Spells key f.key →
      ∃ e, t.loadConfiguration p = .error (.document e) ∧ e.category = .data ∧
        e.message = "duplicate field `".toList ++ f.key ++ ['`']) := by
  constructor
  · intro settings h hnodup
    obtain ⟨c, hc, htext⟩ := exists_read_of_isDocument h hnodup
    exact ⟨c, by simp [FileTree.loadConfiguration, hread, hc], htext⟩
  · rintro beginning settings front key rest f rfl h hnodup hf hfront hkey
    have herror := read_of_repeated h hnodup hf hfront hkey rest
    refine ⟨.repeatedKey f.key, ?_, rfl, rfl⟩
    simp [FileTree.loadConfiguration, hread, herror]

/-- A document with an escape, with blanks and with two members that mean nothing, beside one that
is cut off behind a key that has occurred before. -/
def documents : FileTree where
  entries := [
    (["c.json".toList], .file (Utf8.encode
      "\x7b \"x\" :[null],\"source_dir\": \"a\\u0062\",\"x\":null\x7d\n".toList)),
    (["d.json".toList], .file (Utf8.encode "\x7b\"source_dir\":\"\",\"source_dir\"".toList))]
  workingDirectory := []

/-- The source directory of the first document is read with its escape, and the second fails. -/
theorem loadConfiguration_of_document_documents :
    documents.loadConfiguration "c.json".toList =
        .ok { default with sourceDirectory := "ab".toList } ∧
      ∃ e, documents.loadConfiguration "d.json".toList = .error (.document e) ∧
        e.category = .data := by
  have hx : Spells [0x78] "x".toList := spells_flatMap_escapeCharacter "x".toList
  have hkey : Spells (Utf8.encode "source_dir".toList) Field.sourceDirectory.key :=
    spells_flatMap_escapeCharacter "source_dir".toList
  have hother : ∀ f : Field, "x".toList ≠ f.key := by
    intro f
    cases f <;> decide
  have hspace : IsBlank [0x20] := by simp [IsBlank]
  have hopening : IsBeginning [0x7B] [] := .opening isBlank_nil
  have hnull := Derives.item isBlank_nil (.word (by decide : "null".toList ∈ words)) isBlank_nil
  have hlist := Derives.item isBlank_nil (.list (.lastItem hnull)) isBlank_nil
  constructor
  · -- The first document is derived from the grammar, member by member.
    have hzero : HexDigit 0x30 0 := .decimal (v := 0) (by decide)
    have hcode : Code [0x30, 0x30, 0x36, 0x32] 0x62 := .digits hzero hzero
      (.decimal (v := 6) (by decide)) (.decimal (v := 2) (by decide))
    have hvalue : Spells (Utf8.encode "a\\u0062".toList) "ab".toList :=
      .plain (by decide : IsPlain 'a') (.code hcode (by decide) .nil)
    have hdocument := IsDocument.members
      ((hopening.member (.other hspace hx hother hspace hlist)).member
        (.setting isBlank_nil hkey isBlank_nil hspace hvalue trivial isBlank_nil))
      (.other isBlank_nil hx hother isBlank_nil hnull) (by simp [IsBlank] : IsBlank [0x0A])
    obtain ⟨c, hload, htext⟩ := (loadConfiguration_of_document (t := documents)
      (p := "c.json".toList) (by decide +kernel)).1 _ hdocument (by decide)
    rw [hload, Except.ok.injEq]
    exact ext_textAt fun f => by rw [htext]; cases f <;> rfl
  · -- The second one is derived up to the key that it repeats.
    have hempty : Spells [] [] := .nil
    have hbeginning := hopening.member
      (.setting isBlank_nil hkey isBlank_nil isBlank_nil hempty trivial isBlank_nil)
    obtain ⟨e, hload, hcategory, -⟩ := (loadConfiguration_of_document (t := documents)
      (p := "d.json".toList) (by decide +kernel)).2 _ _ _ _ [] _ rfl hbeginning
        (by decide) (by decide) isBlank_nil hkey
    exact ⟨e, hload, hcategory⟩

end Configuration

end SourceRecovery
