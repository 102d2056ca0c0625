import SourceRecovery.Configuration.Basic
import SourceRecovery.FileTree.Operations
import SourceRecovery.Json.Reader
import SourceRecovery.Json.Value

/-! # Configuration documents

A configuration is kept as a JSON document: an object whose members name what is chosen. Members
with other keys mean nothing, and a field that is not named keeps its default. The fields may also
be given in order as a list, and a capture order as an object with its word as the only key.

* **`Configuration.write`** — the document of a configuration.
* **`Configuration.read`** — the configuration of a document. -/

namespace SourceRecovery

namespace Configuration

/-! ## Fields -/

/-- A **field** of a configuration document. -/
inductive Field where
  | mappingFile
  | sourceDirectory
  | captureOrder
deriving Repr, DecidableEq

/-- The fields in the order in which they are written. -/
def Field.all : List Field := [mappingFile, sourceDirectory, captureOrder]

/-- The key of a field. -/
def Field.key : Field → Text
  | mappingFile => "mapping_file".toList
  | sourceDirectory => "source_dir".toList
  | captureOrder => "capture_order".toList

/-- The field of a key. -/
def Field.ofKey? (key : Text) : Option Field := Field.all.find? (·.key == key)

/-- Each field is the field of its key. -/
@[simp] theorem Field.ofKey?_key (f : Field) : ofKey? f.key = some f := by cases f <;> decide

/-! ## Writing -/

/-- The document of a configuration as a value. -/
def toValue (c : Configuration) : Json.Value :=
  .object
    [(Field.mappingFile.key, .string c.mappingFile),
      (Field.sourceDirectory.key, .string c.sourceDirectory),
      (Field.captureOrder.key, .string c.captureOrder.word)]

/-- The **document** of a configuration, on one line. -/
def write (c : Configuration) : Text := c.toValue.compact

/-! ## Reading -/

/-- The fields of a document read so far. -/
structure Draft where
  mappingFile? : Option Path
  sourceDirectory? : Option Path
  captureOrder? : Option CaptureOrder
deriving Repr, DecidableEq

/-- A draft without fields. -/
def Draft.empty : Draft := ⟨none, none, none⟩

/-- Whether a field has been read. -/
def Draft.has (d : Draft) : Field → Bool
  | .mappingFile => d.mappingFile?.isSome
  | .sourceDirectory => d.sourceDirectory?.isSome
  | .captureOrder => d.captureOrder?.isSome

/-- The configuration of a draft: a field that has not been read has its default. -/
def Draft.complete (d : Draft) : Configuration where
  mappingFile := d.mappingFile?.getD default.mappingFile
  sourceDirectory := d.sourceDirectory?.getD default.sourceDirectory
  captureOrder := d.captureOrder?.getD default.captureOrder

open Json (Error)

/-- Reads a path. -/
def readPath (bytes : Bytes) : Except Error (Path × Bytes) :=
  Json.readText "path string".toList bytes

/-- The capture order of a word. -/
def captureOrderOf (word : Text) : Except Error CaptureOrder :=
  match CaptureOrder.ofWord? word with
  | some order => .ok order
  | none =>
    .error (.unknownWord word CaptureOrder.obfuscatedFirst.word CaptureOrder.restoredFirst.word)

/-- Reads what follows the word of a capture order that is written as an object: a null, and
nothing else. -/
def readOrderObjectEnd (bytes : Bytes) : Except Error Bytes :=
  match Json.readColon bytes with
  | .error e => .error e
  | .ok rest =>
    match Json.readNull "unit".toList rest with
    | .error e => .error e
    | .ok rest =>
      match Json.skipSpaces rest with
      | [] => .error .endInObject
      | b :: rest => if b = 0x7D then .ok rest else .error .valueExpected

/-- Reads the word of a capture order that is written as an object, behind the opening brace. -/
def readOrderKey (bytes : Bytes) : Except Error (Text × Bytes) :=
  match Json.skipSpaces bytes with
  | [] => .error .endInObject
  | b :: rest =>
    if b = 0x22 then Json.readString rest
    else if b = 0x7D then .error .valueExpected
    else .error .keyExpected

/-- Reads a capture order. -/
def readCaptureOrder (bytes : Bytes) : Except Error (CaptureOrder × Bytes) :=
  match Json.skipSpaces bytes with
  | [] => .error .endInValue
  | b :: rest =>
    if b = 0x22 then
      match Json.readString rest with
      | .error e => .error e
      | .ok (word, rest) => (captureOrderOf word).map (·, rest)
    else if b = 0x7B then
      match readOrderKey rest with
      | .error e => .error e
      | .ok (word, rest) =>
        match captureOrderOf word with
        | .error e => .error e
        | .ok order => (readOrderObjectEnd rest).map (order, ·)
    else .error .valueExpected

/-- Reads the value of a field into a draft. -/
def Draft.readField (d : Draft) (f : Field) (bytes : Bytes) : Except Error (Draft × Bytes) :=
  match f with
  | .mappingFile => (readPath bytes).map fun (p, rest) => ({ d with mappingFile? := some p }, rest)
  | .sourceDirectory =>
    (readPath bytes).map fun (p, rest) => ({ d with sourceDirectory? := some p }, rest)
  | .captureOrder =>
    (readCaptureOrder bytes).map fun (o, rest) => ({ d with captureOrder? := some o }, rest)

/-- Reads a member behind its key. A field must not have occurred before; the value of any other
key is skipped. -/
def Draft.readMember (d : Draft) (key : Text) (bytes : Bytes) : Except Error (Draft × Bytes) :=
  match Field.ofKey? key with
  | none =>
    match Json.readColon bytes with
    | .error e => .error e
    | .ok rest => (Json.skipValue rest).map (d, ·)
  | some f =>
    if d.has f then .error (.repeatedKey f.key)
    else
      match Json.readColon bytes with
      | .error e => .error e
      | .ok rest => d.readField f rest

/-- Reading the name of a capture order only takes bytes away. -/
theorem length_le_of_readOrderKey {bytes rest : Bytes} {t : Text}
    (h : readOrderKey bytes = .ok (t, rest)) : rest.length ≤ bytes.length := by
  simp only [readOrderKey] at h
  split at h
  · cases h
  · next hs =>
    have := Json.length_lt_of_skipSpaces hs
    split at h
    · have := Json.length_le_of_readString h
      omega
    · split at h <;> cases h

/-- Reading the end of a capture order written as an object only takes bytes away. -/
theorem length_le_of_readOrderObjectEnd {bytes rest : Bytes}
    (h : readOrderObjectEnd bytes = .ok rest) : rest.length ≤ bytes.length := by
  simp only [readOrderObjectEnd] at h
  split at h
  · cases h
  · next hc =>
    have := Json.length_le_of_readColon hc
    split at h
    · cases h
    · next hn =>
      have := Json.length_le_of_readNull hn
      split at h
      · cases h
      · next hs =>
        have := Json.length_lt_of_skipSpaces hs
        split at h
        · cases h
          omega
        · cases h

/-- Reading a capture order only takes bytes away. -/
theorem length_le_of_readCaptureOrder {o : CaptureOrder} {bytes rest : Bytes}
    (h : readCaptureOrder bytes = .ok (o, rest)) : rest.length ≤ bytes.length := by
  simp only [readCaptureOrder] at h
  split at h
  · cases h
  · next hs =>
    have := Json.length_lt_of_skipSpaces hs
    split at h
    · split at h
      · cases h
      · next word r hr =>
        have := Json.length_le_of_readString hr
        cases ho : captureOrderOf word with
        | error e => simp [ho, Except.map] at h
        | ok o' =>
          simp only [ho, Except.map, Except.ok.injEq, Prod.mk.injEq] at h
          obtain ⟨-, rfl⟩ := h
          omega
    split at h
    · split at h
      · cases h
      · next word r hr =>
        have := length_le_of_readOrderKey hr
        split at h
        · cases h
        · cases he : readOrderObjectEnd r with
          | error e => simp [he, Except.map] at h
          | ok r' =>
            have := length_le_of_readOrderObjectEnd he
            simp only [he, Except.map, Except.ok.injEq, Prod.mk.injEq] at h
            obtain ⟨-, rfl⟩ := h
            omega
    · cases h

/-- Reading a path leaves no more than was there. -/
theorem length_le_of_readPath {p : Path} {bytes rest : Bytes}
    (h : readPath bytes = .ok (p, rest)) : rest.length ≤ bytes.length :=
  Json.length_le_of_readText h

/-- Reading a field leaves no more than was there. -/
theorem Draft.length_le_of_readField {d d' : Draft} {f : Field} {bytes rest : Bytes}
    (h : d.readField f bytes = .ok (d', rest)) : rest.length ≤ bytes.length := by
  cases f with
  | mappingFile =>
    cases hp : readPath bytes with
    | error e => simp [readField, hp, Except.map] at h
    | ok q =>
      simp only [readField, hp, Except.map, Except.ok.injEq, Prod.mk.injEq] at h
      exact h.2 ▸ length_le_of_readPath hp
  | sourceDirectory =>
    cases hp : readPath bytes with
    | error e => simp [readField, hp, Except.map] at h
    | ok q =>
      simp only [readField, hp, Except.map, Except.ok.injEq, Prod.mk.injEq] at h
      exact h.2 ▸ length_le_of_readPath hp
  | captureOrder =>
    cases ho : readCaptureOrder bytes with
    | error e => simp [readField, ho, Except.map] at h
    | ok q =>
      simp only [readField, ho, Except.map, Except.ok.injEq, Prod.mk.injEq] at h
      exact h.2 ▸ length_le_of_readCaptureOrder ho

/-- Reading a member leaves no more than was there. -/
theorem Draft.length_le_of_readMember {d d' : Draft} {key : Text} {bytes rest : Bytes}
    (h : d.readMember key bytes = .ok (d', rest)) : rest.length ≤ bytes.length := by
  simp only [readMember] at h
  split at h
  · split at h
    · cases h
    · next r hc =>
      have := Json.length_le_of_readColon hc
      cases hv : Json.skipValue r with
      | error e => simp [hv, Except.map] at h
      | ok r' =>
        have := Json.length_le_of_skipValue hv
        simp only [hv, Except.map, Except.ok.injEq, Prod.mk.injEq] at h
        obtain ⟨-, rfl⟩ := h
        omega
  · split at h
    · cases h
    split at h
    · cases h
    · next hc =>
      have := Json.length_le_of_readColon hc
      have := length_le_of_readField h
      omega

/-- Reads the members of an object up to its closing brace. -/
def Draft.readMembers (d : Draft) (isFirst : Bool) (bytes : Bytes) :
    Except Error (Draft × Bytes) :=
  match _hk : Json.readKey? isFirst bytes with
  | .error e => .error e
  | .ok none => (Json.readObjectEnd bytes).map (d, ·)
  | .ok (some (key, rest)) =>
    match _hm : d.readMember key rest with
    | .error e => .error e
    | .ok (d', rest') => d'.readMembers false rest'
termination_by bytes.length
decreasing_by
  have := Json.length_lt_of_readKey? _hk
  have := Draft.length_le_of_readMember _hm
  omega

/-- Reads the fields of a list from `fields` on; a list that is closed early leaves the others
out. -/
def Draft.readItems (d : Draft) (isFirst : Bool) (bytes : Bytes) :
    List Field → Except Error (Draft × Bytes)
  | [] => (Json.readListEnd bytes).map (d, ·)
  | f :: fields =>
    match Json.readItem? isFirst bytes with
    | .error e => .error e
    | .ok none => (Json.readListEnd bytes).map (d, ·)
    | .ok (some rest) =>
      match d.readField f rest with
      | .error e => .error e
      | .ok (d, rest) => d.readItems false rest fields

/-- Reads an object or a list of fields. -/
def readDraft (bytes : Bytes) : Except Error (Draft × Bytes) :=
  match Json.skipSpaces bytes with
  | [] => .error .endInValue
  | b :: rest =>
    if b = 0x7B then Draft.empty.readMembers true rest
    else if b = 0x5B then Draft.empty.readItems true rest Field.all
    else .error (Json.wrongValue "struct Config".toList (b :: rest))

/-- The **configuration** of a document. -/
def read (bytes : Bytes) : Except Error Configuration :=
  match readDraft bytes with
  | .error e => .error e
  | .ok (d, rest) => (Json.readEnd rest).map fun _ => d.complete

end Configuration

/-- Why a configuration could not be loaded. -/
inductive ConfigurationError where
  /-- The file could not be read. -/
  | io (cause : IoError)
  /-- The file holds no configuration document. -/
  | document (cause : Json.Error)
deriving Repr, DecidableEq

/-- What went wrong, without its cause. -/
def ConfigurationError.message : ConfigurationError → Text
  | io _ => "failed to read config".toList
  | document _ => "failed to parse config".toList

/-- The description of the cause, without its position in the document. -/
def ConfigurationError.causeMessage : ConfigurationError → Text
  | io cause => cause.message
  | document cause => cause.message

/-- **Loads** the configuration in a file. -/
def FileTree.loadConfiguration (t : FileTree) (p : Path) :
    Except ConfigurationError Configuration :=
  match t.read p with
  | .error cause => .error (.io cause)
  | .ok bytes =>
    match Configuration.read bytes with
    | .error cause => .error (.document cause)
    | .ok c => .ok c

end SourceRecovery
