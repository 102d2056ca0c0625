import SourceRecovery.ClassPath
import SourceRecovery.Mapping.Record

/-! # Mapping tables

A **mapping table** says, for each obfuscated class path, which class path is restored for it. It
is a list of **entries** with an **index** that says at which position the entry of a path is. A
later class line for the same path changes the restored path at that position, and so keeps its
place. Which name of a class line is the obfuscated one is the **capture order** of the file.

A table is built record by record (`Table.add`), and a path is looked up in the index first
(`Table.get?`). Nothing in the type says that index and entries agree: that they do in every table
that is built so is shown in `SourceRecovery.Proofs.Mapping.Index`. -/

namespace SourceRecovery

/-- Which name of a class line is the obfuscated one. -/
inductive CaptureOrder where
  /-- The name in front of the arrow is the obfuscated one. -/
  | obfuscatedFirst
  /-- The name in front of the arrow is the restored one. -/
  | restoredFirst
deriving Repr, DecidableEq, Inhabited

/-- The word for a capture order in a configuration. -/
def CaptureOrder.word : CaptureOrder → Text
  | .obfuscatedFirst => "upstream".toList
  | .restoredFirst => "conventional".toList

/-- The capture order that a word stands for. -/
def CaptureOrder.ofWord? (word : Text) : Option CaptureOrder :=
  [CaptureOrder.obfuscatedFirst, .restoredFirst].find? (·.word == word)

/-- Reading the word of a capture order gives it back. -/
@[simp] theorem CaptureOrder.ofWord?_word (o : CaptureOrder) : ofWord? o.word = some o := by
  cases o <;> decide

/-- One class to restore. -/
structure Entry where
  /-- The class path under which the source file is found. -/
  obfuscated : ClassPath
  /-- The class path that the source file gets. -/
  restored : ClassPath
deriving Repr, DecidableEq

/-- The entry of a class line with the given names. -/
def Entry.ofNames (order : CaptureOrder) (left right : Text) : Entry :=
  match order with
  | .obfuscatedFirst => ⟨ClassPath.ofName left, ClassPath.ofName right⟩
  | .restoredFirst => ⟨ClassPath.ofName right, ClassPath.ofName left⟩

/-- The entry of a record, if it is a class line. -/
def Entry.ofRecord? (order : CaptureOrder) : Record → Option Entry
  | .classes left right => some (Entry.ofNames order left right)
  | .member _ => none
  | .comment => none

/-- How many lines of each kind a mapping file holds. -/
structure LineCounts where
  /-- The number of class lines. -/
  classes : Nat
  /-- The number of member lines. -/
  members : Nat
  /-- The number of comments. -/
  comments : Nat
deriving Repr, DecidableEq

/-- The counts with one more record. -/
def LineCounts.add (c : LineCounts) : Record → LineCounts
  | .classes _ _ => { c with classes := c.classes + 1 }
  | .member _ => { c with members := c.members + 1 }
  | .comment => { c with comments := c.comments + 1 }

/-- A **mapping table**. -/
structure Table where
  /-- The entries, in the order of the first lines for their obfuscated paths. -/
  entries : List Entry
  /-- The **index**: the positions of the entries by their obfuscated paths. Of two positions for
  one path the first counts. -/
  index : List (ClassPath × Nat)
  /-- The line counts of the file the table was read from. -/
  counts : LineCounts
deriving DecidableEq

namespace Table

/-- The table of an empty mapping file. -/
def empty : Table := ⟨[], [], ⟨0, 0, 0⟩⟩

/-- The number of entries. -/
def size (t : Table) : Nat := t.entries.length

/-- The restored path for an obfuscated path: that of the entry at the position in the index. -/
def get? (t : Table) (path : ClassPath) : Option ClassPath :=
  (t.index.lookup path).bind fun i => t.entries[i]?.map Entry.restored

/-- Puts an entry into a table: its restored path at the position that the index has for its
obfuscated one, or behind all other entries if it has none. -/
def insert (t : Table) (e : Entry) : Table :=
  match t.index.lookup e.obfuscated with
  | some i =>
    { t with entries := t.entries.modify i fun x => { x with restored := e.restored } }
  | none =>
    { t with
      entries := t.entries ++ [e]
      index := (e.obfuscated, t.entries.length) :: t.index }

/-- The table after one more record: the record is counted, and the entry of a class line put in. -/
def add (order : CaptureOrder) (t : Table) (record : Record) : Table :=
  let counted := { t with counts := t.counts.add record }
  match Entry.ofRecord? order record with
  | some e => counted.insert e
  | none => counted

/-- The table of a list of records, added one after another. -/
def ofRecords (order : CaptureOrder) (records : List Record) : Table :=
  records.foldl (add order) empty

/-- The table of a mapping file. -/
def parse (order : CaptureOrder) (text : Text) : Table := ofRecords order (Record.parseAll text)

/-- The last line for a path gives its value, the first one its place. -/
example : ((parse .obfuscatedFirst "a -> x:\nb -> y:\na -> z:".toList).entries) =
    [⟨['a'], ['z']⟩, ⟨['b'], ['y']⟩] := by decide

end Table

end SourceRecovery
