import SourceRecovery.Proofs.Mapping.Overwriting
import SourceRecovery.Proofs.Source.Undo

/-! # Reading a mapping file in both capture orders

The two capture orders read the same lines, and each of them exchanges the two names of a class
line. So the line counts never depend on the capture order, and if no class path occurs twice on
the same side of the arrows, the two tables are inverse to each other:

* **`Table.counts_parse_congr`** — the counts of a mapping file.
* **`Table.entries_parse_inverse`** — the entries of the one table are the inverses of the entries
  of the other, in the same order.
* **`Table.get?_eq_some_inverse_iff`** — looking up in a table of inverse entries is looking up
  backwards.
* **`Table.parse_inverse`** — all of it for a mapping file. -/

namespace SourceRecovery

variable {text : Text} {path restored : ClassPath}

/-- Inverting an entry twice gives it back. -/
@[simp] theorem Entry.inverse_inverse (e : Entry) : e.inverse.inverse = e := rfl

/-- The two capture orders make inverse entries of a class line. -/
theorem Entry.inverse_ofLine (line : ClassPath × ClassPath) :
    (Entry.ofLine .restoredFirst line).inverse = Entry.ofLine .obfuscatedFirst line := rfl

/-- An entry is among inverse entries exactly if its inverse is among the entries. -/
theorem Entry.mem_map_inverse {e : Entry} {es : List Entry} :
    e ∈ es.map Entry.inverse ↔ e.inverse ∈ es := by
  rw [List.mem_map]
  constructor
  · rintro ⟨f, hf, rfl⟩
    rwa [Entry.inverse_inverse]
  · intro he
    exact ⟨e.inverse, he, Entry.inverse_inverse e⟩

namespace Table

/-- **The line counts** do not depend on the capture order. -/
theorem counts_parse_congr (order order' : CaptureOrder) (text : Text) :
    (parse order text).counts = (parse order' text).counts := by
  rw [parse, parse, counts_ofRecords, counts_ofRecords]

/-- **The entries of the two readings** are inverse to each other, if no class path occurs twice on
the same side of the arrows. -/
theorem entries_parse_inverse (hleft : ((Record.classLines text).map Prod.fst).Nodup)
    (hright : ((Record.classLines text).map Prod.snd).Nodup) :
    (parse .obfuscatedFirst text).entries =
      (parse .restoredFirst text).entries.map Entry.inverse := by
  have hfirst : (parse .obfuscatedFirst text).entries =
      (Record.classLines text).map (Entry.ofLine .obfuscatedFirst) := entries_parse hleft
  have hsecond : (parse .restoredFirst text).entries =
      (Record.classLines text).map (Entry.ofLine .restoredFirst) := entries_parse hright
  rw [hfirst, hsecond, List.map_map]
  exact List.map_congr_left fun line _ => (Entry.inverse_ofLine line).symm

/-- **Looking up backwards**: where one table has the inverse entries of another, and the index of
each agrees with its entries, what the one finds for a path is what the other finds that path
for. -/
theorem get?_eq_some_inverse_iff {table table' : Table} (htable : table.IsConsistent)
    (htable' : table'.IsConsistent) (h : table.entries = table'.entries.map Entry.inverse) :
    table.get? path = some restored ↔ table'.get? restored = some path := by
  rw [get?_eq_some_iff htable, get?_eq_some_iff htable', h, Entry.mem_map_inverse]
  rfl

/-- **The two capture orders are inverse readings of one mapping file.** The line counts are the
same. If no class path occurs twice in front of the arrows, and none twice behind them, both tables
have the same size, their entries at the same place are inverse to each other, and the one finds a
path for another exactly if the other finds it the other way round. -/
theorem parse_inverse (text : Text) :
    let there := parse .obfuscatedFirst text
    let back := parse .restoredFirst text
    there.counts = back.counts ∧
      (((Record.classLines text).map Prod.fst).Nodup →
        ((Record.classLines text).map Prod.snd).Nodup →
        there.size = back.size ∧
          (∀ i : Nat, there.entries[i]? = back.entries[i]?.map Entry.inverse) ∧
          ∀ a b, there.get? a = some b ↔ back.get? b = some a) := by
  intro there back
  refine ⟨counts_parse_congr _ _ text, fun hleft hright => ?_⟩
  have hentries : there.entries = back.entries.map Entry.inverse :=
    entries_parse_inverse hleft hright
  refine ⟨?_, fun i => ?_, fun a b => get?_eq_some_inverse_iff (isConsistent_ofRecords _ _)
    (isConsistent_ofRecords _ _) hentries⟩
  · rw [size, size, hentries, List.length_map]
  · rw [hentries, List.getElem?_map]

/-- A mapping file in which a class path is on both sides of the arrows, with dots and slashes
mixed: what was restored for `a/A` in the one reading is looked up in the other. -/
theorem parse_inverse_swappedClasses :
    let text := "# header\na.A -> b.B:\n    int f -> g\nb/B -> a.A:\nc.C -> D:".toList
    let there := parse .obfuscatedFirst text
    let back := parse .restoredFirst text
    there.counts = ⟨3, 1, 1⟩ ∧ there.get? "c/C".toList = some "D".toList ∧
      there.counts = back.counts ∧ ((Record.classLines text).map Prod.fst).Nodup ∧
      ((Record.classLines text).map Prod.snd).Nodup ∧ there.size = back.size ∧
      (∀ i : Nat, there.entries[i]? = back.entries[i]?.map Entry.inverse) ∧
      ∀ a b, there.get? a = some b ↔ back.get? b = some a := by
  intro text there back
  obtain ⟨hcounts, hinverse⟩ := parse_inverse text
  have hleft : ((Record.classLines text).map Prod.fst).Nodup := by decide
  have hright : ((Record.classLines text).map Prod.snd).Nodup := by decide
  exact ⟨by decide, by decide, hcounts, hleft, hright, hinverse hleft hright⟩

/-- With a class path twice behind the arrows, the readings differ in size. -/
example : (parse .obfuscatedFirst "a.A -> x.X:\nb.B -> x/X:".toList).size = 2 ∧
    (parse .restoredFirst "a.A -> x.X:\nb.B -> x/X:".toList).size = 1 := by decide

end Table

end SourceRecovery
