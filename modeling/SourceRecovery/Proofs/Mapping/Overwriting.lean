import Mathlib.Data.Finset.Card
import Mathlib.Data.Finset.Dedup
import SourceRecovery.Proofs.Mapping.Entries
import SourceRecovery.Proofs.Mapping.LineByLine

/-! # Later class lines overwrite earlier ones

Class lines with the same obfuscated path make one entry: its place is that of the first of them,
its restored path that of the last.

* **`Entry.map_obfuscated_foldl_insertInto`** — the obfuscated paths of a series of insertions, in
  the order of their first occurrences.
* **`Entry.mem_foldl_insertInto_iff`** — what remains of it are the last entries for their paths.
* **`Table.get?_eq_some_iff`**, **`Table.get?_eq_none_iff`** — looking up agrees with the entries.
* **`Table.parse_overwrites`** — all of it for a mapping file, with its index and the counts of its
  lines. -/

namespace SourceRecovery

variable {e x : Entry} {xs es : List Entry} {order : CaptureOrder} {text : Text}
  {path restored : ClassPath}

/-- A further element comes behind the others unless it is one of them. -/
theorem eraseDups_concat {α : Type} [BEq α] [LawfulBEq α] [DecidableEq α] (l : List α) (a : α) :
    (l ++ [a]).eraseDups = if a ∈ l then l.eraseDups else l.eraseDups ++ [a] := by
  rw [List.eraseDups_append, List.removeAll, List.filter_singleton]
  by_cases ha : a ∈ l
  · simp [ha]
  · simp [ha, List.eraseDups_cons]

namespace Entry

/-- An entry is the **last** one of a list for its obfuscated path. -/
def IsLastIn (e : Entry) (es : List Entry) : Prop :=
  ∃ pre post, es = pre ++ e :: post ∧ e.obfuscated ∉ post.map Entry.obfuscated

/-- No entry is the last of none. -/
theorem not_isLastIn_nil : ¬ e.IsLastIn [] := by
  rintro ⟨pre, post, h, -⟩
  simp at h

/-- A further entry is the last one for its path, and the others stay that for theirs. -/
theorem isLastIn_concat_iff :
    x.IsLastIn (es ++ [e]) ↔ x = e ∨ x.IsLastIn es ∧ x.obfuscated ≠ e.obfuscated := by
  constructor
  · rintro ⟨pre, post, hsplit, hlast⟩
    rcases List.eq_nil_or_concat post with rfl | ⟨post, y, rfl⟩
    · obtain ⟨-, hx⟩ := List.append_inj' hsplit rfl
      exact .inl (List.singleton_inj.1 hx).symm
    · rw [List.concat_eq_append, ← List.cons_append, ← List.append_assoc] at hsplit
      obtain ⟨hes, hy⟩ := List.append_inj' hsplit rfl
      obtain rfl := List.singleton_inj.1 hy
      rw [List.concat_eq_append, List.map_append, List.mem_append, not_or] at hlast
      exact .inr ⟨⟨pre, post, hes, hlast.1⟩, by simpa using hlast.2⟩
  · rintro (rfl | ⟨⟨pre, post, rfl, hlast⟩, hne⟩)
    · exact ⟨es, [], rfl, by simp⟩
    · refine ⟨pre, post ++ [e], by simp, ?_⟩
      rw [List.map_append, List.mem_append, not_or]
      exact ⟨hlast, by simpa using hne⟩

/-- An insertion brings in the new entry, and takes out the one for its path. -/
theorem mem_insertInto_iff (h : (xs.map Entry.obfuscated).Nodup) :
    x ∈ e.insertInto xs ↔ x = e ∨ x ∈ xs ∧ x.obfuscated ≠ e.obfuscated := by
  induction xs with
  | nil => simp [insertInto]
  | cons y ys ih =>
    rw [List.map_cons, List.nodup_cons] at h
    rw [insertInto]
    split_ifs with hy
    · -- No other entry has the path of the one that is taken out.
      have hother : ∀ z ∈ ys, z.obfuscated ≠ e.obfuscated := by
        intro z hz hze
        exact h.1 (List.mem_map.2 ⟨z, hz, hze.trans hy.symm⟩)
      rw [List.mem_cons, List.mem_cons]
      constructor
      · rintro (hx | hx)
        · exact .inl hx
        · exact .inr ⟨.inr hx, hother x hx⟩
      · rintro (hx | ⟨rfl | hx, hne⟩)
        · exact .inl hx
        · exact absurd hy hne
        · exact .inr hx
    · rw [List.mem_cons, List.mem_cons, ih h.2]
      constructor
      · rintro (rfl | hx | ⟨hx, hne⟩)
        · exact .inr ⟨.inl rfl, hy⟩
        · exact .inl hx
        · exact .inr ⟨.inr hx, hne⟩
      · rintro (hx | ⟨hx | hx, hne⟩)
        · exact .inr (.inl hx)
        · exact .inl hx
        · exact .inr (.inr ⟨hx, hne⟩)

/-- Distinct obfuscated paths stay distinct under insertion. -/
theorem nodup_insertInto (e : Entry) (h : (xs.map Entry.obfuscated).Nodup) :
    ((e.insertInto xs).map Entry.obfuscated).Nodup := by
  rw [map_obfuscated_insertInto]
  split
  · exact h
  · next hnew =>
    rw [← List.concat_eq_append]
    exact List.Nodup.concat hnew h

/-- Distinct obfuscated paths stay distinct under a series of insertions. -/
theorem nodup_foldl_insertInto (es : List Entry) (h : (xs.map Entry.obfuscated).Nodup) :
    ((es.foldl (fun xs e => e.insertInto xs) xs).map Entry.obfuscated).Nodup := by
  induction es generalizing xs with
  | nil => exact h
  | cons e es ih => exact ih (nodup_insertInto e h)

/-- **The order of the entries** is that in which their paths occur first. -/
theorem map_obfuscated_foldl_insertInto (es : List Entry) :
    (es.foldl (fun xs e => Entry.insertInto e xs) []).map Entry.obfuscated =
      (es.map Entry.obfuscated).eraseDups := by
  induction es using List.reverseRecOn with
  | nil => rfl
  | append_singleton es e ih =>
    rw [List.foldl_append, List.foldl_cons, List.foldl_nil, map_obfuscated_insertInto, ih,
      List.map_append, List.map_singleton, eraseDups_concat]
    simp only [List.mem_eraseDups]

/-- **What remains** of a series of insertions are the last entries for their paths. -/
theorem mem_foldl_insertInto_iff (es : List Entry) :
    x ∈ es.foldl (fun xs e => Entry.insertInto e xs) [] ↔ x.IsLastIn es := by
  induction es using List.reverseRecOn with
  | nil => simpa using not_isLastIn_nil
  | append_singleton es e ih =>
    have hnodup : ((es.foldl (fun xs e => Entry.insertInto e xs) []).map Entry.obfuscated).Nodup :=
      nodup_foldl_insertInto es List.nodup_nil
    rw [List.foldl_append, List.foldl_cons, List.foldl_nil, mem_insertInto_iff hnodup, ih,
      isLastIn_concat_iff]

end Entry

namespace Table

/-! ## Looking up -/

/-- **What is found for a path** is the restored path of the entry that has it. -/
theorem get?_eq_some_iff {table : Table} (h : table.IsConsistent) :
    table.get? path = some restored ↔ ⟨path, restored⟩ ∈ table.entries := by
  simp only [h.get?_eq_find?, Option.map_eq_some_iff, Entry.find?_eq_some_iff h.nodup]
  constructor
  · rintro ⟨e, ⟨hmem, rfl⟩, rfl⟩
    exact hmem
  · exact fun hmem => ⟨_, ⟨hmem, rfl⟩, rfl⟩

/-- **Nothing is found** exactly for the paths that no entry has. -/
theorem get?_eq_none_iff {table : Table} (h : table.IsConsistent) :
    table.get? path = none ↔ path ∉ table.entries.map Entry.obfuscated := by
  rw [h.get?_eq_find?, Option.map_eq_none_iff, List.find?_eq_none, List.mem_map]
  simp

/-- A table has as many entries as there are different obfuscated paths. -/
theorem size_eq_card {table : Table} (h : table.IsConsistent) :
    table.size = (table.entries.map Entry.obfuscated).toFinset.card := by
  rw [List.toFinset_card_of_nodup h.nodup, List.length_map]
  rfl

/-! ## Mapping files -/

/-- There are as many class lines as records that are one. -/
theorem classes_parse (order : CaptureOrder) (text : Text) :
    (parse order text).counts.classes = (Record.classLines text).length := by
  rw [parse, counts_ofRecords, Record.classLines, List.length_filterMap_eq_countP]
  refine List.countP_congr fun record _ => ?_
  cases record <;> simp [Record.classPaths?]

/-- **Later class lines overwrite earlier ones.** The index has a position for a path exactly if the
entry at that position is for the path, after each record and at the end. The obfuscated paths of
the table are those of the class lines, each once and in the order of their first occurrences, and
the restored path of each is that of the last class line for it. Looking up a path through the index
gives the restored path of its entry, and nothing for a path that no class line has. The table is as
large as the number of different obfuscated paths, every class line is counted, and every line that
is not blank is counted once. -/
theorem parse_overwrites (order : CaptureOrder) (text : Text) :
    let table := parse order text
    let lines := (Record.classLines text).map (Entry.ofLine order)
    (∀ path i, table.index.lookup path = some i ↔
        table.entries[i]?.map Entry.obfuscated = some path) ∧
      (∀ n, (ofRecords order ((Record.parseAll text).take n)).IsConsistent) ∧
      table.entries.map Entry.obfuscated = (lines.map Entry.obfuscated).eraseDups ∧
      (table.entries.map Entry.obfuscated).Nodup ∧
      (∀ e, e ∈ table.entries ↔ e.IsLastIn lines) ∧
      (∀ path restored, table.get? path = some restored ↔ Entry.IsLastIn ⟨path, restored⟩ lines) ∧
      (∀ path restored, table.get? path = some restored ↔ ⟨path, restored⟩ ∈ table.entries) ∧
      (∀ path, table.get? path = none ↔ path ∉ lines.map Entry.obfuscated) ∧
      table.size = (lines.map Entry.obfuscated).toFinset.card ∧
      (table.size = 0 ↔ table.counts.classes = 0) ∧
      table.counts.classes = lines.length ∧
      table.counts.classes + table.counts.members + table.counts.comments =
        (Text.lines text).countP fun line => line.any fun c => !Text.isBlank c := by
  intro table lines
  have htable : table.IsConsistent := isConsistent_ofRecords order _
  have hentries : table.entries = lines.foldl (fun xs e => Entry.insertInto e xs) [] :=
    entries_parse_eq_foldl order text
  have hpaths : table.entries.map Entry.obfuscated = (lines.map Entry.obfuscated).eraseDups := by
    rw [hentries, Entry.map_obfuscated_foldl_insertInto]
  have hlast : ∀ e, e ∈ table.entries ↔ e.IsLastIn lines := by
    intro e
    rw [hentries, Entry.mem_foldl_insertInto_iff]
  have hmem : ∀ path, path ∈ table.entries.map Entry.obfuscated ↔
      path ∈ lines.map Entry.obfuscated := by
    intro path
    rw [hpaths, List.mem_eraseDups]
  have hsize : table.size = (lines.map Entry.obfuscated).toFinset.card := by
    rw [size_eq_card htable]
    congr 1
    ext path
    rw [List.mem_toFinset, List.mem_toFinset, hmem]
  have hclasses : table.counts.classes = lines.length := by
    rw [classes_parse, List.length_map]
  refine ⟨fun path i => ?_, fun n => isConsistent_ofRecords order _, hpaths, htable.nodup, hlast,
    fun path restored => ?_, fun path restored => get?_eq_some_iff htable, fun path => ?_, hsize,
    ?_, hclasses, ?_⟩
  · rw [htable path i, List.getElem?_map]
  · rw [get?_eq_some_iff htable, hlast]
  · rw [get?_eq_none_iff htable, hmem]
  · -- Without a class line there is no path, and with one there is.
    rw [hsize, hclasses, Finset.card_eq_zero, List.toFinset_eq_empty_iff, List.map_eq_nil_iff,
      List.length_eq_zero_iff]
  · have hcounts : table.counts = LineCounts.ofRecords (Record.parseAll text) :=
      counts_ofRecords order _
    rw [hcounts, ← Record.length_parseAll]
    exact LineCounts.sum_ofRecords _

/-- The second line for `a` changes the entry at the first position, and that for `c` adds a third
one. -/
example :
    let table := parse .obfuscatedFirst "a -> x:\nb -> y:\na -> z:\nc -> w:".toList
    table.index.lookup ['a'] = some 0 ∧ table.index.lookup ['c'] = some 2 ∧
      table.get? ['a'] = some ['z'] := by decide

end Table

end SourceRecovery
