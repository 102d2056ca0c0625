import Mathlib.Data.List.Induction
import Mathlib.Data.List.Nodup
import SourceRecovery.Mapping.Table

/-! # The index of a table

A table keeps its entries in one list and their positions in another, the index. The two **agree**
if the index has a position for a path exactly if the entry at that position is the one for the
path (`Table.IsConsistent`). An insertion keeps that so, whether it changes an entry or adds one,
and so it holds after each line of a mapping file. Such a table is as good as the list of its
entries, into which and in which everything is searched from the front.

* **`Table.IsConsistent.nodup`** — then no two entries are for the same path.
* **`Table.IsConsistent.insert`**, **`Table.isConsistent_ofRecords`** — one insertion, and the
  records of a mapping file one after another.
* **`Table.IsConsistent.entries_insert`** — an insertion through the index is one into the list
  (`Entry.insertInto`).
* **`Table.IsConsistent.get?_eq_find?`** — looking up through the index is searching the list.
* **`Table.counts_ofRecords`** — what is counted along the way. -/

namespace SourceRecovery

variable {t : Table} {e : Entry} {xs : List Entry} {order : CaptureOrder} {path : ClassPath}
  {i : Nat}

/-! ## Lists of entries -/

/-- Puts an entry in the place of the one with the same obfuscated path, or behind all others. -/
def Entry.insertInto (e : Entry) : List Entry → List Entry
  | [] => [e]
  | x :: xs => if x.obfuscated = e.obfuscated then e :: xs else x :: e.insertInto xs

/-- The obfuscated paths after an insertion: the new one is added behind the others unless it was
there. -/
theorem Entry.map_obfuscated_insertInto (e : Entry) (xs : List Entry) :
    (e.insertInto xs).map Entry.obfuscated =
      if e.obfuscated ∈ xs.map Entry.obfuscated then xs.map Entry.obfuscated
      else xs.map Entry.obfuscated ++ [e.obfuscated] := by
  induction xs with
  | nil => simp [Entry.insertInto]
  | cons x xs ih =>
    simp only [Entry.insertInto]
    by_cases h : x.obfuscated = e.obfuscated
    · simp [h]
    · have h' : e.obfuscated ≠ x.obfuscated := Ne.symm h
      simp only [h, if_false, List.map_cons, ih, List.mem_cons, h', false_or]
      split <;> simp

/-- Where no two entries are for the same path, the one found for a path is the one that has it. -/
theorem Entry.find?_eq_some_iff (h : (xs.map Entry.obfuscated).Nodup) :
    xs.find? (·.obfuscated == path) = some e ↔ e ∈ xs ∧ e.obfuscated = path := by
  constructor
  · intro hfind
    exact ⟨List.mem_of_find?_eq_some hfind, by simpa using List.find?_some hfind⟩
  · rintro ⟨hmem, hpath⟩
    cases hfind : xs.find? (·.obfuscated == path) with
    | none => exact absurd (List.find?_eq_none.1 hfind e hmem) (by simp [hpath])
    | some x =>
      have hx : x.obfuscated = path := by simpa using List.find?_some hfind
      rw [List.inj_on_of_nodup_map h (List.mem_of_find?_eq_some hfind) hmem (hx.trans hpath.symm)]

/-- A new obfuscated path comes behind all others. -/
theorem Entry.insertInto_of_notMem (h : e.obfuscated ∉ xs.map Entry.obfuscated) :
    e.insertInto xs = xs ++ [e] := by
  induction xs with
  | nil => rfl
  | cons x xs ih =>
    rw [List.map_cons, List.mem_cons, not_or] at h
    rw [Entry.insertInto, if_neg (Ne.symm h.1), ih h.2]
    rfl

/-- An obfuscated path that is there gets its new restored path where it is. -/
theorem Entry.insertInto_of_getElem? (h : (xs.map Entry.obfuscated).Nodup)
    (hi : (xs.map Entry.obfuscated)[i]? = some e.obfuscated) :
    e.insertInto xs = xs.modify i fun x => { x with restored := e.restored } := by
  induction xs generalizing i with
  | nil => cases hi
  | cons x xs ih =>
    rw [List.map_cons, List.nodup_cons] at h
    cases i with
    | zero =>
      have hx : x.obfuscated = e.obfuscated := Option.some.inj hi
      rw [Entry.insertInto, if_pos hx, List.modify_zero_cons, hx]
    | succ i =>
      -- The entry at the front is for another path, since the path is also that of a later one.
      have hne : x.obfuscated ≠ e.obfuscated := by
        intro hx
        exact h.1 (hx ▸ List.mem_iff_getElem?.2 ⟨i, hi⟩)
      rw [Entry.insertInto, if_neg hne, List.modify_succ_cons, ih h.2 hi]

namespace Table

/-! ## Agreement -/

/-- Index and entries of a table **agree**: the index has a position for a path exactly if the
entry at that position is for the path. -/
def IsConsistent (t : Table) : Prop :=
  ∀ path i, t.index.lookup path = some i ↔ (t.entries.map Entry.obfuscated)[i]? = some path

/-- The empty table is consistent. -/
theorem isConsistent_empty : empty.IsConsistent := by
  intro path i
  simp [empty]

/-- **No two entries are for the same path**, as the index has one position for it. -/
theorem IsConsistent.nodup (h : t.IsConsistent) : (t.entries.map Entry.obfuscated).Nodup := by
  rw [List.nodup_iff_getElem?_ne_getElem?]
  intro i j hij hj hsame
  have hlast := List.getElem?_eq_getElem hj
  have hi := (h _ i).2 (hsame.trans hlast)
  have hj := (h _ j).2 hlast
  exact Nat.ne_of_lt hij (Option.some.inj (hi.symm.trans hj))

/-- The index has no position exactly for the paths that no entry is for. -/
theorem IsConsistent.lookup_eq_none_iff (h : t.IsConsistent) :
    t.index.lookup path = none ↔ path ∉ t.entries.map Entry.obfuscated := by
  rw [Option.eq_none_iff_forall_ne_some, List.mem_iff_getElem?, not_exists]
  exact forall_congr' fun i => not_congr (h path i)

/-! ## Insertions -/

/-- An entry for a path that the index knows changes the entry there, and nothing else. -/
theorem insert_of_lookup (h : t.index.lookup e.obfuscated = some i) :
    t.insert e =
      { t with entries := t.entries.modify i fun x => { x with restored := e.restored } } := by
  rw [insert, h]

/-- An entry for a path that the index does not know comes behind all others. -/
theorem insert_of_lookup_eq_none (h : t.index.lookup e.obfuscated = none) :
    t.insert e =
      { t with
        entries := t.entries ++ [e]
        index := (e.obfuscated, t.entries.length) :: t.index } := by
  rw [insert, h]

@[simp] theorem counts_insert (t : Table) (e : Entry) : (t.insert e).counts = t.counts := by
  cases h : t.index.lookup e.obfuscated with
  | none => rw [insert_of_lookup_eq_none h]
  | some i => rw [insert_of_lookup h]

/-- **An insertion through the index** is one into the list of entries. -/
theorem IsConsistent.entries_insert (h : t.IsConsistent) (e : Entry) :
    (t.insert e).entries = e.insertInto t.entries := by
  cases hi : t.index.lookup e.obfuscated with
  | none => rw [insert_of_lookup_eq_none hi, Entry.insertInto_of_notMem (h.lookup_eq_none_iff.1 hi)]
  | some i => rw [insert_of_lookup hi, Entry.insertInto_of_getElem? h.nodup ((h _ _).1 hi)]

/-- **An insertion keeps index and entries in agreement.** -/
theorem IsConsistent.insert (h : t.IsConsistent) (e : Entry) : (t.insert e).IsConsistent := by
  intro path i
  rw [h.entries_insert, Entry.map_obfuscated_insertInto]
  cases hi : t.index.lookup e.obfuscated with
  | some j =>
    -- The paths of the entries stay, and so does the index.
    have hmem : e.obfuscated ∈ t.entries.map Entry.obfuscated :=
      List.mem_iff_getElem?.2 ⟨j, (h _ _).1 hi⟩
    rw [if_pos hmem, insert_of_lookup hi]
    exact h path i
  | none =>
    have hnew := h.lookup_eq_none_iff.1 hi
    rw [if_neg hnew, insert_of_lookup_eq_none hi, List.lookup_cons, List.getElem?_append,
      List.length_map]
    by_cases hpath : path = e.obfuscated
    · -- The new path is at the new position, and at no other.
      subst hpath
      rw [beq_self_eq_true]
      split_ifs with hlt
      · refine iff_of_false (fun hlen => ?_) fun hmem => hnew (List.mem_iff_getElem?.2 ⟨i, hmem⟩)
        exact Nat.ne_of_lt hlt (Option.some.inj hlen).symm
      · rw [List.getElem?_singleton, Option.some.injEq]
        split_ifs <;> simp <;> omega
    · -- Another path is where it was, and not at the new position.
      rw [beq_eq_false_iff_ne.2 hpath]
      split_ifs with hlt
      · exact h path i
      · refine iff_of_false (fun hmem => ?_) fun hlast => ?_
        · have hi := (List.getElem?_eq_some_iff.1 ((h path i).1 hmem)).1
          rw [List.length_map] at hi
          exact hlt hi
        · exact hpath (List.mem_singleton.1 (List.mem_iff_getElem?.2 ⟨_, hlast⟩))

/-! ## Looking up -/

/-- **Looking up through the index** is searching the list of entries. -/
theorem IsConsistent.get?_eq_find? (h : t.IsConsistent) (path : ClassPath) :
    t.get? path = (t.entries.find? (·.obfuscated == path)).map Entry.restored := by
  cases hi : t.index.lookup path with
  | none =>
    have hnone : t.entries.find? (·.obfuscated == path) = none := by
      rw [List.find?_eq_none]
      intro x hx hpath
      exact h.lookup_eq_none_iff.1 hi (List.mem_map.2 ⟨x, hx, by simpa using hpath⟩)
    rw [get?, hi, hnone]
    rfl
  | some i =>
    have hat := (h path i).1 hi
    rw [List.getElem?_map, Option.map_eq_some_iff] at hat
    obtain ⟨x, hx, hpath⟩ := hat
    have hfind : t.entries.find? (·.obfuscated == path) = some x :=
      (Entry.find?_eq_some_iff h.nodup).2 ⟨List.mem_of_getElem? hx, hpath⟩
    rw [get?, hi, hfind, Option.bind_some, hx]

end Table

/-! ## Records one after another -/

/-- The counts of a list of records, each kind on its own. -/
def LineCounts.ofRecords (records : List Record) : LineCounts where
  classes := records.countP fun | .classes _ _ => true | _ => false
  members := records.countP fun | .member _ => true | _ => false
  comments := records.countP fun | .comment => true | _ => false

/-- Every record is counted once. -/
theorem LineCounts.sum_ofRecords (records : List Record) :
    (ofRecords records).classes + (ofRecords records).members + (ofRecords records).comments
      = records.length := by
  induction records with
  | nil => rfl
  | cons r rs ih =>
    simp only [ofRecords] at ih ⊢
    cases r <;> simp <;> omega

/-- The counts of two lists of records are added. -/
theorem LineCounts.ofRecords_append (rs rs' : List Record) :
    ofRecords (rs ++ rs') =
      ⟨(ofRecords rs).classes + (ofRecords rs').classes,
        (ofRecords rs).members + (ofRecords rs').members,
        (ofRecords rs).comments + (ofRecords rs').comments⟩ := by
  simp only [ofRecords, List.countP_append]

/-- One more record behind the others is counted as its kind. -/
theorem LineCounts.ofRecords_concat (rs : List Record) (r : Record) :
    ofRecords (rs ++ [r]) = (ofRecords rs).add r := by
  rw [ofRecords_append]
  cases r <;> rfl

namespace Table

/-- One record more is added to the table of those before it. -/
theorem ofRecords_concat (order : CaptureOrder) (rs : List Record) (r : Record) :
    ofRecords order (rs ++ [r]) = (ofRecords order rs).add order r := by
  rw [ofRecords, List.foldl_concat]
  rfl

@[simp] theorem counts_add (t : Table) (order : CaptureOrder) (r : Record) :
    (t.add order r).counts = t.counts.add r := by
  rw [add]
  split <;> simp

/-- A record keeps index and entries in agreement. -/
theorem IsConsistent.add (h : t.IsConsistent) (order : CaptureOrder) (r : Record) :
    (t.add order r).IsConsistent := by
  have hcounted : { t with counts := t.counts.add r }.IsConsistent := h
  rw [Table.add]
  split
  · exact hcounted.insert _
  · exact hcounted

/-- What a record does to the entries: that of a class line is put in. -/
theorem IsConsistent.entries_add (h : t.IsConsistent) (order : CaptureOrder) (r : Record) :
    (t.add order r).entries =
      (Entry.ofRecord? order r).toList.foldl (fun xs e => e.insertInto xs) t.entries := by
  have hcounted : { t with counts := t.counts.add r }.IsConsistent := h
  rw [Table.add]
  split
  · next e he => rw [he, hcounted.entries_insert]; rfl
  · next he => rw [he]; rfl

/-- **Index and entries agree** in every table that is built record by record. -/
theorem isConsistent_ofRecords (order : CaptureOrder) (records : List Record) :
    (ofRecords order records).IsConsistent := by
  induction records using List.reverseRecOn with
  | nil => exact isConsistent_empty
  | append_singleton rs r ih =>
    rw [ofRecords_concat]
    exact ih.add order r

/-- The entries of a table are those of its class lines, inserted one after another. -/
theorem entries_ofRecords (order : CaptureOrder) (records : List Record) :
    (ofRecords order records).entries =
      (records.filterMap (Entry.ofRecord? order)).foldl (fun xs e => e.insertInto xs) [] := by
  induction records using List.reverseRecOn with
  | nil => rfl
  | append_singleton rs r ih =>
    rw [ofRecords_concat, (isConsistent_ofRecords order rs).entries_add, ih, List.filterMap_append,
      List.foldl_append]
    cases hr : Entry.ofRecord? order r <;> simp [hr]

/-- **The counts** of a table are those of the records, each kind on its own. -/
theorem counts_ofRecords (order : CaptureOrder) (records : List Record) :
    (ofRecords order records).counts = LineCounts.ofRecords records := by
  induction records using List.reverseRecOn with
  | nil => rfl
  | append_singleton rs r ih =>
    rw [ofRecords_concat, counts_add, ih, LineCounts.ofRecords_concat]

end Table

end SourceRecovery
