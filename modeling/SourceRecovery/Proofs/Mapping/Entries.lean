import SourceRecovery.Proofs.Mapping.Index
import SourceRecovery.Proofs.Relocation.Plan

/-! # The entries of a mapping file

Every entry of the table of a mapping file comes from a class line of the file
(**`mem_entries_parse`**), and so neither of its class paths has a dot
(**`isDotless_of_mem_entries`**). If the obfuscated paths of all class lines differ, the table has
one entry for each of them, in the order of the lines (**`entries_parse`**). -/

namespace SourceRecovery

variable {e x : Entry} {xs es : List Entry} {order : CaptureOrder} {text left right : Text}

/-- An insertion brings in the new entry only. -/
theorem Entry.mem_insertInto (h : x ∈ e.insertInto xs) : x = e ∨ x ∈ xs := by
  induction xs with
  | nil => exact .inl (List.mem_singleton.1 h)
  | cons y ys ih =>
    rw [Entry.insertInto] at h
    split_ifs at h
    · rcases List.mem_cons.1 h with rfl | h
      · exact .inl rfl
      · exact .inr (List.mem_cons_of_mem _ h)
    · rcases List.mem_cons.1 h with rfl | h
      · exact .inr (List.mem_cons_self ..)
      · exact (ih h).imp_right (List.mem_cons_of_mem _)

/-- A series of insertions brings in the new entries only. -/
theorem Entry.mem_foldl_insertInto
    (h : x ∈ es.foldl (fun xs e => Entry.insertInto e xs) xs) : x ∈ es ∨ x ∈ xs := by
  induction es generalizing xs with
  | nil => exact .inr h
  | cons e es ih =>
    rcases ih h with h | h
    · exact .inl (List.mem_cons_of_mem _ h)
    · rcases Entry.mem_insertInto h with rfl | h
      · exact .inl (List.mem_cons_self ..)
      · exact .inr h

/-- The entry of two class names has no dots, as these become slashes. -/
theorem Entry.ofNames_isDotless (order : CaptureOrder) (left right : Text) :
    (Entry.ofNames order left right).IsDotless := by
  cases order
  · exact ⟨ClassPath.not_mem_ofName left, ClassPath.not_mem_ofName right⟩
  · exact ⟨ClassPath.not_mem_ofName right, ClassPath.not_mem_ofName left⟩

namespace Table

/-- **Every entry comes from a class line** of the mapping file. -/
theorem mem_entries_parse (h : e ∈ (Table.parse order text).entries) :
    ∃ left right, Record.classes left right ∈ Record.parseAll text ∧
      e = Entry.ofNames order left right := by
  rw [parse, entries_ofRecords] at h
  rcases Entry.mem_foldl_insertInto h with h | h
  · obtain ⟨record, hrecord, he⟩ := List.mem_filterMap.1 h
    cases record with
    | classes left right => exact ⟨left, right, hrecord, (Option.some.inj he).symm⟩
    | member line => cases he
    | comment => cases he
  · cases h

/-- **No class path of a table has a dot.** -/
theorem isDotless_of_mem_entries (h : e ∈ (Table.parse order text).entries) : e.IsDotless := by
  obtain ⟨left, right, -, rfl⟩ := mem_entries_parse h
  exact Entry.ofNames_isDotless order left right

/-- No entry occurs twice in the table of a mapping file. -/
theorem nodup_entries (order : CaptureOrder) (text : Text) : (parse order text).entries.Nodup :=
  List.Nodup.of_map _ (isConsistent_ofRecords order _).nodup

end Table

/-! ## One entry for each class line -/

/-- The class paths of a class line, in front of the arrow and behind it. -/
def Record.classPaths? : Record → Option (ClassPath × ClassPath)
  | .classes left right => some (ClassPath.ofName left, ClassPath.ofName right)
  | .member _ => none
  | .comment => none

/-- The **class lines** of a mapping file. -/
def Record.classLines (text : Text) : List (ClassPath × ClassPath) :=
  (parseAll text).filterMap classPaths?

/-- The entry of a class line. -/
def Entry.ofLine (order : CaptureOrder) (line : ClassPath × ClassPath) : Entry :=
  match order with
  | .obfuscatedFirst => ⟨line.1, line.2⟩
  | .restoredFirst => ⟨line.2, line.1⟩

/-- A record has an entry exactly if it has two class paths, and that of the two. -/
theorem Entry.ofRecord?_eq (order : CaptureOrder) (record : Record) :
    Entry.ofRecord? order record = record.classPaths?.map (Entry.ofLine order) := by
  cases record <;> cases order <;> rfl

/-- Entries with new obfuscated paths come behind all others, in their order. -/
theorem Entry.foldl_insertInto (h : ((xs ++ es).map Entry.obfuscated).Nodup) :
    es.foldl (fun xs e => Entry.insertInto e xs) xs = xs ++ es := by
  induction es generalizing xs with
  | nil => simp
  | cons e es ih =>
    have hnew : e.obfuscated ∉ xs.map Entry.obfuscated := by
      rw [List.map_append, List.map_cons, List.nodup_append] at h
      exact fun hmem => h.2.2 _ hmem _ (List.mem_cons_self ..) rfl
    have hcat : xs ++ e :: es = xs ++ [e] ++ es := by simp
    rw [List.foldl_cons, Entry.insertInto_of_notMem hnew, hcat]
    rw [hcat] at h
    exact ih h

/-- The table holds the entries of the class lines, inserted one after another. -/
theorem Table.entries_parse_eq_foldl (order : CaptureOrder) (text : Text) :
    (Table.parse order text).entries =
      ((Record.classLines text).map (Entry.ofLine order)).foldl
        (fun xs e => Entry.insertInto e xs) [] := by
  have hlines : (Record.parseAll text).filterMap (Entry.ofRecord? order) =
      (Record.classLines text).map (Entry.ofLine order) := by
    rw [Record.classLines, List.map_filterMap]
    congr 1
    funext record
    exact Entry.ofRecord?_eq order record
  rw [← hlines]
  exact Table.entries_ofRecords order _

/-- **One entry for each class line**, if their obfuscated paths differ. -/
theorem Table.entries_parse
    (h : ((Record.classLines text).map fun line => (Entry.ofLine order line).obfuscated).Nodup) :
    (Table.parse order text).entries = (Record.classLines text).map (Entry.ofLine order) := by
  rw [Table.entries_parse_eq_foldl, Entry.foldl_insertInto, List.nil_append]
  rw [List.nil_append, List.map_map]
  exact h

end SourceRecovery
