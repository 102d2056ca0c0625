import SourceRecovery.Proofs.Mapping.Overwriting

/-! # Mapping files one after another

A mapping file is read line by line, so two of them with a line feed between them are read as the
one and then the other, whatever their line endings are. A carriage return at the seam is a part of
the last line or of the line ending, and is trimmed in either case.

* **`Record.parseAll_withReturns`**, **`Record.parseAll_concat_return`** — line endings do not
  matter.
* **`Entry.find?_foldl_insertInto`** — a series of insertions hides what was there for the same
  paths.
* **`Table.parse_composes`** — the records, the entries and the counts of two mapping files in
  one. -/

namespace SourceRecovery

variable {line t : Text}

namespace Text

/-- A text is one line, or a line, a line feed and a text. -/
@[elab_as_elim]
theorem lineInduction {motive : Text → Prop} (line : ∀ t, '\n' ∉ t → motive t)
    (append : ∀ line t, '\n' ∉ line → motive t → motive (line ++ '\n' :: t)) (t : Text) :
    motive t := by
  induction hn : t.length using Nat.strong_induction_on generalizing t with
  | _ n ih =>
    by_cases hmem : '\n' ∈ t
    · -- Up to the first line feed there is a line, and the rest is shorter.
      obtain ⟨front, rest, rfl, hfront⟩ := List.eq_append_cons_of_mem hmem
      have hlt : rest.length < n := by
        rw [← hn, List.length_append, List.length_cons]
        omega
      exact append front rest hfront (ih _ hlt rest rfl)
    · exact line t hmem

/-- The text with a carriage return in front of every line feed. -/
def withReturns (t : Text) : Text := t.flatMap fun c => if c = '\n' then ['\r', '\n'] else [c]

/-- A single line has no ends to be changed. -/
theorem withReturns_of_notMem (h : '\n' ∉ t) : t.withReturns = t := by
  induction t with
  | nil => rfl
  | cons c t ih =>
    rw [List.mem_cons, not_or] at h
    rw [withReturns, List.flatMap_cons, if_neg (Ne.symm h.1), ← withReturns, ih h.2,
      List.singleton_append]

/-- The end of the first line is changed, and then those of the others. -/
theorem withReturns_append_newline (h : '\n' ∉ line) (t : Text) :
    (line ++ '\n' :: t).withReturns = line ++ ['\r'] ++ '\n' :: t.withReturns := by
  have hline := withReturns_of_notMem h
  rw [withReturns] at hline ⊢
  rw [List.flatMap_append, hline, List.flatMap_cons, if_pos rfl, ← withReturns, List.append_assoc]
  rfl

end Text

namespace Record

/-! ## Line endings -/

/-- **A carriage return at the end** of a mapping file is no part of its last record. -/
theorem parseAll_concat_return (t : Text) : parseAll (t ++ ['\r']) = parseAll t := by
  induction t using Text.lineInduction with
  | line t hline =>
    -- No line feed follows, so the carriage return is a part of the line and is trimmed.
    have hline' : '\n' ∉ t ++ ['\r'] := by simpa using hline
    rw [parseAll_of_notMem hline', parseAll_of_notMem hline, parse?_concat_return]
  | append line t _ ih =>
    rw [List.append_assoc, List.cons_append, parseAll_append, parseAll_append, ih]

/-- **Carriage returns in front of the line feeds** are no part of a record. -/
theorem parseAll_withReturns (t : Text) : parseAll t.withReturns = parseAll t := by
  induction t using Text.lineInduction with
  | line t hline => rw [Text.withReturns_of_notMem hline]
  | append line t hline ih =>
    -- The line in front of the seam is read as if the file ended there.
    rw [Text.withReturns_append_newline hline, parseAll_append, parseAll_append,
      parseAll_concat_return, ih]

/-- A line feed at the end of a mapping file is the end of its last line. -/
theorem parseAll_concat_newline (t : Text) : parseAll (t ++ ['\n']) = parseAll t := by
  rw [parseAll_append]
  exact List.append_nil _

/-- The class lines of two mapping files. -/
theorem classLines_append (s t : Text) :
    classLines (s ++ '\n' :: t) = classLines s ++ classLines t := by
  rw [classLines, parseAll_append, List.filterMap_append]
  rfl

end Record

/-! ## Insertions one after another -/

/-- An entry is searched from the front. -/
theorem Entry.find?_cons (e : Entry) (xs : List Entry) (path : ClassPath) :
    (e :: xs).find? (·.obfuscated == path) =
      if e.obfuscated = path then some e else xs.find? (·.obfuscated == path) := by
  split_ifs with h
  · exact List.find?_cons_of_pos (by simpa using h)
  · exact List.find?_cons_of_neg (by simpa using h)

/-- An insertion hides what was there for its path. -/
theorem Entry.find?_insertInto (e : Entry) (xs : List Entry) (path : ClassPath) :
    (e.insertInto xs).find? (·.obfuscated == path) =
      if e.obfuscated = path then some e else xs.find? (·.obfuscated == path) := by
  induction xs with
  | nil => exact Entry.find?_cons e [] path
  | cons x xs ih =>
    rw [Entry.insertInto]
    by_cases hx : x.obfuscated = e.obfuscated
    · -- The entry at the front is the one that is exchanged.
      rw [if_pos hx, Entry.find?_cons, Entry.find?_cons, hx]
      split_ifs <;> rfl
    · rw [if_neg hx, Entry.find?_cons, Entry.find?_cons, ih]
      by_cases hpath : e.obfuscated = path
      · rw [← hpath, if_neg hx, if_pos rfl, if_pos rfl]
      · simp only [if_neg hpath]

/-- **A series of insertions** hides what was there for its paths, and nothing else. -/
theorem Entry.find?_foldl_insertInto (es xs : List Entry) (path : ClassPath) :
    (es.foldl (fun xs e => Entry.insertInto e xs) xs).find? (·.obfuscated == path) =
      ((es.foldl (fun xs e => Entry.insertInto e xs) []).find? (·.obfuscated == path)).or
        (xs.find? (·.obfuscated == path)) := by
  -- The last insertion hides the other ones and what was there alike.
  induction es using List.reverseRecOn with
  | nil => rfl
  | append_singleton es e ih =>
    simp only [List.foldl_append, List.foldl_cons, List.foldl_nil, Entry.find?_insertInto, ih]
    split_ifs <;> rfl

namespace Table

/-- The entries of two mapping files are those of the first with those of the second inserted. -/
theorem entries_parse_append (order : CaptureOrder) (s t : Text) :
    (parse order (s ++ '\n' :: t)).entries =
      ((Record.classLines t).map (Entry.ofLine order)).foldl
        (fun xs e => Entry.insertInto e xs) (parse order s).entries := by
  rw [entries_parse_eq_foldl, entries_parse_eq_foldl, Record.classLines_append, List.map_append,
    List.foldl_append]

/-- **Mapping files one after another.** The records of two texts with a line feed between them are
those of the one and then those of the other, and neither carriage returns in front of the line
feeds nor a line ending or a carriage return behind the text make a difference to its records. So
the table is the one of the first text with the class lines of the second inserted one after
another. It has the restored path that the second text has for an obfuscated one, and the one of the
first text where the second has none, and its counts are the sums. -/
theorem parse_composes (order : CaptureOrder) (s t : Text) :
    let first := parse order s
    let second := parse order t
    let whole := parse order (s ++ '\n' :: t)
    Record.parseAll (s ++ '\n' :: t) = Record.parseAll s ++ Record.parseAll t ∧
      Record.parseAll s.withReturns = Record.parseAll s ∧
      Record.parseAll (s ++ ['\n']) = Record.parseAll s ∧
      Record.parseAll (s ++ ['\r']) = Record.parseAll s ∧
      Record.parseAll (s ++ ['\r', '\n']) = Record.parseAll s ∧
      whole.entries = ((Record.classLines t).map (Entry.ofLine order)).foldl
        (fun xs e => Entry.insertInto e xs) first.entries ∧
      (∀ path, whole.get? path = (second.get? path).or (first.get? path)) ∧
      whole.counts =
        ⟨first.counts.classes + second.counts.classes,
          first.counts.members + second.counts.members,
          first.counts.comments + second.counts.comments⟩ := by
  intro first second whole
  have hentries : whole.entries = _ := entries_parse_append order s t
  refine ⟨Record.parseAll_append s t, Record.parseAll_withReturns s,
    Record.parseAll_concat_newline s, Record.parseAll_concat_return s, ?_, hentries,
    fun path => ?_, ?_⟩
  · have hsplit : s ++ ['\r', '\n'] = s ++ ['\r'] ++ ['\n'] := by simp
    rw [hsplit, Record.parseAll_concat_newline, Record.parseAll_concat_return]
  · -- The entries of the second text are the same insertions, into nothing.
    have hsecond : second.entries = _ := entries_parse_eq_foldl order t
    have hsearch : ∀ text, (parse order text).get? path =
        ((parse order text).entries.find? (·.obfuscated == path)).map Entry.restored :=
      fun text => (isConsistent_ofRecords order _).get?_eq_find? path
    rw [hsearch, hsearch, hsearch, hentries, Entry.find?_foldl_insertInto, ← hsecond,
      Option.map_or]
  · have hcounts (text : Text) :
        (parse order text).counts = LineCounts.ofRecords (Record.parseAll text) :=
      counts_ofRecords order _
    rw [hcounts, hcounts, hcounts, Record.parseAll_append, LineCounts.ofRecords_append]

/-- A path that both files have gets its place from the first one and its value from the second. -/
example : (parse .obfuscatedFirst "a.A -> b.B:\r\nc -> d:\r\na/A -> x.X:".toList).entries =
    [⟨"a/A".toList, "x/X".toList⟩, ⟨['c'], ['d']⟩] := by decide

end Table

end SourceRecovery
