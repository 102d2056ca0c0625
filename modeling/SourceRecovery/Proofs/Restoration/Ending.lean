import SourceRecovery.Proofs.Mapping.Overwriting
import SourceRecovery.Proofs.Text.Utf8
import SourceRecovery.Restoration.Run

/-! # How a restoration ends

A restoration with a mapping file looks for the file, reads it, looks for class lines in it, and
only then touches a source file. So it ends in one of four ways, and which one it is can be said of
the tree and the configuration beforehand (**`Configuration.EndsWith`**), in terms of where the path
of the mapping file leads (**`FileTree.LeadsNowhere`**, **`FileTree.Reads`**):

* **`readText_eq_ok_iff`** — what is read at a path.
* **`Table.size_parse_eq_zero_iff`** — a table is empty if no line is a class line.
* **`restoreWith_of_leadsNowhere`**, **`restoreWith_of_not_reads`**,
  **`restoreWith_of_hasNoClass`**, **`restoreWith_of_reads`** — the four ways, each with all it
  leaves and reports.
* **`Configuration.restore_ends`** — all of it for a configuration. -/

namespace SourceRecovery

open Restoration

variable {text : Text} {order : CaptureOrder}

/-- A mapping file **has no class** if none of its lines is a class line. -/
def Record.HasNoClass (text : Text) : Prop :=
  ∀ line ∈ Text.lines text, ∀ left right, Record.parse? line ≠ some (.classes left right)

/-- A mapping file has no class lines exactly if it has no class. -/
theorem Record.classLines_eq_nil_iff : Record.classLines text = [] ↔ Record.HasNoClass text := by
  rw [Record.classLines, Record.parseAll, List.filterMap_filterMap, List.filterMap_eq_nil_iff]
  refine forall₂_congr fun line _ => ?_
  cases h : Record.parse? line with
  | none => simp
  | some record => cases record <;> simp [Record.classPaths?]

/-- **A table is empty** exactly if its mapping file has no class. -/
theorem Table.size_parse_eq_zero_iff :
    (Table.parse order text).size = 0 ↔ Record.HasNoClass text := by
  rw [← Record.classLines_eq_nil_iff, Table.size, List.length_eq_zero_iff,
    Table.entries_parse_eq_foldl]
  constructor
  · intro hnone
    by_contra hne
    obtain ⟨line, hline⟩ := List.exists_mem_of_ne_nil _ hne
    -- The obfuscated path of a class line is that of an entry.
    have hmem := List.mem_map_of_mem (f := Entry.obfuscated)
      (List.mem_map_of_mem (f := Entry.ofLine order) hline)
    rw [← List.mem_eraseDups, ← Entry.map_obfuscated_foldl_insertInto, hnone] at hmem
    cases hmem
  · intro hnone
    rw [hnone]
    rfl

namespace FileTree

variable {t : FileTree} {p root : Path}

/-- A path **leads nowhere** if it cannot be resolved, for whatever reason. -/
def LeadsNowhere (t : FileTree) (p : Path) : Prop := ∀ l, t.resolve p ≠ .ok l

/-- A text is **read** at a path that leads to a regular file with the bytes of that text, or if it
is empty, at one that leads to the null device. -/
def Reads (t : FileTree) (p : Path) (text : Text) : Prop :=
  ∃ l, t.resolve p = .ok l ∧
    (t.node? l = some (.file (Utf8.encode text)) ∨ t.node? l = some .nullDevice ∧ text = [])

/-- A tree does not contain a path exactly if it leads nowhere. -/
theorem contains_eq_false_iff : t.contains p = false ↔ t.LeadsNowhere p := by
  rw [contains, LeadsNowhere]
  cases t.resolve p with
  | error c => simp
  | ok l => simp

/-- A tree contains a path exactly if it leads somewhere. -/
theorem contains_eq_true_iff : t.contains p = true ↔ ¬ t.LeadsNowhere p := by
  rw [← contains_eq_false_iff, Bool.not_eq_false]

/-- **What is read** at a path is the text that is there. -/
theorem readText_eq_ok_iff : t.readText p = .ok text ↔ t.Reads p text := by
  rw [readText, read, Reads]
  cases hres : t.resolve p with
  | error c => simp [bind, Except.bind]
  | ok l =>
    simp only [bind, Except.bind, Except.ok.injEq, exists_eq_left']
    cases hnode : t.node? l with
    | none => simp
    | some n =>
      cases n with
      | directory => simp
      | nullDevice =>
        show Except.ok [] = Except.ok text ↔ _
        simp [eq_comm]
      | file b =>
        -- Bytes are those of at most one text, and of none if they cannot be decoded.
        simp only [Option.some.injEq, Node.file.injEq, reduceCtorEq, false_and, or_false]
        cases hb : Utf8.decode? b with
        | none =>
          constructor
          · intro hok
            cases hok
          · intro heq
            rw [heq, Utf8.decode?_encode] at hb
            cases hb
        | some text' =>
          obtain rfl := Utf8.encode_of_decode? hb
          constructor
          · intro heq
            rw [Except.ok.inj heq]
          · intro heq
            rw [heq, Utf8.decode?_encode] at hb
            rw [Option.some.inj hb]

/-- At most one text is read at a path. -/
theorem Reads.iff_eq (h : t.Reads p text) (text' : Text) : t.Reads p text' ↔ text' = text := by
  rw [← readText_eq_ok_iff, readText_eq_ok_iff.2 h, Except.ok.injEq, eq_comm]

/-- Nothing is read at a path that leads nowhere. -/
theorem LeadsNowhere.not_reads (h : t.LeadsNowhere p) (text : Text) : ¬ t.Reads p text :=
  fun ⟨l, hres, _⟩ => h l hres

/-- A path at which a text is read leads somewhere. -/
theorem Reads.not_leadsNowhere (h : t.Reads p text) : ¬ t.LeadsNowhere p :=
  fun hnowhere => hnowhere.not_reads text h

/-! ## The four ways -/

/-- **Without a mapping file**, nothing is done. -/
theorem restoreWith_of_leadsNowhere (h : t.LeadsNowhere p) :
    t.restoreWith order p root = ⟨t, ⟨.mappingNotFound, .zero, none⟩, [.mappingMissing p]⟩ := by
  rw [restoreWith, contains_eq_false_iff.2 h]
  rfl

/-- **With a mapping file that is no text**, nothing is done. -/
theorem restoreWith_of_not_reads (h : ¬ t.LeadsNowhere p) (hnone : ∀ text, ¬ t.Reads p text) :
    ∃ cause, t.readText p = .error cause ∧
      t.restoreWith order p root = ⟨t, ⟨.mappingUnreadable, .zero, none⟩,
        [.mappingFound p root, .mappingUnreadable p cause]⟩ := by
  have hcontains : t.contains p = true := contains_eq_true_iff.2 h
  cases hread : t.readText p with
  | ok text => exact absurd (readText_eq_ok_iff.1 hread) (hnone text)
  | error cause =>
    refine ⟨cause, rfl, ?_⟩
    rw [restoreWith, hcontains, hread]
    rfl

/-- With a mapping file that is read, the class lines decide. -/
theorem restoreWith_eq (h : t.Reads p text) :
    t.restoreWith order p root =
      if (Table.parse order text).size = 0 then
        ⟨t, ⟨.noMappingFound, .zero, some (Table.parse order text).counts⟩,
          [.mappingFound p root, .mappingRead (Table.parse order text).counts, .mappingEmpty p]⟩
      else
        { t.restoreTable root (Table.parse order text) with
          events := [.mappingFound p root, .mappingRead (Table.parse order text).counts] ++
            (t.restoreTable root (Table.parse order text)).events } := by
  have hcontains : t.contains p = true := contains_eq_true_iff.2 h.not_leadsNowhere
  rw [restoreWith, hcontains, readText_eq_ok_iff.2 h]
  rfl

/-- **With a mapping file that has no class**, nothing is done. -/
theorem restoreWith_of_hasNoClass (h : t.Reads p text) (hnone : Record.HasNoClass text) :
    t.restoreWith order p root =
      ⟨t, ⟨.noMappingFound, .zero, some (Table.parse order text).counts⟩,
        [.mappingFound p root, .mappingRead (Table.parse order text).counts, .mappingEmpty p]⟩ := by
  rw [restoreWith_eq h, if_pos (Table.size_parse_eq_zero_iff.2 hnone)]

/-- **With a mapping file that has a class**, its table is applied. -/
theorem restoreWith_of_reads (h : t.Reads p text) (hsome : ¬ Record.HasNoClass text) :
    t.restoreWith order p root =
      { t.restoreTable root (Table.parse order text) with
        events := [.mappingFound p root, .mappingRead (Table.parse order text).counts] ++
          (t.restoreTable root (Table.parse order text)).events } := by
  rw [restoreWith_eq h, if_neg (by rwa [Table.size_parse_eq_zero_iff])]

end FileTree

namespace Configuration

variable {c : Configuration} {t : FileTree} {d project : Path} {status : Status}

/-- **When a restoration ends with a status**, for a working directory that may be unknown. -/
def EndsWith (c : Configuration) (t : FileTree) (workingDirectory? : Option Path) :
    Status → Prop
  | .mappingUnreadable =>
    workingDirectory? = none ∨ ∃ d, workingDirectory? = some d ∧
      ¬ t.LeadsNowhere (d.join c.mappingFile) ∧ ∀ text, ¬ t.Reads (d.join c.mappingFile) text
  | .mappingNotFound =>
    ∃ d, workingDirectory? = some d ∧ t.LeadsNowhere (d.join c.mappingFile)
  | .noMappingFound =>
    ∃ d, workingDirectory? = some d ∧
      ∃ text, t.Reads (d.join c.mappingFile) text ∧ Record.HasNoClass text
  | .completed =>
    ∃ d, workingDirectory? = some d ∧
      ∃ text, t.Reads (d.join c.mappingFile) text ∧ ¬ Record.HasNoClass text

/-- Without a working directory the mapping file is unreadable. -/
theorem endsWith_none_iff : c.EndsWith t none status ↔ status = .mappingUnreadable := by
  cases status <;> simp [EndsWith]

/-- A path that leads nowhere has no mapping file. -/
theorem endsWith_iff_of_leadsNowhere (h : t.LeadsNowhere (c.mappingPath d)) :
    c.EndsWith t (some d) status ↔ status = .mappingNotFound := by
  have hnone := h.not_reads
  simp only [mappingPath] at h hnone
  cases status <;> simp [EndsWith, h, hnone]

/-- A path that leads to no text has an unreadable mapping file. -/
theorem endsWith_iff_of_not_reads (h : ¬ t.LeadsNowhere (c.mappingPath d))
    (hnone : ∀ text, ¬ t.Reads (c.mappingPath d) text) :
    c.EndsWith t (some d) status ↔ status = .mappingUnreadable := by
  simp only [mappingPath] at h hnone
  cases status <;> simp [EndsWith, h, hnone]

/-- A mapping file without a class has no mapping. -/
theorem endsWith_iff_of_hasNoClass (h : t.Reads (c.mappingPath d) text)
    (hnone : Record.HasNoClass text) :
    c.EndsWith t (some d) status ↔ status = .noMappingFound := by
  have hthere := h.not_leadsNowhere
  have honly := h.iff_eq
  simp only [mappingPath] at hthere honly
  cases status <;> simp [EndsWith, hthere, honly, hnone]

/-- With a mapping file that has a class the run is completed. -/
theorem endsWith_iff_of_reads (h : t.Reads (c.mappingPath d) text)
    (hsome : ¬ Record.HasNoClass text) :
    c.EndsWith t (some d) status ↔ status = .completed := by
  have hthere := h.not_leadsNowhere
  have honly := h.iff_eq
  simp only [mappingPath] at hthere honly
  cases status <;> simp [EndsWith, hthere, honly, hsome]

/-- **A restoration ends with the status it has to end with.** -/
theorem status_restore_iff (c : Configuration) (t : FileTree) (workingDirectory? : Option Path)
    (project : Path) (status : Status) :
    (c.restore t workingDirectory? project).summary.status = status ↔
      c.EndsWith t workingDirectory? status := by
  rw [eq_comm]
  cases workingDirectory? with
  | none => exact endsWith_none_iff.symm
  | some d =>
    rw [restore]
    by_cases hnowhere : t.LeadsNowhere (c.mappingPath d)
    · rw [FileTree.restoreWith_of_leadsNowhere hnowhere, endsWith_iff_of_leadsNowhere hnowhere]
    by_cases hread : ∃ text, t.Reads (c.mappingPath d) text
    · obtain ⟨text, hread⟩ := hread
      by_cases hnone : Record.HasNoClass text
      · rw [FileTree.restoreWith_of_hasNoClass hread hnone, endsWith_iff_of_hasNoClass hread hnone]
      · rw [FileTree.restoreWith_of_reads hread hnone, endsWith_iff_of_reads hread hnone]
        rfl
    · have hread := not_exists.1 hread
      obtain ⟨cause, -, heq⟩ := FileTree.restoreWith_of_not_reads hnowhere hread
      rw [heq, endsWith_iff_of_not_reads hnowhere hread]

/-- **How a restoration ends**, for every tree, working directory, configuration and project. Its
status is the one it has to end with. Unless it is completed, the tree is as it was and nothing is
counted. The line counts of the mapping file are there exactly if it was read. What stands in the
log is settled by where the path of the mapping file leads. A completed restoration is that of the
table that the mapping file has in the configured order, below the configured source root. -/
theorem restore_ends (c : Configuration) (t : FileTree) (workingDirectory? : Option Path)
    (project : Path) :
    let result := c.restore t workingDirectory? project
    let log := result.events.map Event.line
    let root := project.join c.sourceDirectory
    (∀ status, result.summary.status = status ↔ c.EndsWith t workingDirectory? status) ∧
      (result.summary.status ≠ .completed →
        result.tree = t ∧ result.summary.tally = ⟨0, 0, 0⟩) ∧
      (result.summary.counts?.isSome ↔
        ∃ d text, workingDirectory? = some d ∧ t.Reads (d.join c.mappingFile) text) ∧
      (workingDirectory? = none →
        log = [⟨.warn, (Event.workingDirectoryUnknown .missing).text⟩]) ∧
      ∀ d, workingDirectory? = some d →
        let p := d.join c.mappingFile
        (t.LeadsNowhere p → log = [⟨.info, (Event.mappingMissing p).text⟩]) ∧
          (¬ t.LeadsNowhere p → (∀ text, ¬ t.Reads p text) →
            ∃ cause, t.readText p = .error cause ∧
              log = [⟨.info, (Event.mappingFound p root).text⟩,
                ⟨.warn, (Event.mappingUnreadable p cause).text⟩]) ∧
          ∀ text, t.Reads p text →
            let table := Table.parse c.captureOrder text
            result.summary.counts? = some table.counts ∧
              (Record.HasNoClass text →
                log = [⟨.info, (Event.mappingFound p root).text⟩,
                  ⟨.info, (Event.mappingRead table.counts).text⟩,
                  ⟨.info, (Event.mappingEmpty p).text⟩]) ∧
              (¬ Record.HasNoClass text →
                result.tree = (t.restoreTable root table).tree ∧
                  result.summary = (t.restoreTable root table).summary ∧
                  log = [⟨.info, (Event.mappingFound p root).text⟩,
                    ⟨.info, (Event.mappingRead table.counts).text⟩] ++
                    (t.restoreTable root table).events.map Event.line) := by
  intro result log root
  refine ⟨fun status => status_restore_iff c t workingDirectory? project status, ?_⟩
  cases workingDirectory? with
  | none =>
    refine ⟨fun _ => ⟨rfl, rfl⟩, ?_, fun _ => rfl, nofun⟩
    simp [result, restore, FileTree.endEarly]
  | some d =>
    have hresult : result = t.restoreWith c.captureOrder (d.join c.mappingFile) root := rfl
    simp only [Option.some.injEq, exists_and_left, exists_eq_left', reduceCtorEq, false_implies,
      true_and, forall_eq']
    by_cases hnowhere : t.LeadsNowhere (d.join c.mappingFile)
    · -- There is no mapping file.
      have hnone := hnowhere.not_reads
      rw [FileTree.restoreWith_of_leadsNowhere hnowhere] at hresult
      simp [log, hresult, hnowhere, hnone, Tally.zero, Event.line, Event.level]
    by_cases hread : ∃ text, t.Reads (d.join c.mappingFile) text
    · obtain ⟨text, hread⟩ := hread
      have honly := hread.iff_eq
      by_cases hclass : Record.HasNoClass text
      · -- It has no class.
        rw [FileTree.restoreWith_of_hasNoClass hread hclass] at hresult
        simp [log, hresult, hnowhere, honly, hclass, Tally.zero, Event.line, Event.level]
      · -- It has a class.
        rw [FileTree.restoreWith_of_reads hread hclass] at hresult
        have hcompleted : (t.restoreTable root (Table.parse c.captureOrder text)).summary.status =
          .completed := rfl
        have hcounts : (t.restoreTable root (Table.parse c.captureOrder text)).summary.counts? =
          some (Table.parse c.captureOrder text).counts := rfl
        simp [log, hresult, hnowhere, honly, hclass, hcompleted, hcounts, Event.line, Event.level]
    · -- It is no text.
      have hnone := not_exists.1 hread
      obtain ⟨cause, hcause, heq⟩ := FileTree.restoreWith_of_not_reads hnowhere hnone
      rw [heq] at hresult
      simp [log, hresult, hnowhere, hnone, hcause, Tally.zero, Event.line, Event.level]

/-- A working directory `w` with a mapping file and a project `p` with a source file. -/
def mappedProject : FileTree where
  entries := [(["w".toList], .directory),
    (["w".toList, "mapping.txt".toList], .file (Utf8.encode "# header\na.A -> b.B:".toList)),
    (["p".toList], .directory), (["p".toList, "src".toList], .directory),
    (["p".toList, "src".toList, "a".toList], .directory),
    (["p".toList, "src".toList, "a".toList, "A.java".toList],
      .file (Utf8.encode "class A {}".toList))]
  workingDirectory := []

/-- A project with a mapping file is restored. From the project itself, where there is no mapping
file, and with a directory in its place, the same project is left as it is. -/
theorem restore_ends_mappedProject :
    let c : Configuration := ⟨"mapping.txt".toList, "src".toList, .obfuscatedFirst⟩
    let table := Table.parse .obfuscatedFirst "# header\na.A -> b.B:".toList
    let here := c.restore mappedProject (some "/w".toList) "p".toList
    let missing := c.restore mappedProject (some "/p".toList) "p".toList
    let noText := { c with mappingFile := "/p/src".toList }.restore mappedProject
      (some "/w".toList) "p".toList
    here.summary.status = .completed ∧
      here.tree = (mappedProject.restoreTable "p/src".toList table).tree ∧
      here.tree.isFile "p/src/b/B.java".toList = true ∧
      missing.summary.status = .mappingNotFound ∧ missing.tree = mappedProject ∧
      noText.summary.status = .mappingUnreadable ∧ noText.tree = mappedProject := by
  intro c table here missing noText
  have hreads : mappedProject.Reads (Path.join "/w".toList c.mappingFile)
      "# header\na.A -> b.B:".toList := FileTree.readText_eq_ok_iff.1 (by decide)
  have hclass : ¬ Record.HasNoClass "# header\na.A -> b.B:".toList := by
    rw [← Record.classLines_eq_nil_iff]
    decide
  obtain ⟨hstatus, -, -, -, hhere⟩ :=
    restore_ends c mappedProject (some "/w".toList) "p".toList
  obtain ⟨htree, -, -⟩ := ((hhere _ rfl).2.2 _ hreads).2.2 hclass
  obtain ⟨hstatus', hleft, -⟩ := restore_ends c mappedProject (some "/p".toList) "p".toList
  have hmissing : missing.summary.status = .mappingNotFound :=
    (hstatus' _).2 ⟨_, rfl, FileTree.contains_eq_false_iff.1 (by decide)⟩
  obtain ⟨-, hleft', -⟩ := restore_ends { c with mappingFile := "/p/src".toList } mappedProject
    (some "/w".toList) "p".toList
  have hnoText : noText.summary.status = .mappingUnreadable := by decide
  exact ⟨(hstatus _).2 ⟨_, rfl, _, hreads, hclass⟩, htree, by decide +kernel,
    hmissing, (hleft (by rw [hmissing]; decide)).1, hnoText, (hleft' (by rw [hnoText]; decide)).1⟩

/-- **A mapping file that is no regular file can be read**: the null device is there and reads as an
empty text, which has no class. -/
theorem not_unreadable_of_nullDevice :
    ¬ ∀ (c : Configuration) (t : FileTree) (d project : Path),
      t.contains (d.join c.mappingFile) = true → t.isFile (d.join c.mappingFile) = false →
        (c.restore t (some d) project).summary.status = .mappingUnreadable := by
  intro h
  have hread := h { default with mappingFile := "/dev/null".toList }
    ⟨[(["dev".toList], .directory), (["dev".toList, "null".toList], .nullDevice)], []⟩
    "/".toList "p".toList (by decide) (by decide)
  revert hread
  decide

end Configuration

end SourceRecovery
