import SourceRecovery.Proofs.Relocation.Effect

/-! # What an outcome says

The outcome of an entry is all that a report shows of it, and it says what has become of the tree.
An entry is **skipped** exactly if its class has no source file. One that was **relocated** or has
**failed** has a source file, and either that file was **carried** to the place of the restored path
(`FileTree.Carries`), or some directories were made and nothing else has changed.

* **`Carries.of_moves`** — moving a file after making the directories carries it.
* **`restore_cases`** — an entry with a source file gets stuck, or carries the file and is relocated
  or failed according to whether the file is text.
* **`restore_reports`** — what has become of the tree if an entry was skipped or relocated.
* **`restore_failed`** — what has become of the tree if an entry has failed. -/

namespace SourceRecovery

namespace FileTree

variable {t u v : FileTree} {root : Path} {e : Entry} {file : SourceFile} {p q : Path}
  {ps : List Text} {a : Text} {k : Location} {b : Bytes} {ks : List Location}

/-- The tree `u` is the tree `t` after the file at the path `p` has been **carried** to the path
`q`, where it holds `b`. -/
structure Carries (t : FileTree) (p q : Path) (b : Bytes) (u : FileTree) : Prop where
  /-- A regular file is at the target. -/
  isFile : u.isFile q = true
  /-- It holds the bytes. -/
  read : u.read q = .ok b
  /-- Nothing is left at the source, unless that is the same place. -/
  source : t.placeOf p ≠ t.placeOf q → u.contains p = false
  /-- Every other regular file is unchanged, and no other one is new. -/
  file : ∀ k c, k ≠ t.placeOf p → k ≠ t.placeOf q →
    (u.node? k = some (.file c) ↔ t.node? k = some (.file c))
  /-- No directory is removed. -/
  directory : ∀ k, t.node? k = some .directory → u.node? k = some .directory
  /-- Every new directory is on the way to the target. -/
  newDirectory : ∀ k, t.node? k ≠ some .directory → u.node? k = some .directory → k ∈ t.wayTo q

/-- Making directories neither makes nor changes a regular file. -/
theorem Grows.file_iff (h : t.Grows ks u) (k : Location) (c : Bytes) :
    u.node? k = some (.file c) ↔ t.node? k = some (.file c) := by
  rcases h.node? k with hsame | ⟨hnone, hdir, -⟩
  · rw [hsame]
  · simp [hnone, hdir]

/-- Nothing is at a path whose place is free. -/
theorem contains_eq_false_of_node? (h : t.node? (t.placeOf p) = none)
    (hp : p.segments = ps ++ [a]) (ha : IsName a) : t.contains p = false := by
  cases hres : t.resolve p with
  | error c => rw [contains, hres]
  | ok l =>
    -- Where a path leads something is, and it leads to its place.
    obtain ⟨-, -, -, -, -, hsome⟩ := (resolve_eq_ok_iff hp ha).1 hres
    rw [placeOf_of_resolve hres] at h
    rw [h] at hsome
    cases hsome

/-- **Moving a file after making the directories** on the way to its target carries it. -/
theorem Carries.of_moves (hgrows : t.Grows (t.wayTo q) u)
    (hmoves : u.Moves (t.placeOf p) (t.placeOf q) b v) (hp : p.segments = ps ++ [a])
    (ha : IsName a) (hres : v.resolve q = .ok (t.placeOf q)) : t.Carries p q b v where
  isFile := isFile_iff.2 ⟨_, b, hres, hmoves.node?_target⟩
  read := read_of_resolve hres hmoves.node?_target
  source := by
    intro hne
    have hplace : v.placeOf p = t.placeOf p :=
      (placeOf_congr hmoves.workingDirectory p).trans (placeOf_congr hgrows.workingDirectory p)
    refine contains_eq_false_of_node? ?_ hp ha
    rw [hplace, hmoves.node?, if_neg hne, if_pos rfl]
  file := by
    intro k c hsource htarget
    rw [hmoves.node?, if_neg htarget, if_neg hsource]
    exact hgrows.file_iff k c
  directory := fun k hk => hmoves.directory (hgrows.directory hk)
  newDirectory := by
    intro k hold hnew
    rw [hmoves.node?] at hnew
    split_ifs at hnew with htarget
    · cases hnew
    · -- The move makes no directory, so it was made on the way.
      rcases hgrows.node? k with hsame | ⟨-, -, hway⟩
      · rw [hsame] at hnew
        exact absurd hnew hold
      · exact hway

/-- **An entry with a source file** gets stuck and makes directories at most, or it carries the file
and is relocated or failed according to whether the file is text. -/
theorem restore_cases (ht : t.IsClosed) (hfile : t.locate? root e.obfuscated = some file) :
    (∃ error, (t.restore root e).2 = .failed file.path error ∧
      t.GetsStuck root file e (t.restore root e).1 error ∧
      t.Grows (t.wayTo (classFile root e.restored file.kind)) (t.restore root e).1) ∨
      ∃ b, t.read file.path = .ok b ∧
        (t.restore root e).2 =
          (if (Utf8.decode? b).isSome then
            .relocated file.path (classFile root e.restored file.kind)
          else .failed file.path (.io (classFile root e.restored file.kind) .notUtf8)) ∧
        t.Carries file.path (classFile root e.restored file.kind) (e.editBytes b)
          (t.restore root e).1 := by
  rw [restore_of_locate?_eq_some hfile, fst_outcomeOf]
  rcases relocate_cases ht hfile with
    ⟨u, error, hgrows, hstuck, heq⟩ | ⟨b, u, v, hread, -, hgrows, hmoves, hres, heq⟩
  · left
    rw [heq]
    exact ⟨error, rfl, hstuck, hgrows⟩
  · right
    obtain ⟨ps, hp⟩ := exists_segments_classFile root e.obfuscated file.kind
    obtain ⟨qs, hq⟩ := exists_segments_classFile root e.restored file.kind
    have hs := ClassPath.isName_fileName e.restored file.kind
    have hshort := isTooLong_simpleName_of_locate? hfile
    have hedited := moves_editFile hmoves hq hs hres hshort
    rw [← (locate?_eq_some hfile).1] at hp
    refine ⟨b, hread, ?_, ?_⟩
    · rw [heq]
      exact outcome_editFile file.path hmoves.node?_target hq hs hres hshort
    · rw [heq]
      exact .of_moves hgrows hedited hp (ClassPath.isName_fileName ..)
        (hedited.resolve_congr hmoves hq hs hres)

/-- An entry is skipped exactly if its class has no source file. -/
theorem restore_eq_skipped_iff (ht : t.IsClosed) :
    (t.restore root e).2 = .skipped ↔ t.locate? root e.obfuscated = none := by
  cases hfile : t.locate? root e.obfuscated with
  | none => simp [restore_of_locate?_eq_none hfile]
  | some file =>
    rcases restore_cases ht hfile with ⟨error, hout, -⟩ | ⟨b, -, hout, -⟩
    · simp [hout]
    · rw [hout]
      split_ifs <;> simp

/-- What is a regular file at the place of a source file is found, if it is Java or if there is no
Java file of the class. -/
theorem locate?_of_isFile {path : ClassPath} {kind : SourceKind}
    (h : t.isFile (classFile root path kind) = true)
    (hjava : kind = .kotlin → t.isFile (classFile root path .java) = false) :
    t.locate? root path = some ⟨classFile root path kind, kind⟩ := by
  rw [locate?_eq]
  cases kind with
  | java => rw [if_pos h]
  | kotlin => rw [if_neg (by simp [hjava rfl]), if_pos h]

/-- **A skipped and a relocated entry** have done what the outcome says. Skipped is an entry exactly
if its class has no source file, and then the tree is unchanged. A relocated entry names the source
file that was found, Java before Kotlin, and the place of the restored path. The file has been
carried there, its text edited, and is found as the source file of the restored path, unless it is
a Kotlin file beside a Java file of that path. -/
theorem restore_reports (ht : t.IsClosed) (root : Path) (e : Entry) :
    ((t.restore root e).2 = .skipped ↔
        ∀ kind, t.isFile (classFile root e.obfuscated kind) = false) ∧
      ((t.restore root e).2 = .skipped → (t.restore root e).1 = t) ∧
      ∀ source target, (t.restore root e).2 = .relocated source target →
        ∃ kind text,
          kind = (if t.isFile (classFile root e.obfuscated .java) = true then .java
            else .kotlin) ∧
          source = classFile root e.obfuscated kind ∧
          target = classFile root e.restored kind ∧
          t.readText source = .ok text ∧
          t.Carries source target
            (Utf8.encode (PackageStatement.replace e.restored.package
              (Declaration.rename e.obfuscated.simpleName e.restored.simpleName text)))
            (t.restore root e).1 ∧
          ((t.restore root e).1.locate? root e.restored = some ⟨target, kind⟩ ∨
            kind = .kotlin ∧
              (t.restore root e).1.isFile (classFile root e.restored .java) = true) := by
  refine ⟨(restore_eq_skipped_iff ht).trans locate?_eq_none_iff, ?_, ?_⟩
  · intro hskipped
    rw [restore_of_locate?_eq_none ((restore_eq_skipped_iff ht).1 hskipped)]
  · intro source target hrelocated
    cases hfile : t.locate? root e.obfuscated with
    | none =>
      rw [(restore_eq_skipped_iff ht).2 hfile] at hrelocated
      cases hrelocated
    | some file =>
      rcases restore_cases ht hfile with ⟨error, hout, -⟩ | ⟨b, hread, hout, hcarries⟩
      · rw [hout] at hrelocated
        cases hrelocated
      · rw [hout] at hrelocated
        cases hdecode : Utf8.decode? b with
        | none =>
          rw [hdecode] at hrelocated
          cases hrelocated
        | some text =>
          rw [hdecode] at hrelocated
          obtain ⟨rfl, rfl⟩ := Outcome.relocated.inj hrelocated
          rw [Entry.editBytes, hdecode] at hcarries
          refine ⟨file.kind, text, ?_, (locate?_eq_some hfile).1, rfl, ?_, hcarries, ?_⟩
          · -- The Java file is looked for first, so the file has that kind if there is one.
            rw [locate?_eq] at hfile
            split_ifs at hfile ⊢
            · rw [← Option.some.inj hfile]
            · rw [← Option.some.inj hfile]
          · rw [readText, hread]
            simp only [bind, Except.bind, hdecode]
          · by_cases hjava : file.kind = .kotlin ∧
              (t.restore root e).1.isFile (classFile root e.restored .java) = true
            · exact .inr hjava
            · left
              refine locate?_of_isFile hcarries.isFile fun hkind => ?_
              simpa [hkind] using hjava

/-- A Kotlin file, and another one in the place that the first goes to. -/
def takenTarget : FileTree where
  entries := [(["s".toList], .directory), (["s".toList, "a".toList], .directory),
    (["s".toList, "a".toList, "b.kt".toList], .file (Utf8.encode "package a;\nclass b".toList)),
    (["s".toList, "x".toList], .directory),
    (["s".toList, "x".toList, "C.kt".toList], .file (Utf8.encode "class Old".toList))]
  workingDirectory := []

/-- The file that was in the way is replaced, and the one that has come is found in its place. -/
theorem restore_reports_takenTarget :
    let e : Entry := ⟨"a//b".toList, "x/C".toList⟩
    let after := takenTarget.restore "s".toList e
    takenTarget.IsClosed ∧ after.2 = .relocated "s/a//b.kt".toList "s/x/C.kt".toList ∧
      takenTarget.Carries "s/a//b.kt".toList "s/x/C.kt".toList
        (Utf8.encode "package x;\nclass C".toList) after.1 ∧
      after.1.locate? "s".toList "x/C".toList = some ⟨"s/x/C.kt".toList, .kotlin⟩ := by
  intro e after
  have hclosed : takenTarget.IsClosed := by decide
  have hout : after.2 = .relocated "s/a//b.kt".toList "s/x/C.kt".toList := by decide +kernel
  obtain ⟨-, -, hreport⟩ := restore_reports hclosed "s".toList e
  obtain ⟨kind, text, hkind, -, -, hread, hcarries, hlocate⟩ := hreport _ _ hout
  obtain rfl : kind = .kotlin := hkind.trans (by decide)
  have htext : takenTarget.readText "s/a//b.kt".toList = .ok "package a;\nclass b".toList := by
    decide +kernel
  obtain rfl : text = "package a;\nclass b".toList := Except.ok.inj (hread.symm.trans htext)
  have hedit : e.editText "package a;\nclass b".toList = "package x;\nclass C".toList := by
    decide +kernel
  rw [← hedit]
  refine ⟨hclosed, hout, hcarries, hlocate.resolve_right fun hjava => ?_⟩
  have hfree : after.1.isFile (classFile "s".toList e.restored .java) = false := by decide +kernel
  rw [hfree] at hjava
  cases hjava.2

/-- **A failed entry** has not damaged the source file that it names. The error is one of the file
tree. Either the directories could not be made or the file could not be moved: then the error names
the last of the directories or the file, and directories on the way to the target are all that is
new. Or the file was moved and is no text: then the error names the target, where the file holds
what it held before. -/
theorem restore_failed (ht : t.IsClosed) {source : Path} {error : RelocationError}
    (h : (t.restore root e).2 = .failed source error) :
    ∃ kind named cause, t.locate? root e.obfuscated = some ⟨source, kind⟩ ∧
      error = .io named cause ∧
      ((named = (classFile root e.restored kind).parent?.getD [] ∨ named = source) ∧
          t.GetsStuck root ⟨source, kind⟩ e (t.restore root e).1 error ∧
          (∀ k b, (t.restore root e).1.node? k = some (.file b) ↔ t.node? k = some (.file b)) ∧
          t.Grows (t.wayTo (classFile root e.restored kind)) (t.restore root e).1 ∨
        named = classFile root e.restored kind ∧ cause = .notUtf8 ∧
          ∃ b, t.read source = .ok b ∧ Utf8.decode? b = none ∧
            t.Carries source (classFile root e.restored kind) b (t.restore root e).1) := by
  cases hfile : t.locate? root e.obfuscated with
  | none =>
    rw [restore_of_locate?_eq_none hfile] at h
    cases h
  | some file =>
    rcases restore_cases ht hfile with ⟨error', hout, hstuck, hgrows⟩ | ⟨b, hread, hout, hcarries⟩
    · rw [hout] at h
      obtain ⟨rfl, rfl⟩ := Outcome.failed.inj h
      -- The two ways of getting stuck differ in what the error names.
      obtain ⟨named, cause, rfl, hnamed⟩ : ∃ named cause, error' = .io named cause ∧
          (named = folderPath root e.restored file.kind ∨ named = file.path) := by
        cases hstuck with
        | folders => exact ⟨_, _, rfl, .inl rfl⟩
        | move => exact ⟨_, _, rfl, .inr rfl⟩
      exact ⟨file.kind, named, cause, rfl, rfl, .inl ⟨hnamed, hstuck, hgrows.file_iff, hgrows⟩⟩
    · rw [hout] at h
      cases hdecode : Utf8.decode? b with
      | some text =>
        rw [hdecode] at h
        cases h
      | none =>
        rw [hdecode] at h
        obtain ⟨rfl, rfl⟩ := Outcome.failed.inj h
        rw [Entry.editBytes, hdecode] at hcarries
        exact ⟨file.kind, _, _, rfl, rfl, .inr ⟨rfl, rfl, b, hread, hdecode, hcarries⟩⟩

/-- A source file, a file that is no text, and a file where a directory would be needed. -/
def blockedAndNoText : FileTree where
  entries := [(["s".toList], .directory), (["s".toList, "a".toList], .directory),
    (["s".toList, "a".toList, "A.java".toList], .file (Utf8.encode "class A {}".toList)),
    (["s".toList, "a".toList, "B.java".toList], .file [0xFF, 0xFE, 0x63]),
    (["s".toList, "blocked".toList], .file [])]
  workingDirectory := []

/-- The first file stays where it is, and the second one is carried with the bytes that it held. -/
theorem restore_failed_blockedAndNoText :
    let blocked := blockedAndNoText.restore "s".toList ⟨"a/A".toList, "blocked/X".toList⟩
    let noText := blockedAndNoText.restore "s".toList ⟨"a/B".toList, "y/Y".toList⟩
    blockedAndNoText.IsClosed ∧
      blocked.2 = .failed "s/a/A.java".toList (.io "s/blocked".toList .alreadyExists) ∧
      blockedAndNoText.Grows (blockedAndNoText.wayTo "s/blocked/X.java".toList) blocked.1 ∧
      noText.2 = .failed "s/a/B.java".toList (.io "s/y/Y.java".toList .notUtf8) ∧
      blockedAndNoText.Carries "s/a/B.java".toList "s/y/Y.java".toList [0xFF, 0xFE, 0x63]
        noText.1 := by
  intro blocked noText
  have hclosed : blockedAndNoText.IsClosed := by decide
  have hblocked : blocked.2 = .failed "s/a/A.java".toList
      (.io "s/blocked".toList .alreadyExists) := by decide +kernel
  have hnoText : noText.2 = .failed "s/a/B.java".toList
      (.io "s/y/Y.java".toList .notUtf8) := by decide +kernel
  have hA : blockedAndNoText.locate? "s".toList "a/A".toList =
      some ⟨"s/a/A.java".toList, .java⟩ := by decide +kernel
  have hB : blockedAndNoText.locate? "s".toList "a/B".toList =
      some ⟨"s/a/B.java".toList, .java⟩ := by decide +kernel
  obtain ⟨kind, _, _, hfile, herror, hcases⟩ := restore_failed hclosed hblocked
  obtain ⟨kind', _, _, hfile', herror', hcases'⟩ := restore_failed hclosed hnoText
  -- Each failure is one of the two, and which one its error tells.
  obtain rfl : SourceKind.java = kind :=
    (SourceFile.mk.inj (Option.some.inj (hA.symm.trans hfile))).2
  obtain rfl : SourceKind.java = kind' :=
    (SourceFile.mk.inj (Option.some.inj (hB.symm.trans hfile'))).2
  obtain ⟨rfl, rfl⟩ := RelocationError.io.inj herror
  obtain ⟨rfl, rfl⟩ := RelocationError.io.inj herror'
  refine ⟨hclosed, hblocked, ?_, hnoText, ?_⟩
  · rcases hcases with ⟨-, -, -, hgrows⟩ | ⟨-, hcause, -⟩
    · exact hgrows
    · cases hcause
  · rcases hcases' with ⟨hnamed, -⟩ | ⟨-, -, b, hread, -, hcarries⟩
    · exact absurd hnamed (by decide)
    · have hbytes : blockedAndNoText.read "s/a/B.java".toList = .ok [0xFF, 0xFE, 0x63] := by
        decide +kernel
      rw [Except.ok.inj (hread.symm.trans hbytes)] at hcarries
      exact hcarries

end FileTree

end SourceRecovery
