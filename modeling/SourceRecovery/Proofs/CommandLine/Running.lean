import SourceRecovery.Proofs.CommandLine.Printing
import SourceRecovery.Proofs.Configuration.Saving
import SourceRecovery.Proofs.Dependency.Injection

/-! # What a command comes to

A command does what its parts do, and fails where one of them fails. A restoration fails only if
its configuration cannot be loaded, and an injection only if no text is read from the build file; a
command that fails leaves the tree as it was.

* **`run_of_isBase`**, **`run_of_not_isBase`** — a restoration with a configuration to start from,
  and without one.
* **`runDetect_cases`**, **`runDetect_accounts`** — the ways in which a detection ends, and what it
  comes to.
* **`run_accepted`** — what every command line that is accepted comes to. -/

namespace SourceRecovery

namespace CommandLine

variable {t : FileTree} {filter : LogFilter} {project : Path} {text : Text}

/-! ## Configurations -/

/-- The configuration that a command starts from: the one in the file that is named, or the one in
which nothing has been chosen. -/
def IsBase (t : FileTree) (config? : Option Path) (base : Configuration) : Prop :=
  match config? with
  | none => base = .default
  | some p => t.loadConfiguration p = .ok base

/-- A run has a base exactly if it is the configuration that was given, or the default without one.
-/
theorem loadBase_eq_ok_iff {config? : Option Path} {base : Configuration} :
    loadBase t config? = .ok base ↔ IsBase t config? base := by
  cases config? with
  | none => exact Except.ok.injEq .default base ▸ eq_comm
  | some p =>
    rw [loadBase, IsBase]
    cases t.loadConfiguration p <;> simp

/-- A configuration is missing only if a file is named that cannot be loaded. -/
theorem loadBase_eq_error_iff {config? : Option Path} :
    (∃ e, loadBase t config? = .error e) ↔
      ∃ p, config? = some p ∧ ∀ c, t.loadConfiguration p ≠ .ok c := by
  cases config? with
  | none => simp [loadBase]
  | some p =>
    simp only [loadBase, Option.some.injEq, exists_eq_left']
    cases t.loadConfiguration p <;> simp

/-- There is a configuration to start from unless a file is named that cannot be loaded. -/
theorem exists_isBase {config? : Option Path}
    (h : ¬ ∃ p, config? = some p ∧ ∀ c, t.loadConfiguration p ≠ .ok c) :
    ∃ base, IsBase t config? base := by
  cases config? with
  | none => exact ⟨_, rfl⟩
  | some p => simpa [IsBase] using h

/-! ## Restorations -/

section

variable {i : Invocation} {mapping? sourceDirectory? config? : Option Path} {conventional : Bool}

/-- **With a configuration to start from**, a restoration is carried out. -/
theorem run_of_isBase {base : Configuration}
    (hcommand : i.command = .deobfuscate project mapping? sourceDirectory? config? conventional)
    (hbase : IsBase t config? base) (workingDirectory? : Option Path) :
    i.run t workingDirectory? filter = runDeobfuscate t workingDirectory? filter i.json project
      (chooseConfiguration base mapping? sourceDirectory? conventional) := by
  rw [Invocation.run, hcommand]
  simp only [loadBase_eq_ok_iff.2 hbase]

/-- What is printed of a restoration are the lines of its summary. -/
theorem out_runDeobfuscate (t : FileTree) (workingDirectory? : Option Path) (filter : LogFilter)
    (json : Bool) (project : Path) (c : Configuration) :
    (runDeobfuscate t workingDirectory? filter json project c).out =
      let summary := (c.restore t workingDirectory? project).summary
      unlines (if json then objectLines summary else summaryLines summary) := by
  cases json with
  | true => exact renderValue_summaryValue _
  | false => exact summaryText_eq _

/-- **Without one**, nothing is done. -/
theorem run_of_not_isBase (filter : LogFilter)
    (hcommand : i.command = .deobfuscate project mapping? sourceDirectory? config? conventional)
    (hnone : ∃ p, config? = some p ∧ ∀ c, t.loadConfiguration p ≠ .ok c)
    (workingDirectory? : Option Path) :
    (i.run t workingDirectory? filter).exitCode = 1 ∧
      (i.run t workingDirectory? filter).tree = t ∧
      (i.run t workingDirectory? filter).out = [] := by
  obtain ⟨e, he⟩ := loadBase_eq_error_iff.2 hnone
  rw [Invocation.run, hcommand]
  simp [he]

end

/-! ## Detections -/

/-- The rules that a detection in a project finds. -/
def rulesOf (t : FileTree) (project : Path) : List Rule :=
  (t.detect (project.join "app/src/main/java".toList)).detected

/-- The path of a build file ends in its name. -/
theorem exists_segments_buildFile (project : Path) :
    ∃ segments s, (buildFile project).segments = segments ++ [s] ∧ FileTree.IsName s := by
  obtain ⟨segments, hp⟩ := Path.exists_segments_join (project.join "app".toList)
    "build.gradle".toList
  exact ⟨segments, _, hp, by decide, by decide⟩

/-- Detecting without injecting succeeds and leaves the tree as it is. -/
theorem runDetect_of_no_inject (t : FileTree) (filter : LogFilter) (json : Bool) (project : Path) :
    (runDetect t filter json project false).exitCode = 0 ∧
      (runDetect t filter json project false).tree = t :=
  ⟨rfl, rfl⟩

/-- Where nothing is detected, the build file is not even read. -/
theorem runDetect_of_nothing (filter : LogFilter) (json : Bool) (h : rulesOf t project = [])
    (inject : Bool) :
    (runDetect t filter json project inject).exitCode = 0 ∧
      (runDetect t filter json project inject).tree = t := by
  cases inject with
  | false => exact runDetect_of_no_inject t filter json project
  | true =>
    have hnone : (t.detect (Configuration.default.sourceRoot project)).detected = [] := h
    simp only [runDetect, hnone, FileTree.inject_nil]
    exact ⟨rfl, rfl⟩

/-- **What is detected is injected** into a build file that is read. -/
theorem runDetect_of_reads (filter : LogFilter) (json : Bool) (hrules : rulesOf t project ≠ [])
    (h : t.Reads (buildFile project) text) :
    ∃ l, t.resolve (buildFile project) = .ok l ∧
      (t.node? l = some (.file (Utf8.encode text)) ∨ t.node? l = some .nullDevice) ∧
      (runDetect t filter json project true).exitCode = 0 ∧
      (runDetect t filter json project true).tree =
        t.withEdited l (Injection.editText (rulesOf t project) text) := by
  obtain ⟨segments, s, hp, hs⟩ := exists_segments_buildFile project
  obtain ⟨l, hres, hnode, hinject⟩ := FileTree.inject_of_reads hp hs h hrules
  have hrun : t.inject (buildFile project)
      (t.detect (Configuration.default.sourceRoot project)).detected = _ := hinject
  refine ⟨l, hres, hnode, ?_⟩
  simp only [runDetect, hrun]
  exact ⟨rfl, rfl⟩

/-- **An injection that fails** changes nothing. -/
theorem runDetect_of_not_reads (filter : LogFilter) (json : Bool) (hrules : rulesOf t project ≠ [])
    (h : ∀ text, ¬ t.Reads (buildFile project) text) :
    (runDetect t filter json project true).exitCode = 1 ∧
      (runDetect t filter json project true).tree = t := by
  obtain ⟨cause, hinject⟩ := FileTree.inject_of_not_reads h hrules
  have hrun : t.inject (buildFile project)
      (t.detect (Configuration.default.sourceRoot project)).detected = _ := hinject
  simp only [runDetect, hrun]
  exact ⟨rfl, rfl⟩

/-- **The ways in which a detection ends**: there is nothing to inject, the build file is edited, or
it is not read. -/
theorem runDetect_cases (t : FileTree) (filter : LogFilter) (json : Bool) (project : Path)
    (inject : Bool) :
    let o := runDetect t filter json project inject
    (inject = false ∨ rulesOf t project = []) ∧ o.exitCode = 0 ∧ o.tree = t ∨
    (inject = true ∧ rulesOf t project ≠ []) ∧
      ((∃ text l, t.Reads (buildFile project) text ∧ t.resolve (buildFile project) = .ok l ∧
          (t.node? l = some (.file (Utf8.encode text)) ∨ t.node? l = some .nullDevice) ∧
          o.exitCode = 0 ∧
          o.tree = t.withEdited l (Injection.editText (rulesOf t project) text)) ∨
        (∀ text, ¬ t.Reads (buildFile project) text) ∧ o.exitCode = 1 ∧ o.tree = t) := by
  intro o
  by_cases hrules : rulesOf t project = []
  · exact .inl ⟨.inr hrules, runDetect_of_nothing filter json hrules inject⟩
  cases inject with
  | false => exact .inl ⟨.inl rfl, runDetect_of_no_inject t filter json project⟩
  | true =>
    refine .inr ⟨⟨rfl, hrules⟩, ?_⟩
    by_cases hreads : ∃ text, t.Reads (buildFile project) text
    · obtain ⟨text, hreads⟩ := hreads
      obtain ⟨l, h⟩ := runDetect_of_reads filter json hrules hreads
      exact .inl ⟨text, l, hreads, h⟩
    · have hnone := not_exists.1 hreads
      exact .inr ⟨hnone, runDetect_of_not_reads filter json hrules hnone⟩

/-- **What a detection comes to**: it fails exactly if it is to inject and no text is read from the
build file, and nothing but the build file differs. -/
theorem runDetect_accounts (t : FileTree) (filter : LogFilter) (json : Bool) (project : Path)
    (inject : Bool) :
    let o := runDetect t filter json project inject
    (o.exitCode = 1 ↔
        inject = true ∧ rulesOf t project ≠ [] ∧ ∀ text, ¬ t.Reads (buildFile project) text) ∧
      (o.exitCode = 1 ∨ inject = false ∨ rulesOf t project = [] → o.tree = t) ∧
      (o.exitCode ≠ 1 → o.exitCode = 0) ∧
      ∀ l, o.tree.node? l ≠ t.node? l →
        t.resolve (buildFile project) = .ok l ∧ ∃ b, t.node? l = some (.file b) := by
  have hcases := runDetect_cases t filter json project inject
  generalize runDetect t filter json project inject = o at hcases ⊢
  rcases hcases with ⟨hidle, hexit, htree⟩ | ⟨⟨hinject, hrules⟩,
    ⟨text, l, hreads, hres, hnode, hexit, htree⟩ | ⟨hnone, hexit, htree⟩⟩
  · refine ⟨iff_of_false (by simp [hexit]) ?_, fun _ => htree, fun _ => hexit, by simp [htree]⟩
    rintro ⟨hinject, hrules, -⟩
    rcases hidle with hidle | hidle
    · rw [hidle] at hinject
      cases hinject
    · exact hrules hidle
  · refine ⟨iff_of_false (by simp [hexit]) fun h => h.2.2 text hreads, ?_, fun _ => hexit, ?_⟩
    · -- The tree is promised to be as it was only in the other two cases.
      simp [hexit, hinject, hrules]
    · intro k hk
      rw [htree] at hk
      obtain ⟨rfl, hfile⟩ := FileTree.node?_withEdited hnode hk
      exact ⟨hres, _, hfile⟩
  · exact ⟨iff_of_true hexit ⟨hinject, hrules, hnone⟩, fun _ => htree,
      fun hne => absurd hexit hne, by simp [htree]⟩

/-! ## Command lines -/

/-- **What an accepted command line comes to**, for every tree, working directory and logging spec.

A restoration exits with 1 exactly if a configuration file is named that cannot be loaded. Then the
tree is as it was and nothing is printed to standard output. Otherwise it exits with 0, and the tree
and the totals printed, as an object or in words, are those of the restoration of the project under
the configuration in which each field is what the command line says, or else what the file says, or
else its default.

A detection exits with 1 exactly if it is to inject, some rule is detected, and no text is read from
the build file. Then, and also if it is not to inject or no rule is detected, the tree is as it was.
Otherwise it exits with 0, and nothing but the build file differs. -/
theorem run_accepted {args : List Text} {i : Invocation} (h : parse args = .ok i) (t : FileTree)
    (workingDirectory? : Option Path) (logSpec? : Option Text) :
    let o := run t workingDirectory? logSpec? args
    (∀ project mapping? sourceDirectory? config? conventional,
      i.command = .deobfuscate project mapping? sourceDirectory? config? conventional →
        (o.exitCode = 1 ↔ ∃ p, config? = some p ∧ ∀ c, t.loadConfiguration p ≠ .ok c) ∧
        (o.exitCode = 1 → o.tree = t ∧ o.out = []) ∧
        (o.exitCode ≠ 1 → o.exitCode = 0 ∧ ∃ base, IsBase t config? base ∧
          let c : Configuration :=
            { mappingFile := mapping?.getD base.mappingFile
              sourceDirectory := sourceDirectory?.getD base.sourceDirectory
              captureOrder := if conventional then .restoredFirst else base.captureOrder }
          let result := c.restore t workingDirectory? project
          o.tree = result.tree ∧
            o.out = unlines (if i.json then objectLines result.summary
              else summaryLines result.summary))) ∧
    (∀ project inject, i.command = .detect project inject →
        let gradle := (project.join "app".toList).join "build.gradle".toList
        (o.exitCode = 1 ↔
          inject = true ∧ rulesOf t project ≠ [] ∧ ∀ text, ¬ t.Reads gradle text) ∧
        (o.exitCode = 1 ∨ inject = false ∨ rulesOf t project = [] → o.tree = t) ∧
        (o.exitCode ≠ 1 → o.exitCode = 0) ∧
        ∀ l, o.tree.node? l ≠ t.node? l →
          t.resolve gradle = .ok l ∧ ∃ b, t.node? l = some (.file b)) := by
  intro o
  have ho : o = i.run t workingDirectory? (i.filter logSpec?) := by
    show run t workingDirectory? logSpec? args = _
    rw [run, h]
  constructor
  · intro project mapping? sourceDirectory? config? conventional hcommand
    by_cases hnone : ∃ p, config? = some p ∧ ∀ c, t.loadConfiguration p ≠ .ok c
    · obtain ⟨hexit, htree, hout⟩ :=
        run_of_not_isBase (i.filter logSpec?) hcommand hnone workingDirectory?
      rw [← ho] at hexit htree hout
      exact ⟨iff_of_true hexit hnone, fun _ => ⟨htree, hout⟩, fun hne => absurd hexit hne⟩
    · obtain ⟨base, hbase⟩ := exists_isBase hnone
      rw [run_of_isBase hcommand hbase] at ho
      have hexit : o.exitCode = 0 := by
        rw [ho]
        rfl
      refine ⟨iff_of_false (by simp [hexit]) hnone, fun h1 => by simp [hexit] at h1,
        fun _ => ⟨hexit, base, hbase, ?_⟩⟩
      rw [ho]
      refine ⟨rfl, ?_⟩
      rw [out_runDeobfuscate]
      rfl
  · intro project inject hcommand gradle
    rw [ho, Invocation.run, hcommand]
    exact runDetect_accounts t (i.filter logSpec?) i.json project inject

/-- A project `P` whose source uses a library, without a build file, beside a configuration and a
mapping file. -/
def libraryProject : FileTree where
  entries := [(["c.json".toList], .file (Utf8.encode
      { Configuration.default with captureOrder := .restoredFirst }.write)),
    (["map".toList], .file (Utf8.encode "b.B -> A:\n    int x -> y".toList)),
    (["P".toList], .directory), (["P".toList, "app".toList], .directory),
    (["P".toList, "app".toList, "src".toList], .directory),
    (["P".toList, "app".toList, "src".toList, "main".toList], .directory),
    (["P".toList, "app".toList, "src".toList, "main".toList, "java".toList], .directory),
    (["P".toList, "app".toList, "src".toList, "main".toList, "java".toList, "A.java".toList],
      .file (Utf8.encode "import retrofit2.Retrofit;".toList))]
  workingDirectory := []

/-- The configuration of the library project is the default one with the other capture order. -/
theorem loadConfiguration_libraryProject :
    libraryProject.loadConfiguration "c.json".toList =
      .ok { Configuration.default with captureOrder := .restoredFirst } := by
  have hread : libraryProject.read "c.json".toList = .ok (Utf8.encode
      { Configuration.default with captureOrder := .restoredFirst }.write) := rfl
  simp only [FileTree.loadConfiguration, hread, Configuration.read_write]

/-- The library cannot be injected, and a configuration that is missing cannot be loaded. The order
of the configuration that is there is used with the mapping file of the command line: one class is
restored, which is printed in words and as an object. -/
theorem run_accepted_libraryProject :
    let runAll := run libraryProject (some "/".toList) none
    let detection := runAll ["detect-deps".toList, "P".toList]
    let missing := runAll ["deobfuscate".toList, "--config".toList, "d.json".toList, "P".toList]
    let chosen := runAll ["deobfuscate".toList, "-mmap".toList, "--config=c.json".toList,
      "P".toList]
    let chosen' := runAll ["--json".toList, "deobfuscate".toList, "-mmap".toList,
      "--config=c.json".toList, "P".toList]
    let c : Configuration := ⟨"map".toList, "app/src/main/java".toList, .restoredFirst⟩
    detection.exitCode = 1 ∧ detection.tree = libraryProject ∧
      missing.exitCode = 1 ∧ missing.tree = libraryProject ∧ missing.out = [] ∧
      chosen.exitCode = 0 ∧
      chosen.tree = (c.restore libraryProject (some "/".toList) "P".toList).tree ∧
      chosen.out = ("1 class lines, 1 member lines ignored\n" ++
        "1 renamed, 0 skipped, 0 failed\n").toList ∧
      chosen'.out = ("\x7b\n  \"status\": \"completed\",\n  \"rewritten\": 1,\n" ++
        "  \"skipped\": 0,\n  \"failed\": 0,\n  \"mapping\": \x7b\n    \"class_count\": 1,\n" ++
        "    \"member_count\": 1,\n    \"comment_count\": 0\n  \x7d\n\x7d\n").toList := by
  intro runAll detection missing chosen chosen' c
  have hparse : parse ["detect-deps".toList, "P".toList] =
      .ok ⟨false, false, .detect "P".toList true⟩ := by decide
  have hdetection := (run_accepted hparse libraryProject (some "/".toList) none).2 _ _ rfl
  have hunread : ∀ text, ¬ libraryProject.Reads (buildFile "P".toList) text := by
    intro text h
    have hread := FileTree.readText_eq_ok_iff.2 h
    have herror : libraryProject.readText (buildFile "P".toList) = .error .missing := by decide
    rw [herror] at hread
    cases hread
  have hexit : detection.exitCode = 1 :=
    hdetection.1.2 ⟨rfl, by decide +kernel, hunread⟩
  have hparse' : parse ["deobfuscate".toList, "--config".toList, "d.json".toList, "P".toList] =
      .ok ⟨false, false, .deobfuscate "P".toList none none (some "d.json".toList) false⟩ := by
    decide
  have hmissing := (run_accepted hparse' libraryProject (some "/".toList) none).1 _ _ _ _ _ rfl
  have hunloaded : ∀ c, libraryProject.loadConfiguration "d.json".toList ≠ .ok c := by
    intro c hc
    have herror : libraryProject.loadConfiguration "d.json".toList = .error (.io .missing) := rfl
    rw [herror] at hc
    cases hc
  have hexit' : missing.exitCode = 1 := hmissing.1.2 ⟨_, rfl, hunloaded⟩
  obtain ⟨htree', hout'⟩ := hmissing.2.1 hexit'
  -- With the configuration that is there, one command line prints words and one an object.
  have hparses : ∀ json : Bool, parse ((if json then ["--json".toList] else []) ++
      ["deobfuscate".toList, "-mmap".toList, "--config=c.json".toList, "P".toList]) =
        .ok ⟨json, false, .deobfuscate "P".toList (some "map".toList) none
          (some "c.json".toList) false⟩ := by decide
  have hchosen : ∀ json : Bool,
      let o := runAll ((if json then ["--json".toList] else []) ++
        ["deobfuscate".toList, "-mmap".toList, "--config=c.json".toList, "P".toList])
      let result := c.restore libraryProject (some "/".toList) "P".toList
      o.exitCode = 0 ∧ o.tree = result.tree ∧
        o.out = unlines (if json then objectLines result.summary
          else summaryLines result.summary) := by
    intro json o result
    have haccepted := (run_accepted (hparses json) libraryProject (some "/".toList) none).1
      _ _ _ _ _ rfl
    have hexit : o.exitCode ≠ 1 := by
      intro hone
      obtain ⟨p, hp, hnone⟩ := haccepted.1.1 hone
      obtain rfl := Option.some.inj hp
      exact hnone _ loadConfiguration_libraryProject
    obtain ⟨hzero, base, hbase, h⟩ := haccepted.2.2 hexit
    obtain rfl := Except.ok.inj (loadConfiguration_libraryProject.symm.trans hbase)
    exact ⟨hzero, h⟩
  have hsummary : (c.restore libraryProject (some "/".toList) "P".toList).summary =
      ⟨.completed, ⟨1, 0, 0⟩, some ⟨1, 1, 0⟩⟩ := by decide +kernel
  obtain ⟨hzero, htree, hout⟩ := hchosen false
  obtain ⟨-, -, hobject⟩ := hchosen true
  rw [hsummary] at hout hobject
  exact ⟨hexit, hdetection.2.1 (.inl hexit), hexit', htree', hout', hzero, htree,
    hout.trans (by decide +kernel), hobject.trans (by decide +kernel)⟩

end CommandLine

end SourceRecovery
