import SourceRecovery.Proofs.Relocation.InPlace
import SourceRecovery.Proofs.Restoration.Account

/-! # Classes that keep their names

A mapping table may have entries whose class path is the same on both sides, for classes that have
kept their names. An entry **keeps** its class (**`FileTree.Keeps`**) if it is such an entry and the
source file, if it is a text, states the package of the class path. Applying it goes through all
steps of a relocation and leaves the tree.

* **`restore_kept`** — what applying one such entry comes to (**`FileTree.keptOutcome`**).
* **`restoreEach_kept`** — so nothing changes in a run of such entries, and each has the outcome
  that it has on its own.
* **`restoreTable_kept`** — the same for a table, with the totals. -/

namespace SourceRecovery

open Restoration

namespace FileTree

variable {t : FileTree} {root : Path} {e : Entry} {es : List Entry} {table : Table}

/-- An entry **keeps** its class in a tree. -/
structure Keeps (t : FileTree) (root : Path) (e : Entry) : Prop where
  /-- The class path is the same on both sides. -/
  restored : e.restored = e.obfuscated
  /-- The source file of the class, if there is one and it is a text, states the package. -/
  states : ∀ file text, t.locate? root e.obfuscated = some file →
    t.readText file.path = .ok text → PackageStatement.States e.obfuscated.package text

/-- Whether the source file of a class, if there is one and it is a text, states the package. -/
def sourceStates (t : FileTree) (root : Path) (path : ClassPath) : Bool :=
  match t.locate? root path with
  | none => true
  | some file =>
    match t.readText file.path with
    | .ok text => decide (PackageStatement.States path.package text)
    | .error _ => true

/-- An entry keeps its file exactly if it names one class twice and the file states what the class
says. -/
theorem keeps_iff :
    t.Keeps root e ↔ e.restored = e.obfuscated ∧ t.sourceStates root e.obfuscated = true := by
  unfold sourceStates
  constructor
  · rintro ⟨hself, hstates⟩
    refine ⟨hself, ?_⟩
    split
    · rfl
    · next file hfile =>
      split
      · next text htext => exact decide_eq_true (hstates file text hfile htext)
      · rfl
  · rintro ⟨hself, hstates⟩
    refine ⟨hself, fun file text hfile htext => ?_⟩
    rw [hfile] at hstates
    simp only [htext] at hstates
    exact of_decide_eq_true hstates

instance (t : FileTree) (root : Path) (e : Entry) : Decidable (t.Keeps root e) :=
  decidable_of_iff _ keeps_iff.symm

/-- What applying an entry comes to that keeps its class. -/
def keptOutcome (t : FileTree) (root : Path) (e : Entry) : Outcome :=
  match t.locate? root e.obfuscated with
  | none => .skipped
  | some file =>
    match t.readText file.path with
    | .ok _ => .relocated file.path file.path
    | .error _ => .failed file.path (.io file.path .notUtf8)

/-- **An entry that keeps its class** leaves the tree. -/
theorem restore_kept (h : t.Keeps root e) : t.restore root e = (t, t.keptOutcome root e) := by
  rw [keptOutcome]
  cases hfile : t.locate? root e.obfuscated with
  | none => exact restore_of_locate?_eq_none hfile
  | some file =>
    rw [restore_of_locate?_eq_some hfile,
      relocate_self h.restored hfile fun text htext => h.states file text hfile htext]
    simp only
    cases t.readText file.path <;> rfl

/-- **A run of entries that keep their classes** leaves the tree, and each entry has the outcome
that it has on its own. -/
theorem restoreEach_kept (h : ∀ e ∈ es, t.Keeps root e) :
    t.restoreEach root es = (t, es.map (t.keptOutcome root)) := by
  induction es with
  | nil => rfl
  | cons e es ih =>
    -- The first entry leaves the tree, so the others keep their classes in what it leaves.
    rw [restoreEach, restore_kept (h e (by simp)), ih fun f hf => h f (by simp [hf])]
    rfl

/-- Before each turn of such a run, the tree is as it was. -/
theorem treeBefore_kept (h : ∀ e ∈ es, t.Keeps root e) (i : Nat) : t.treeBefore root es i = t := by
  have hfront := fst_restoreEach t root (es.take i)
  rw [restoreEach_kept fun e he => h e (List.mem_of_mem_take he), treeBefore,
    List.take_length] at hfront
  exact hfront.symm

/-! ## The totals -/

/-- Whether a class has a source file that is a text. -/
def hasText (t : FileTree) (root : Path) (path : ClassPath) : Bool :=
  (t.locate? root path).any fun file => (t.readText file.path).isOk

/-- Whether a class has a source file that is no text. -/
def hasNoText (t : FileTree) (root : Path) (path : ClassPath) : Bool :=
  (t.locate? root path).any fun file => decide (t.readText file.path = .error .notUtf8)

/-- A source file that was found can be read, though it may be no text. -/
theorem readText_of_locate? {file : SourceFile} {path : ClassPath} {c : IoError}
    (hfile : t.locate? root path = some file) (h : t.readText file.path = .error c) :
    c = .notUtf8 := by
  obtain ⟨hpath, hisFile⟩ := locate?_eq_some hfile
  obtain ⟨l, b, hres, hb⟩ := isFile_iff.1 hisFile
  rw [hpath, readText_of_read (read_of_resolve hres hb)] at h
  split at h
  · cases h
  · exact (Except.error.inj h).symm

/-- The kind of that outcome tells whether there is a source file, and whether it is a text. -/
theorem kinds_keptOutcome (t : FileTree) (root : Path) (e : Entry) :
    (t.keptOutcome root e).isRelocated = t.hasText root e.obfuscated ∧
      (t.keptOutcome root e).isSkipped = (t.locate? root e.obfuscated).isNone ∧
      (t.keptOutcome root e).isFailed = t.hasNoText root e.obfuscated := by
  unfold keptOutcome hasText hasNoText
  cases hfile : t.locate? root e.obfuscated with
  | none => exact ⟨rfl, rfl, rfl⟩
  | some file =>
    simp only [Option.any_some]
    cases htext : t.readText file.path with
    | ok text => exact ⟨rfl, rfl, (decide_eq_false nofun).symm⟩
    | error c =>
      obtain rfl := readText_of_locate? hfile htext
      exact ⟨rfl, rfl, (decide_eq_true rfl).symm⟩

/-- The tally of a run of entries that keep their classes. -/
theorem ofOutcomes_kept (t : FileTree) (root : Path) (es : List Entry) :
    Tally.ofOutcomes (es.map (t.keptOutcome root)) =
      ⟨es.countP fun e => t.hasText root e.obfuscated,
        es.countP fun e => (t.locate? root e.obfuscated).isNone,
        es.countP fun e => t.hasNoText root e.obfuscated⟩ := by
  rw [Tally.ofOutcomes_eq, List.countP_map, List.countP_map, List.countP_map, Tally.mk.injEq]
  refine ⟨List.countP_congr fun e _ => ?_, List.countP_congr fun e _ => ?_,
    List.countP_congr fun e _ => ?_⟩
  · rw [Function.comp_apply, (kinds_keptOutcome t root e).1]
  · rw [Function.comp_apply, (kinds_keptOutcome t root e).2.1]
  · rw [Function.comp_apply, (kinds_keptOutcome t root e).2.2]

/-- **Classes that keep their names are left alone.** Let every entry of a table have the same class
path on both sides, and let every source file that is found for one of them and is a text either
have no package statement, or have as its first one the statement of the class path's package, with
one space and without anything else. Then the run leaves the tree as it was, whatever the tree and
the root are. An entry whose source file is a text is relocated, from its path to its path; one
whose source file is no text fails because of that; one without a source file is skipped; and the
totals say so. -/
theorem restoreTable_kept (h : ∀ e ∈ table.entries, t.Keeps root e) :
    let result := t.restoreTable root table
    result.tree = t ∧ result.summary.status = .completed ∧
      (∀ i : Fin table.entries.length,
        t.outcomeAt root table.entries i = t.keptOutcome root (table.entries.get i)) ∧
      result.summary.tally.relocated =
        table.entries.countP (fun e => t.hasText root e.obfuscated) ∧
      result.summary.tally.failed =
        table.entries.countP (fun e => t.hasNoText root e.obfuscated) ∧
      result.summary.tally.skipped =
        table.entries.countP (fun e => (t.locate? root e.obfuscated).isNone) := by
  intro result
  have hrun := restoreEach_kept h
  have htree : result.tree = t := congrArg Prod.fst hrun
  have htally : result.summary.tally = Tally.ofOutcomes (table.entries.map (t.keptOutcome root)) :=
    congrArg (fun run : FileTree × List Outcome => Tally.ofOutcomes run.2) hrun
  rw [htally, ofOutcomes_kept]
  refine ⟨htree, rfl, fun i => ?_, rfl, rfl, rfl⟩
  have hentry : t.Keeps root (table.entries.get i) := h _ (List.get_mem ..)
  rw [outcomeAt, treeBefore_kept h]
  exact congrArg Prod.snd (restore_kept hentry)

/-- Four classes, one of them without a source file: a source file that states its package behind a
declaration of the name and declares the name again, one that is no text, and one in the default
package, without a statement. -/
def keptSources : FileTree where
  entries := [(["s".toList], .directory), (["s".toList, "a".toList], .directory),
    (["s".toList, "a".toList, "A.java".toList],
      .file (Utf8.encode "class A\npackage a; class A".toList)),
    (["s".toList, "b".toList], .directory),
    (["s".toList, "b".toList, "B.kt".toList], .file [0xff]),
    (["s".toList, "C.java".toList], .file (Utf8.encode "enum C {}".toList))]
  workingDirectory := []

/-- Two of these sources count as relocated, the one that is no text fails, the class without a
source file is skipped, and the tree is as it was. -/
theorem restoreTable_kept_keptSources :
    let table := Table.parse .obfuscatedFirst
      "a.A -> a.A:\nb.B -> b.B:\nC -> C:\nn.N -> n.N:".toList
    let result := keptSources.restoreTable "s".toList table
    (∀ e ∈ table.entries, keptSources.Keeps "s".toList e) ∧ table.size = 4 ∧
      result.tree = keptSources ∧ result.summary.tally = ⟨2, 1, 1⟩ ∧
      keptSources.outcomeAt "s".toList table.entries ⟨1, by decide⟩ =
        .failed "s/b/B.kt".toList (.io "s/b/B.kt".toList .notUtf8) := by
  intro table result
  have hkeeps : ∀ e ∈ table.entries, keptSources.Keeps "s".toList e := by decide +kernel
  obtain ⟨htree, -, houtcome, hrelocated, hfailed, hskipped⟩ := restoreTable_kept hkeeps
  refine ⟨hkeeps, by decide +kernel, htree, ?_, ?_⟩
  · have hrun : result.summary.tally =
        ⟨result.summary.tally.relocated, result.summary.tally.skipped,
          result.summary.tally.failed⟩ := rfl
    rw [hrun, hrelocated, hskipped, hfailed]
    decide +kernel
  · rw [houtcome]
    decide +kernel

end FileTree

end SourceRecovery
