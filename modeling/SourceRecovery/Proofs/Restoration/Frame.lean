import SourceRecovery.Proofs.Relocation.Effect
import SourceRecovery.Proofs.Relocation.Replacement
import SourceRecovery.Proofs.Restoration.Sequence

/-! # The frame of a run

A run of entries, whatever becomes of each of them and whatever its source root is, leaves a tree in
its **frame** (`FileTree.Framed`): what lies away from the places of the entries is kept, no
directory goes, every new file has been **brought** by one of the entries (`FileTree.Brings`), and
every new directory is on the way to a restored path.

* **`framed_restore`** — one entry keeps to its frame.
* **`Framed.cons`** — the frame of an entry and that of the others make the frame of all.
* **`framed_restoreEach`**, **`framed_restoreTable`** — a whole run. -/

namespace SourceRecovery

namespace FileTree

variable {t u v : FileTree} {root : Path} {e : Entry} {es : List Entry} {k : Location}

/-- The **places of an entry**: those of the source files of its two paths. -/
def placesOf (t : FileTree) (root : Path) (e : Entry) : List Location :=
  SourceKind.all.flatMap fun kind =>
    [t.placeOf (classFile root e.obfuscated kind), t.placeOf (classFile root e.restored kind)]

/-- An entry has four places: one for each class and kind of source file. -/
theorem mem_placesOf :
    k ∈ t.placesOf root e ↔ ∃ kind, k = t.placeOf (classFile root e.obfuscated kind) ∨
      k = t.placeOf (classFile root e.restored kind) := by
  rw [placesOf, List.mem_flatMap]
  constructor
  · rintro ⟨kind, -, hk⟩
    exact ⟨kind, by simpa using hk⟩
  · rintro ⟨kind, hk⟩
    exact ⟨kind, by cases kind <;> decide, by simpa using hk⟩

/-- One of the entries **brings** a file to a place: when its turn comes, a source file of its
obfuscated path is found, the place is that of the source file of the same kind of its restored
path, and a file is there when the entry has been applied. -/
def Brings (t : FileTree) (root : Path) (es : List Entry) (k : Location) : Prop :=
  ∃ before e after file, es = before ++ e :: after ∧
    (t.restoreEach root before).1.locate? root e.obfuscated = some file ∧
    file.path = classFile root e.obfuscated file.kind ∧
    k = t.placeOf (classFile root e.restored file.kind) ∧
    (t.restoreEach root (before ++ [e])).1.holdsFile k = true

/-- The tree `u` is in the **frame** of a run of entries on the tree `t`. -/
structure Framed (t : FileTree) (root : Path) (es : List Entry) (u : FileTree) : Prop where
  /-- What is away from the places of the entries is kept, with its contents. -/
  kept : ∀ k n, t.node? k = some n → (∀ e ∈ es, k ∉ t.placesOf root e) → u.node? k = some n
  /-- Every directory is still there. -/
  directory : ∀ k, t.node? k = some .directory → u.node? k = some .directory
  /-- Every new file has been brought by an entry. -/
  newFile : ∀ k, t.holdsFile k = false → u.holdsFile k = true → t.Brings root es k
  /-- Every new directory is on the way to the source file of a restored path. -/
  newDirectory : ∀ k, t.node? k ≠ some .directory → u.node? k = some .directory →
    ∃ e ∈ es, ∃ kind, k ∈ t.wayTo (classFile root e.restored kind)

/-- A run without entries leaves everything as it is. -/
theorem Framed.refl (t : FileTree) (root : Path) : t.Framed root [] t where
  kept _ _ hn _ := hn
  directory _ hk := hk
  newFile k hold hnew := by
    rw [hold] at hnew
    cases hnew
  newDirectory k hold hnew := absurd hnew hold

/-- A file that is new after one entry has been brought by it. -/
theorem brings_of_restores (h : t.Restores root e (t.restore root e).1 (t.restore root e).2)
    (hold : t.holdsFile k = false) (hnew : (t.restore root e).1.holdsFile k = true) :
    t.Brings root [e] k := by
  obtain ⟨b, hb⟩ := holdsFile_iff.1 hnew
  rcases h.node?_cases k with hsame | ⟨-, hdir, -⟩ | ⟨-, file, hfile, ⟨-, hgone⟩ | ⟨htarget, -⟩⟩
  · rw [holdsFile_iff.2 ⟨b, hsame.symm.trans hb⟩] at hold
    cases hold
  · rw [hb] at hdir
    cases hdir
  · rw [hb] at hgone
    cases hgone
  · exact ⟨[], e, [], file, rfl, hfile, (locate?_eq_some hfile).1, htarget, hnew⟩

/-- **One entry** keeps to its frame. -/
theorem framed_restore (ht : t.IsClosed) (root : Path) (e : Entry) :
    t.Framed root [e] (t.restore root e).1 := by
  have h := restores_restore ht root e
  refine ⟨fun k n hn haway => ?_, fun k => h.directory, fun k => brings_of_restores h,
    fun k hold hnew => ?_⟩
  · have haway' := haway e (by simp)
    rcases h.node?_cases k with hsame | ⟨hnone, -⟩ | ⟨-, file, hfile, ⟨rfl, -⟩ | ⟨rfl, -⟩⟩
    · rw [hsame, hn]
    · rw [hnone] at hn
      cases hn
    · refine absurd (mem_placesOf.2 ⟨file.kind, .inl ?_⟩) haway'
      rw [(locate?_eq_some hfile).1]
    · exact absurd (mem_placesOf.2 ⟨file.kind, .inr rfl⟩) haway'
  · rcases h.node?_cases k with hsame | ⟨-, -, hway⟩ | ⟨-, file, -, ⟨-, hgone⟩ | ⟨-, b, hb⟩⟩
    · exact absurd (hsame.symm.trans hnew) hold
    · exact ⟨e, by simp, hway⟩
    · rw [hgone] at hnew
      cases hnew
    · rw [hb] at hnew
      cases hnew

/-- What the entries behind the first one bring, all of them bring. -/
theorem Brings.cons (hw : (t.restore root e).1.workingDirectory = t.workingDirectory)
    (h : (t.restore root e).1.Brings root es k) : t.Brings root (e :: es) k := by
  obtain ⟨before, f, after, file, rfl, hfile, hpath, hk, hholds⟩ := h
  rw [placeOf_congr hw] at hk
  exact ⟨e :: before, f, after, file, rfl, hfile, hpath, hk, hholds⟩

/-- What the first entry brings, all of them bring. -/
theorem Brings.append (h : t.Brings root [e] k) (es : List Entry) : t.Brings root (e :: es) k := by
  obtain ⟨before, f, after, file, heq, hfile, hrest⟩ := h
  obtain ⟨rfl, rfl, rfl⟩ : before = [] ∧ f = e ∧ after = [] := by
    rw [List.singleton_eq_append_iff] at heq
    simpa using heq
  exact ⟨[], f, es, file, rfl, hfile, hrest⟩

/-- **The frame of an entry and that of the others** make the frame of all of them. -/
theorem Framed.cons (hw : (t.restore root e).1.workingDirectory = t.workingDirectory)
    (h : t.Framed root [e] (t.restore root e).1) (h' : (t.restore root e).1.Framed root es v) :
    t.Framed root (e :: es) v := by
  have hplaces : ∀ f, (t.restore root e).1.placesOf root f = t.placesOf root f := fun f => by
    simp only [placesOf, placeOf_congr hw]
  refine ⟨fun k n hn haway => ?_, fun k hk => h'.directory k (h.directory k hk),
    fun k hold hnew => ?_, fun k hold hnew => ?_⟩
  · refine h'.kept k n (h.kept k n hn fun f hf => ?_) fun f hf => ?_
    · exact haway f (List.mem_singleton.1 hf ▸ List.mem_cons_self ..)
    · rw [hplaces]
      exact haway f (List.mem_cons_of_mem _ hf)
  · -- The file is there after the first entry, or it comes later.
    cases hfirst : (t.restore root e).1.holdsFile k with
    | true => exact (h.newFile k hold hfirst).append es
    | false => exact (h'.newFile k hfirst hnew).cons hw
  · by_cases hfirst : (t.restore root e).1.node? k = some .directory
    · obtain ⟨f, hf, hway⟩ := h.newDirectory k hold hfirst
      exact ⟨f, List.mem_singleton.1 hf ▸ List.mem_cons_self .., hway⟩
    · obtain ⟨f, hf, kind, hway⟩ := h'.newDirectory k hfirst hnew
      rw [wayTo_congr hw] at hway
      exact ⟨f, List.mem_cons_of_mem _ hf, kind, hway⟩

/-- **A run** keeps to its frame. -/
theorem framed_restoreEach (ht : t.IsClosed) (root : Path) (es : List Entry) :
    t.Framed root es (t.restoreEach root es).1 := by
  induction es generalizing t with
  | nil => exact Framed.refl t root
  | cons e es ih =>
    have h := restores_restore ht root e
    rw [restoreEach_cons_fst]
    exact (framed_restore ht root e).cons h.workingDirectory (ih (h.closed ht))

/-- **Applying a table** keeps to its frame, for any source root and whatever the outcomes are. -/
theorem framed_restoreTable (ht : t.IsClosed) (root : Path) (table : Table) :
    t.Framed root table.entries (t.restoreTable root table).tree :=
  framed_restoreEach ht root table.entries

/-- Two source files and another file, and no source root. -/
def filesWithoutRoot : FileTree where
  entries := [(["out".toList], .directory),
    (["out".toList, "A.java".toList], .file (Utf8.encode "class A {}".toList)),
    (["out".toList, "C.kt".toList], .file (Utf8.encode "class C".toList)),
    (["out".toList, "notes".toList], .file (Utf8.encode "notes".toList))]
  workingDirectory := []

/-- The entries for the source files, the second with a file in the way, and one for a class without
a source file. -/
def threeClasses : Table :=
  Table.parse .obfuscatedFirst
    ".out.A -> b.B:\n.out.C -> .out.notes.X:\nno.Such -> y.Y:".toList

/-- One file is moved below a source root that has to be made, one cannot be moved, one is not
there, and the others are kept. -/
theorem framed_restoreTable_threeClasses :
    filesWithoutRoot.IsClosed ∧
      filesWithoutRoot.Framed "x/../q".toList threeClasses.entries
        (filesWithoutRoot.restoreTable "x/../q".toList threeClasses).tree ∧
      (filesWithoutRoot.restoreTable "x/../q".toList threeClasses).summary.tally = ⟨1, 1, 1⟩ ∧
      (filesWithoutRoot.restoreTable "x/../q".toList threeClasses).tree.node?
        ["q".toList, "b".toList, "B.java".toList] =
          some (.file (Utf8.encode "class B {}".toList)) :=
  ⟨by decide, framed_restoreTable (by decide) _ _, by decide +kernel, by decide +kernel⟩

end FileTree

end SourceRecovery
