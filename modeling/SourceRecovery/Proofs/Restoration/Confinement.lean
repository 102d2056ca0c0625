import SourceRecovery.Proofs.Mapping.Entries
import SourceRecovery.Proofs.Restoration.Sequence

/-! # What lies outside of the source root

A class path is read from the source root unless it starts with a slash, as that of a class name
with a dot at its front does: an **absolute** class path is read from the top and may lead anywhere
(`Entry.EscapesTo`). Nothing else leads out of the root.

* **`node?_restoreEach_outside`** — what changes outside of the root, absolute class paths change.
* **`node?_restoreTable_outside`** — without absolute class paths nothing changes there.
* **`node?_restoreTable_escaped`** — with one, a file outside of the root can be taken away. -/

namespace SourceRecovery

variable {r k : Location} {e : Entry} {es : List Entry} {path : ClassPath} {kind : SourceKind}

/-- A class path that is not absolute goes down from the source root. -/
theorem ClassPath.base_of_isAbsolute_eq_false (h : Path.isAbsolute path = false) (r : Location) :
    path.base r = r := by
  rw [base, if_neg (by simp [h])]

/-- A class path that is not absolute has its sites below the source root. -/
theorem ClassPath.isPrefix_site_of_isAbsolute_eq_false (h : Path.isAbsolute path = false)
    (r : Location) (kind : SourceKind) : r <+: path.site r kind := by
  rw [site_eq_concat, base_of_isAbsolute_eq_false h, List.append_assoc]
  exact List.prefix_append ..

/-- The places through which an entry **escapes** from the source root: the sites of an absolute
obfuscated path, and the way to those of an absolute restored path. -/
def Entry.EscapesTo (r : Location) (e : Entry) (k : Location) : Prop :=
  ∃ kind, Path.isAbsolute e.obfuscated = true ∧ k = e.obfuscated.site r kind ∨
    Path.isAbsolute e.restored = true ∧ k <+: e.restored.site r kind

/-- A site outside of the source root is one through which the entry escapes. -/
theorem Entry.escapesTo_of_mem_sites (hk : k ∈ e.sites r) (hout : ¬ r <+: k) : e.EscapesTo r k := by
  obtain ⟨kind, rfl | rfl⟩ := Entry.mem_sites_iff.1 hk
  · refine ⟨kind, .inl ⟨?_, rfl⟩⟩
    by_contra habs
    exact hout (ClassPath.isPrefix_site_of_isAbsolute_eq_false (by simpa using habs) r kind)
  · refine ⟨kind, .inr ⟨?_, List.prefix_refl _⟩⟩
    by_contra habs
    exact hout (ClassPath.isPrefix_site_of_isAbsolute_eq_false (by simpa using habs) r kind)

/-- Without absolute class paths, an entry does not escape. -/
theorem Entry.not_escapesTo (hobfuscated : Path.isAbsolute e.obfuscated = false)
    (hrestored : Path.isAbsolute e.restored = false) : ¬ e.EscapesTo r k := by
  rintro ⟨kind, ⟨habs, -⟩ | ⟨habs, -⟩⟩
  · rw [hobfuscated] at habs
    cases habs
  · rw [hrestored] at habs
    cases habs

namespace FileTree

variable {t : FileTree} {root : Path} {order : CaptureOrder} {text : Text}

/-- A directory that a plan makes outside of the source root lies on the way to an absolute
path. -/
theorem escapesTo_of_mem_folders (hk : k ∈ (t.plan root r e).folders) (hout : ¬ r <+: k) :
    e.EscapesTo r k := by
  obtain ⟨hbase, hway⟩ := base_isPrefix_of_mem_folders hk
  refine ⟨.java, .inr ⟨?_, ?_⟩⟩
  · by_contra habs
    rw [ClassPath.base_of_isAbsolute_eq_false (by simpa using habs)] at hbase
    exact hout hbase
  · rw [ClassPath.site_eq_concat]
    exact hway.trans (List.prefix_append ..)

/-- **One entry** changes something outside of the source root only where it escapes. -/
theorem node?_restore_outside (h : t.HasRoot root r) (he : e.IsDotless) (hout : ¬ r <+: k) :
    (t.restore root e).1.node? k = t.node? k ∨ e.EscapesTo r k := by
  by_cases hk : k ∈ e.sites r
  · exact .inr (Entry.escapesTo_of_mem_sites hk hout)
  · rw [node?_restore_of_notMem h he hk]
    split_ifs with hmem
    · exact .inr (escapesTo_of_mem_folders hmem hout)
    · exact .inl rfl

/-- **A run** changes something outside of the source root only where one of its entries
escapes. -/
theorem node?_restoreEach_outside (h : t.HasRoot root r) (hes : ∀ e ∈ es, e.IsDotless)
    (hout : ¬ r <+: k) :
    (t.restoreEach root es).1.node? k = t.node? k ∨ ∃ e ∈ es, e.EscapesTo r k := by
  induction es generalizing t with
  | nil => exact .inl rfl
  | cons e es ih =>
    have he := hes e (by simp)
    rw [restoreEach_cons_fst]
    rcases node?_restore_outside h he hout with hsame | hescape
    · rcases ih (h.restore he) fun f hf => hes f (by simp [hf]) with hrest | ⟨f, hf, hescape⟩
      · exact .inl (hrest.trans hsame)
      · exact .inr ⟨f, by simp [hf], hescape⟩
    · exact .inr ⟨e, by simp, hescape⟩

/-- **A mapping file does not reach outside of the source root** unless one of its class paths is
absolute: whatever is not below the root is afterwards as it was before. -/
theorem node?_restoreTable_outside (h : t.HasRoot root r)
    (hrelative : ∀ e ∈ (Table.parse order text).entries,
      Path.isAbsolute e.obfuscated = false ∧ Path.isAbsolute e.restored = false)
    (hout : r <+: k → k = r) :
    (t.restoreTable root (Table.parse order text)).tree.node? k = t.node? k := by
  have hes : ∀ e ∈ (Table.parse order text).entries, e.IsDotless :=
    fun e he => Table.isDotless_of_mem_entries he
  by_cases hk : r <+: k
  · obtain rfl := hout hk
    exact (directory_restoreEach h hes h.directory).trans h.directory.symm
  · rcases node?_restoreEach_outside h hes hk with hsame | ⟨e, he, hescape⟩
    · exact hsame
    · exact absurd hescape (Entry.not_escapesTo (hrelative e he).1 (hrelative e he).2)

/-- A source root `s` with a source file, and a source file beside it. -/
def fileBesideRoot : FileTree where
  entries := [(["s".toList], .directory), (["s".toList, "a".toList], .directory),
    (["s".toList, "a".toList, "A.java".toList], .file (Utf8.encode "class A {}".toList)),
    (["out".toList], .directory),
    (["out".toList, "A.java".toList], .file (Utf8.encode "class A {}".toList))]
  workingDirectory := []

/-- The source root of the tree is there. -/
theorem fileBesideRoot_hasRoot : fileBesideRoot.HasRoot "s".toList ["s".toList] :=
  ⟨by decide, by decide, by decide⟩

/-- Empty components of class names do not lead out of the source root: the file below it goes to a
place below it, and the one of the same name beside it stays. -/
theorem node?_restoreTable_outside_emptyComponents :
    fileBesideRoot.HasRoot "s".toList ["s".toList] ∧
      (∀ e ∈ (Table.parse .obfuscatedFirst "a..A -> out..A:".toList).entries,
        Path.isAbsolute e.obfuscated = false ∧ Path.isAbsolute e.restored = false) ∧
      (fileBesideRoot.restoreTable "s".toList
          (Table.parse .obfuscatedFirst "a..A -> out..A:".toList)).tree.node?
        ["out".toList, "A.java".toList] = some (.file (Utf8.encode "class A {}".toList)) ∧
      (fileBesideRoot.restoreTable "s".toList
          (Table.parse .obfuscatedFirst "a..A -> out..A:".toList)).tree.node?
        ["s".toList, "out".toList, "A.java".toList] =
          some (.file (Utf8.encode "class A {}".toList)) := by
  have hrelative : ∀ e ∈ (Table.parse .obfuscatedFirst "a..A -> out..A:".toList).entries,
      Path.isAbsolute e.obfuscated = false ∧ Path.isAbsolute e.restored = false := by decide
  refine ⟨fileBesideRoot_hasRoot, hrelative, ?_, by decide +kernel⟩
  rw [node?_restoreTable_outside fileBesideRoot_hasRoot hrelative (by decide)]
  rfl

/-- **A file outside of the source root can be taken away**: the name of its class begins with a
dot, so that its class path is absolute. -/
theorem node?_restoreTable_escaped :
    fileBesideRoot.HasRoot "s".toList ["s".toList] ∧
      fileBesideRoot.node? ["out".toList, "A.java".toList] =
        some (.file (Utf8.encode "class A {}".toList)) ∧
      (fileBesideRoot.restoreTable "s".toList
          (Table.parse .obfuscatedFirst ".out.A -> b.B:".toList)).tree.node?
        ["out".toList, "A.java".toList] = none :=
  ⟨fileBesideRoot_hasRoot, by decide, by decide +kernel⟩

end FileTree

end SourceRecovery
