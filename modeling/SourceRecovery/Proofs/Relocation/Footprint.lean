import SourceRecovery.Proofs.Relocation.Plan

/-! # What an entry depends on and what it touches

Applying an entry reads and changes the tree in few places. Its files lie at its four **sites**
(`Entry.sites`), all of them with a dot in the last name; the directories it makes lie at places
without one (`IsDotted`), and making them never changes what **blocks** such a place.

* **`plan_congr`** — two trees with the same nodes at the sites of an entry, and the same blocked
  places without a dot, have the same plan for it.
* **`node?_restore_of_isDotted`** — away from the sites, no dotted place changes.
* **`blocks_restore_iff`** — no place without a dot is blocked or freed.
* **`plan_restore`** — the plan of an entry survives any entry with other sites. -/

namespace SourceRecovery

/-- The **sites** of an entry: those of its obfuscated and of its restored path. -/
def Entry.sites (r : Location) (e : Entry) : List Location :=
  [e.obfuscated.site r .java, e.obfuscated.site r .kotlin,
    e.restored.site r .java, e.restored.site r .kotlin]

/-- The last name of a location has a dot. -/
def IsDotted (l : Location) : Prop := ∃ s ∈ l.getLast?, '.' ∈ s

variable {r k : Location} {e f : Entry}

/-- The places of the obfuscated class are sites of the entry. -/
theorem Entry.obfuscated_mem_sites (r : Location) (e : Entry) (kind : SourceKind) :
    e.obfuscated.site r kind ∈ e.sites r := by
  cases kind <;> simp [Entry.sites]

/-- The places of the restored class are sites of the entry. -/
theorem Entry.restored_mem_sites (r : Location) (e : Entry) (kind : SourceKind) :
    e.restored.site r kind ∈ e.sites r := by
  cases kind <;> simp [Entry.sites]

/-- An entry has four sites: one for each class and kind of source file. -/
theorem Entry.mem_sites_iff :
    k ∈ e.sites r ↔ ∃ kind, k = e.obfuscated.site r kind ∨ k = e.restored.site r kind := by
  constructor
  · intro h
    simp only [Entry.sites, List.mem_cons, List.not_mem_nil, or_false] at h
    rcases h with h | h | h | h
    · exact ⟨.java, .inl h⟩
    · exact ⟨.kotlin, .inl h⟩
    · exact ⟨.java, .inr h⟩
    · exact ⟨.kotlin, .inr h⟩
  · rintro ⟨kind, rfl | rfl⟩
    · exact Entry.obfuscated_mem_sites r e kind
    · exact Entry.restored_mem_sites r e kind

/-- The last name of a site is the name of a source file. -/
theorem isDotted_site (r : Location) (path : ClassPath) (kind : SourceKind) :
    IsDotted (path.site r kind) := by
  refine ⟨path.fileName kind, ?_, ClassPath.dot_mem_fileName path kind⟩
  rw [ClassPath.site_eq_concat, List.getLast?_concat]
  rfl

/-- A site is a dotted place, as its name has an extension. -/
theorem isDotted_of_mem_sites (h : k ∈ e.sites r) : IsDotted k := by
  obtain ⟨kind, rfl | rfl⟩ := Entry.mem_sites_iff.1 h
  · exact isDotted_site ..
  · exact isDotted_site ..

/-- Below the base of a class path without dots, no place on the way to its folder is dotted. -/
theorem not_isDotted_of_isPrefix {path : ClassPath} (hdot : '.' ∉ path)
    (hb : path.base r <+: k) (hne : k ≠ path.base r) (hk : k <+: path.base r ++ path.folders) :
    ¬ IsDotted k := by
  obtain ⟨m, rfl⟩ := hb
  have hm : m ≠ [] := by
    rintro rfl
    exact hne (List.append_nil _)
  rw [List.prefix_append_right_inj] at hk
  rintro ⟨s, hs, hdots⟩
  rw [Option.mem_def, List.getLast?_append_of_ne_nil _ hm] at hs
  have hmem : s ∈ path.folders := hk.subset (List.mem_of_mem_getLast? hs)
  exact ClassPath.dot_notMem_of_mem_folders hdot hmem hdots

namespace FileTree

variable {t u : FileTree} {root : Path} {path : ClassPath} {kind : SourceKind}

/-! ## What the plan depends on -/

/-- No directory is made at a dotted place. -/
theorem not_isDotted_of_mem_foldersFor (hdot : '.' ∉ path)
    (hk : k ∈ t.foldersFor root r path kind) : ¬ IsDotted k := by
  obtain ⟨hb, hne, hk, -⟩ := mem_passable (mem_foldersFor hk)
  exact not_isDotted_of_isPrefix hdot hb hne hk

/-- A file is found in one tree exactly if it is found in another with the same node at the
site. -/
theorem isFile_classFile_congr (ht : t.HasRoot root r) (hu : u.HasRoot root r) (hdot : '.' ∉ path)
    (h : u.node? (path.site r kind) = t.node? (path.site r kind)) :
    u.isFile (classFile root path kind) = t.isFile (classFile root path kind) := by
  rw [Bool.eq_iff_iff, hu.isFile_classFile_iff hdot, ht.isFile_classFile_iff hdot, h]

/-- Which file is found for a class depends only on the nodes at its sites. -/
theorem locate?_congr (ht : t.HasRoot root r) (hu : u.HasRoot root r) (hdot : '.' ∉ path)
    (h : ∀ kind, u.node? (path.site r kind) = t.node? (path.site r kind)) :
    u.locate? root path = t.locate? root path := by
  rw [locate?_eq, locate?_eq, isFile_classFile_congr ht hu hdot (h .java),
    isFile_classFile_congr ht hu hdot (h .kotlin)]

/-- Which folders are made for a class depends only on what blocks places that are not dotted. -/
theorem foldersFor_congr (hdot : '.' ∉ path)
    (h : ∀ k, ¬ IsDotted k → (u.Blocks k ↔ t.Blocks k)) :
    u.foldersFor root r path kind = t.foldersFor root r path kind := by
  have hpass : u.passable (path.base r) path.folders = t.passable (path.base r) path.folders :=
    passable_congr fun k hb hne hk => h k (not_isDotted_of_isPrefix hdot hb hne hk)
  rw [foldersFor, foldersFor, hpass]

/-- Whether folders can be made for a class depends only on what blocks places that are not dotted.
-/
theorem folderError?_congr (hdot : '.' ∉ path)
    (h : ∀ k, ¬ IsDotted k → (u.Blocks k ↔ t.Blocks k)) :
    u.folderError? root r path kind = t.folderError? root r path kind := by
  have hobs : u.obstacle? (path.base r) path.folders = t.obstacle? (path.base r) path.folders :=
    obstacle?_congr fun k hb hne hk => h k (not_isDotted_of_isPrefix hdot hb hne hk)
  rw [folderError?, folderError?, hobs]

/-- **What the plan for a file depends on**: the node where the file is, whether a directory is at
the target, and which places without a dot are blocked. -/
theorem planFor_congr (he : e.IsDotless)
    (hsource : u.node? (e.obfuscated.site r kind) = t.node? (e.obfuscated.site r kind))
    (htarget : u.node? (e.restored.site r kind) = some .directory ↔
      t.node? (e.restored.site r kind) = some .directory)
    (hblocks : ∀ k, ¬ IsDotted k → (u.Blocks k ↔ t.Blocks k)) :
    u.planFor root r e kind = t.planFor root r e kind := by
  have hmove : u.moveError? (classFile root e.restored kind) (e.obfuscated.site r kind)
        (e.restored.site r kind) (e.restored.fileName kind) =
      t.moveError? (classFile root e.restored kind) (e.obfuscated.site r kind)
        (e.restored.site r kind) (e.restored.fileName kind) := moveError?_congr htarget
  have hcont : u.contents (e.obfuscated.site r kind) = t.contents (e.obfuscated.site r kind) := by
    rw [contents, contents, hsource]
  simp only [planFor, foldersFor_congr he.restored hblocks, folderError?_congr he.restored hblocks,
    hmove, hcont]

/-- **What a plan depends on**: the nodes at the sites of the entry, and which places without a dot
are blocked. -/
theorem plan_congr (ht : t.HasRoot root r) (hu : u.HasRoot root r) (he : e.IsDotless)
    (hsites : ∀ k ∈ e.sites r, u.node? k = t.node? k)
    (hblocks : ∀ k, ¬ IsDotted k → (u.Blocks k ↔ t.Blocks k)) :
    u.plan root r e = t.plan root r e := by
  have hobf : ∀ kind, u.node? (e.obfuscated.site r kind) = t.node? (e.obfuscated.site r kind) :=
    fun kind => hsites _ (Entry.obfuscated_mem_sites r e kind)
  rw [plan, plan, locate?_congr ht hu he.obfuscated hobf]
  cases t.locate? root e.obfuscated with
  | none => rfl
  | some file =>
    refine planFor_congr he (hobf file.kind) ?_ hblocks
    rw [hsites _ (Entry.restored_mem_sites r e file.kind)]

/-! ## What the plan says -/

/-- A plan moves the file of the obfuscated path to the site of the restored path, and edits it. -/
theorem transfer?_plan {m : Transfer} (h : t.HasRoot root r) (he : e.IsDotless)
    (hm : (t.plan root r e).transfer? = some m) :
    ∃ kind b, t.node? (e.obfuscated.site r kind) = some (.file b) ∧
      t.isFile (classFile root e.obfuscated kind) = true ∧
      t.locate? root e.obfuscated = some ⟨classFile root e.obfuscated kind, kind⟩ ∧
      t.node? (e.restored.site r kind) ≠ some .directory ∧
      m = ⟨e.obfuscated.site r kind, e.restored.site r kind, e.editBytes b⟩ := by
  rw [plan] at hm
  cases hl : t.locate? root e.obfuscated with
  | none => rw [hl] at hm; cases hm
  | some file =>
    obtain ⟨hpath, hf⟩ := locate?_eq_some hl
    obtain ⟨-, b, hb⟩ := (h.isFile_classFile_iff he.obfuscated file.kind).1 hf
    refine ⟨file.kind, b, hb, hf, by rw [← hpath], ?_⟩
    rw [hl] at hm
    simp only [planFor] at hm
    -- Only the plan without an error moves a file.
    split at hm
    · cases hm
    · split at hm
      · cases hm
      · next hnone =>
        obtain ⟨-, -, -, hgoal⟩ := of_moveError?_eq_none hnone
        constructor
        · intro hd
          by_cases heq : e.obfuscated.site r file.kind = e.restored.site r file.kind
          · rw [heq, hd] at hb
            cases hb
          · exact (hgoal heq).2 hd
        · rw [contents, hb] at hm
          exact (Option.some.inj hm).symm

/-- A file is moved from the site of the obfuscated path to the site of the restored path. -/
theorem source_target_of_planFor {m : Transfer}
    (hm : (t.planFor root r e kind).transfer? = some m) :
    m.source = e.obfuscated.site r kind ∧ m.target = e.restored.site r kind := by
  simp only [planFor] at hm
  split at hm
  · cases hm
  · split at hm
    · cases hm
    · obtain rfl := Option.some.inj hm
      exact ⟨rfl, rfl⟩

/-- Where a plan moves a file, the folders can be made and nothing is in the way of the file. -/
theorem of_transfer?_planFor {m : Transfer} (hm : (t.planFor root r e kind).transfer? = some m) :
    t.folderError? root r e.restored kind = none ∧
      t.moveError? (classFile root e.restored kind) (e.obfuscated.site r kind)
        (e.restored.site r kind) (e.restored.fileName kind) = none := by
  simp only [planFor] at hm
  split at hm
  · cases hm
  · next hf =>
    split at hm
    · cases hm
    · next hm' => exact ⟨hf, hm'⟩

/-- A file is moved only to where its name fits. -/
theorem nameFits_of_transfer? {m : Transfer}
    (hm : (t.planFor root r e kind).transfer? = some m) : NameFits root e.restored kind :=
  nameFits_of_eq_none (of_transfer?_planFor hm).1 (of_transfer?_planFor hm).2

/-- A plan makes directories for the source file of the restored path. -/
theorem exists_mem_foldersFor (hk : k ∈ (t.plan root r e).folders) :
    ∃ kind, k ∈ t.foldersFor root r e.restored kind := by
  rw [plan] at hk
  cases hl : t.locate? root e.obfuscated with
  | none => rw [hl] at hk; simp at hk
  | some file =>
    rw [hl] at hk
    refine ⟨file.kind, ?_⟩
    simp only [planFor] at hk
    split at hk
    · exact hk
    · split at hk <;> exact hk

/-- The directories that a plan makes lie on the way from the base of the restored path to its
folder. -/
theorem base_isPrefix_of_mem_folders (hk : k ∈ (t.plan root r e).folders) :
    e.restored.base r <+: k ∧ k <+: e.restored.base r ++ e.restored.folders := by
  obtain ⟨kind, hk⟩ := exists_mem_foldersFor hk
  obtain ⟨hbase, -, hway, -⟩ := mem_passable (mem_foldersFor hk)
  exact ⟨hbase, hway⟩

/-- A plan makes no directory at a dotted place. -/
theorem not_isDotted_of_mem_folders (he : e.IsDotless) (hk : k ∈ (t.plan root r e).folders) :
    ¬ IsDotted k := by
  obtain ⟨kind, hk⟩ := exists_mem_foldersFor hk
  exact not_isDotted_of_mem_foldersFor he.restored hk

/-- Where a plan makes directories, nothing blocks. -/
theorem not_blocks_of_mem_folders (hk : k ∈ (t.plan root r e).folders) : ¬ t.Blocks k := by
  obtain ⟨kind, hk⟩ := exists_mem_foldersFor hk
  exact (mem_passable (mem_foldersFor hk)).2.2.2

/-! ## What applying an entry touches -/

/-- Applying an entry leaves the nodes that its plan says. -/
theorem node?_restore (h : t.HasRoot root r) (he : e.IsDotless) (k : Location) :
    (t.restore root e).1.node? k = (t.plan root r e).nodeAfter t k :=
  (restore_eq_plan h he).1.node? k

/-- Applying an entry has the outcome that its plan says. -/
theorem outcome_restore (h : t.HasRoot root r) (he : e.IsDotless) :
    (t.restore root e).2 = (t.plan root r e).outcome :=
  (restore_eq_plan h he).2

/-- Without a file to move, an entry changes no dotted place. -/
theorem node?_restore_of_transfer?_eq_none (h : t.HasRoot root r) (he : e.IsDotless)
    (hm : (t.plan root r e).transfer? = none) (hdot : IsDotted k) :
    (t.restore root e).1.node? k = t.node? k := by
  rw [node?_restore h he, Plan.nodeAfter, hm]
  exact if_neg fun hmem => not_isDotted_of_mem_folders he hmem hdot

/-- The file that is moved is at the target. -/
theorem node?_restore_target {m : Transfer} (h : t.HasRoot root r) (he : e.IsDotless)
    (hm : (t.plan root r e).transfer? = some m) :
    (t.restore root e).1.node? m.target = some (.file m.contents) := by
  rw [node?_restore h he, Plan.nodeAfter, hm]
  exact if_pos rfl

/-- The file that is moved is gone from the source. -/
theorem node?_restore_source {m : Transfer} (h : t.HasRoot root r) (he : e.IsDotless)
    (hm : (t.plan root r e).transfer? = some m) (hne : m.source ≠ m.target) :
    (t.restore root e).1.node? m.source = none := by
  rw [node?_restore h he, Plan.nodeAfter, hm]
  simp only [if_neg hne, if_true]

/-- Besides source and target, an entry changes no dotted place. -/
theorem node?_restore_of_ne {m : Transfer} (h : t.HasRoot root r) (he : e.IsDotless)
    (hm : (t.plan root r e).transfer? = some m) (hdot : IsDotted k) (hsource : k ≠ m.source)
    (htarget : k ≠ m.target) : (t.restore root e).1.node? k = t.node? k := by
  have hfolder : k ∉ (t.plan root r e).folders := fun hmem =>
    not_isDotted_of_mem_folders he hmem hdot
  rw [node?_restore h he, Plan.nodeAfter, hm]
  simp only [if_neg htarget, if_neg hsource, if_neg hfolder]

/-- **Away from its sites**, applying an entry makes directories and nothing else. -/
theorem node?_restore_of_notMem (h : t.HasRoot root r) (he : e.IsDotless) (hk : k ∉ e.sites r) :
    (t.restore root e).1.node? k =
      if k ∈ (t.plan root r e).folders then some .directory else t.node? k := by
  rw [node?_restore h he, Plan.nodeAfter]
  cases hm : (t.plan root r e).transfer? with
  | none => rfl
  | some m =>
    obtain ⟨kind, b, -, -, -, -, rfl⟩ := transfer?_plan h he hm
    have hsource : k ≠ e.obfuscated.site r kind := by
      rintro rfl
      exact hk (Entry.obfuscated_mem_sites r e kind)
    have htarget : k ≠ e.restored.site r kind := by
      rintro rfl
      exact hk (Entry.restored_mem_sites r e kind)
    simp only [if_neg hsource, if_neg htarget]

/-- **Away from its sites**, applying an entry changes no dotted place. -/
theorem node?_restore_of_isDotted (h : t.HasRoot root r) (he : e.IsDotless) (hk : k ∉ e.sites r)
    (hdot : IsDotted k) : (t.restore root e).1.node? k = t.node? k := by
  rw [node?_restore_of_notMem h he hk, if_neg]
  exact fun hmem => not_isDotted_of_mem_folders he hmem hdot

/-- Applying an entry neither **blocks** nor frees a place without a dot. -/
theorem blocks_restore_iff (h : t.HasRoot root r) (he : e.IsDotless) (hdot : ¬ IsDotted k) :
    (t.restore root e).1.Blocks k ↔ t.Blocks k := by
  have hk : k ∉ e.sites r := fun hk => hdot (isDotted_of_mem_sites hk)
  rw [Blocks, node?_restore_of_notMem h he hk]
  split_ifs with hmem
  · simp [not_blocks_of_mem_folders hmem]
  · exact Iff.rfl

/-- **The plan of an entry survives** any entry that has other sites. -/
theorem plan_restore (h : t.HasRoot root r) (he : e.IsDotless) (hf : f.IsDotless)
    (hapart : ∀ k ∈ e.sites r, k ∉ f.sites r) :
    (t.restore root f).1.plan root r e = t.plan root r e := by
  refine plan_congr h (h.restore hf) he (fun k hk => ?_) fun k hk => blocks_restore_iff h hf hk
  exact node?_restore_of_isDotted h hf (hapart k hk) (isDotted_of_mem_sites hk)

end FileTree

end SourceRecovery
