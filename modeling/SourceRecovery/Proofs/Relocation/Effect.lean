import SourceRecovery.Proofs.FileTree.Place
import SourceRecovery.Proofs.Relocation.Plan
import SourceRecovery.Proofs.Text.Utf8

/-! # What applying an entry can come to

The plan of an entry is made for a source root that is there and for class paths without dots. For
any source root and any class paths, applying an entry still comes to one of three things
(`FileTree.Restores`): nothing happens, or some directories are made and then it gets **stuck**, or
some directories are made and the file is **moved** to the place of the restored path, where it is
edited if it is text. All places are those of the paths of the source files, wherever these lead.

* **`moves_of_rename`** — a rename that succeeds moves the file.
* **`moves_editFile`** — editing the file that has been moved.
* **`relocate_cases`** — relocating a file gets stuck (`FileTree.GetsStuck`), or moves the file and
  then edits it.
* **`restores_restore`** — applying an entry does one of the three.
* **`readText_restore_of_relocated`** — what a file that was relocated holds. -/

namespace SourceRecovery

namespace FileTree

variable {t u v m : FileTree} {root : Path} {e : Entry} {file : SourceFile} {p q : Path}
  {ps qs : List Text} {a s : Text} {source target k : Location} {b : Bytes}

/-! ## Moving and editing a file -/

/-- **What is known once a file has been moved**: the name of the target fits into a directory, and
no directory is in the way. -/
theorem of_rename_eq_ok (hp : p.segments = ps ++ [a]) (ha : IsName a)
    (hq : q.segments = qs ++ [s]) (hs : IsName s) (hres : t.resolve p = .ok source)
    (hb : t.node? source = some (.file b)) (h : t.rename p q = .ok u) :
    q.check = .ok () ∧ Path.nameIsTooLong s = false ∧
      ∃ m, t.enter (t.startOf q) qs = .ok m ∧
        (source ≠ m ++ [s] → ¬ source <+: m ++ [s] ∧ t.node? (m ++ [s]) ≠ some .directory) ∧
        u = t.relocated source (m ++ [s]) := by
  obtain ⟨hcp, -, m', he', rfl, -⟩ := (resolve_eq_ok_iff hp ha).1 hres
  have hsource : t.resolveLast p = .ok (m', some a) := by
    rw [resolveLast_eq hcp hp ha, he']
    rfl
  have hslash : (p.hasTrailingSlash || q.hasTrailingSlash) = false := by
    rw [Path.hasTrailingSlash_eq_false hp ha.ne_nil, Path.hasTrailingSlash_eq_false hq hs.ne_nil]
    rfl
  rw [rename, hsource, hslash] at h
  by_cases hnul : '\x00' ∈ p ++ q
  · rw [if_pos hnul] at h
    cases h
  rw [if_neg hnul] at h
  cases hc : q.check with
  | error c =>
    rw [resolveLast_of_check hc] at h
    cases h
  | ok _ =>
    rw [resolveLast_eq hc hq hs] at h
    cases he : t.enter (t.startOf q) qs with
    | error c => rw [he] at h; cases h
    | ok m =>
      rw [he] at h
      simp only [bind, Except.bind, renameAt_file hb] at h
      refine ⟨rfl, ?_⟩
      -- The move is refused for one reason after another, and is none if the places are the same.
      split_ifs at h with hdevice hlong hnone hlong' heq hbelow habove hdir
      · obtain rfl := Except.ok.inj h
        refine ⟨by simpa using hlong', m, rfl, fun hne => absurd heq hne, ?_⟩
        rw [relocated, if_pos heq]
      · obtain rfl := Except.ok.inj h
        refine ⟨by simpa using hlong', m, rfl, fun _ => ⟨by simpa using hbelow, hdir⟩, ?_⟩
        rw [relocated, if_neg heq]

/-- The tree `u` is the tree `t` after a file has **moved** from `source` to `target`, where it
holds `b`. -/
structure Moves (t : FileTree) (source target : Location) (b : Bytes) (u : FileTree) : Prop where
  /-- What the tree holds. -/
  node? : ∀ k, u.node? k =
    if k = target then some (.file b) else if k = source then none else t.node? k
  /-- No directory is at the source. -/
  source_ne : t.node? source ≠ some .directory
  /-- No directory was at the target. -/
  target_ne : t.node? target ≠ some .directory
  /-- The tree is closed. -/
  closed : u.IsClosed
  /-- The working directory is the same. -/
  workingDirectory : u.workingDirectory = t.workingDirectory

/-- No directory goes when a file is moved. -/
theorem Moves.directory (h : t.Moves source target b u) (hk : t.node? k = some .directory) :
    u.node? k = some .directory := by
  have hsource : k ≠ source := by
    rintro rfl
    exact h.source_ne hk
  have htarget : k ≠ target := by
    rintro rfl
    exact h.target_ne hk
  rw [h.node?, if_neg htarget, if_neg hsource, hk]

/-- Relocating a file moves it. -/
theorem moves_relocated {l : Location} (ht : t.IsClosed) (hb : t.node? source = some (.file b))
    (hgoal : source ≠ l ++ [s] →
      ¬ source <+: l ++ [s] ∧ t.node? (l ++ [s]) ≠ some .directory)
    (hl : t.node? l = some .directory) :
    t.Moves source (l ++ [s]) b (t.relocated source (l ++ [s])) where
  node? := node?_relocated ht hb hgoal
  source_ne := by
    rw [hb]
    exact nofun
  target_ne hdir := by
    by_cases heq : source = l ++ [s]
    · rw [← heq, hb] at hdir
      cases hdir
    · exact (hgoal heq).2 hdir
  closed := ht.relocated hb hgoal hl
  workingDirectory := workingDirectory_relocated ..

/-- The file that has moved is at the target. -/
theorem Moves.node?_target (h : t.Moves source target b u) :
    u.node? target = some (.file b) := by
  rw [h.node?, if_pos rfl]

/-- Whatever the file that has moved holds, the same paths lead to it. -/
theorem Moves.resolve_congr {c : Bytes} (h : t.Moves source target b u)
    (h' : t.Moves source target c v) (hq : q.segments = qs ++ [s]) (hs : IsName s)
    (hres : v.resolve q = .ok target) : u.resolve q = .ok target := by
  refine resolve_mono_of_isSome (h.workingDirectory.trans h'.workingDirectory.symm)
    (fun k hk => ?_) hq hs hres (by rw [h.node?_target]; rfl)
  rw [h'.node?] at hk
  rw [h.node?]
  split_ifs at hk ⊢
  · cases hk
  · exact hk

/-- **A rename that succeeds** moves the file to the place of the path, to which the path leads
then. -/
theorem moves_of_rename (ht : t.IsClosed) (hp : p.segments = ps ++ [a]) (ha : IsName a)
    (hq : q.segments = qs ++ [s]) (hs : IsName s) (hres : t.resolve p = .ok source)
    (hb : t.node? source = some (.file b)) (h : t.rename p q = .ok u) :
    t.Moves source (t.placeOf q) b u ∧ u.resolve q = .ok (t.placeOf q) := by
  obtain ⟨hcheck, hlong, l, henter, hgoal, rfl⟩ := of_rename_eq_ok hp ha hq hs hres hb h
  have hmoves := moves_relocated ht hb hgoal (of_enter_eq_ok henter).2
  have henter' : (t.relocated source (l ++ [s])).enter
      ((t.relocated source (l ++ [s])).startOf q) qs = .ok l :=
    enter_mono hmoves.workingDirectory (fun k => hmoves.directory) henter
  rw [placeOf_of_enter hq hs henter]
  refine ⟨hmoves, (resolve_eq_ok_iff hq hs).2 ⟨hcheck, hlong, l, henter', rfl, ?_⟩⟩
  rw [hmoves.node?_target]
  rfl

/-- **Editing the file that has been moved** leaves it at the target, with other contents. -/
theorem moves_editFile (h : t.Moves source target b u) (hq : q.segments = qs ++ [s])
    (hs : IsName s) (hres : u.resolve q = .ok target)
    (hshort : Declaration.isTooLong e.obfuscated.simpleName = false) :
    t.Moves source target (e.editBytes b) (u.editFile q e).1 := by
  have hb := h.node?_target
  rw [editFile_eq hq hs hres hb hshort, Entry.editBytes]
  cases hd : Utf8.decode? b with
  | none => exact h
  | some text =>
    have hne : target ≠ [] := ne_nil_of_file hb
    refine ⟨fun k => ?_, h.source_ne, h.target_ne, h.closed.put_file hb _, h.workingDirectory⟩
    simp only [node?_put u hne, h.node?]
    split_ifs <;> rfl

/-- Editing fails only where the file is no text. -/
theorem outcome_editFile (found : Path) (hb : t.node? target = some (.file b))
    (hq : q.segments = qs ++ [s]) (hs : IsName s) (hres : t.resolve q = .ok target)
    (hshort : Declaration.isTooLong e.obfuscated.simpleName = false) :
    (outcomeOf found (t.editFile q e)).2 =
      if (Utf8.decode? b).isSome then .relocated found q
      else .failed found (.io q .notUtf8) := by
  rw [editFile_eq hq hs hres hb hshort]
  cases Utf8.decode? b with
  | none => rfl
  | some text => rfl

/-! ## One entry -/

/-- **What applying an entry can come to**: the tree that is left, and the outcome. -/
inductive Restores (t : FileTree) (root : Path) (e : Entry) : FileTree → Outcome → Prop where
  /-- The class has no source file, and nothing changes. -/
  | skipped (hnone : t.locate? root e.obfuscated = none) : t.Restores root e t .skipped
  /-- The directories cannot be made or the file cannot be moved. The error names the last of the
  directories or the file. -/
  | stuck {u : FileTree} {file : SourceFile} {q : Path} {c : IoError}
      (hfile : t.locate? root e.obfuscated = some file)
      (hgrows : t.Grows (t.wayTo (classFile root e.restored file.kind)) u)
      (hq : q = folderPath root e.restored file.kind ∨ q = file.path) :
      t.Restores root e u (.failed file.path (.io q c))
  /-- The file is moved, and is edited if it is text. -/
  | moved {u v : FileTree} {file : SourceFile} {b : Bytes}
      (hfile : t.locate? root e.obfuscated = some file)
      (hb : t.node? (t.placeOf file.path) = some (.file b))
      (hgrows : t.Grows (t.wayTo (classFile root e.restored file.kind)) u)
      (hmoves : u.Moves (t.placeOf file.path) (t.placeOf (classFile root e.restored file.kind))
        (e.editBytes b) v) :
      t.Restores root e v
        (if (Utf8.decode? b).isSome then
          .relocated file.path (classFile root e.restored file.kind)
        else .failed file.path (.io (classFile root e.restored file.kind) .notUtf8))

/-- **Where relocating a file gets stuck**, with the tree that is left and the error: the
directories cannot be made, or they have been made and the file cannot be moved. -/
inductive GetsStuck (t : FileTree) (root : Path) (file : SourceFile) (e : Entry) :
    FileTree → RelocationError → Prop where
  /-- The directories cannot be made. The error names the last of them. -/
  | folders {u : FileTree} {c : IoError}
      (hmake : t.makeDirectories (folderPath root e.restored file.kind) = (u, .error c)) :
      t.GetsStuck root file e u (.io (folderPath root e.restored file.kind) c)
  /-- The file cannot be moved. The error names the file. -/
  | move {u : FileTree} {c : IoError}
      (hmake : t.makeDirectories (folderPath root e.restored file.kind) = (u, .ok ()))
      (hrename : u.rename file.path (classFile root e.restored file.kind) = .error c) :
      t.GetsStuck root file e u (.io file.path c)

/-- **Relocating a file** that was found gets stuck, or moves the file and then edits it. -/
theorem relocate_cases (ht : t.IsClosed) (hfile : t.locate? root e.obfuscated = some file) :
    (∃ u error, t.Grows (t.wayTo (classFile root e.restored file.kind)) u ∧
      t.GetsStuck root file e u error ∧ t.relocate root file e = (u, .error error)) ∨
      ∃ b u v, t.read file.path = .ok b ∧ t.node? (t.placeOf file.path) = some (.file b) ∧
        t.Grows (t.wayTo (classFile root e.restored file.kind)) u ∧
        u.Moves (t.placeOf file.path) (t.placeOf (classFile root e.restored file.kind)) b v ∧
        v.resolve (classFile root e.restored file.kind) =
          .ok (t.placeOf (classFile root e.restored file.kind)) ∧
        t.relocate root file e = v.editFile (classFile root e.restored file.kind) e := by
  obtain ⟨hpath, hisFile⟩ := locate?_eq_some hfile
  obtain ⟨source, b, hres, hb⟩ := isFile_iff.1 hisFile
  obtain ⟨ps, hp⟩ := exists_segments_classFile root e.obfuscated file.kind
  obtain ⟨qs, hq⟩ := exists_segments_classFile root e.restored file.kind
  rw [← hpath] at hres hp
  have hs := ClassPath.isName_fileName e.restored file.kind
  have hgrows := grows_makeDirectories_parent ht hq hs
  rw [relocate]
  rw [← folderPath] at hgrows ⊢
  -- Whether or not all folders are made, the tree has only grown on the way to the target.
  cases hmake : t.makeDirectories (folderPath root e.restored file.kind) with
  | mk u made =>
    rw [hmake] at hgrows
    cases made with
    | error c => exact .inl ⟨u, _, hgrows, .folders hmake, rfl⟩
    | ok _ =>
      have hresu := hgrows.resolve hp (ClassPath.isName_fileName ..) hres
      -- Growing has kept the file, so it is moved from where it was found.
      have hbu : u.node? source = some (.file b) := by
        rw [hgrows.node?_of_isSome (by rw [hb]; rfl), hb]
      simp only
      cases hrename : u.rename file.path (classFile root e.restored file.kind) with
      | error c => exact .inl ⟨u, _, hgrows, .move hmake hrename, rfl⟩
      | ok v =>
        obtain ⟨hmoves, hresv⟩ := moves_of_rename hgrows.closed hp (ClassPath.isName_fileName ..)
          hq hs hresu hbu hrename
        rw [placeOf_congr hgrows.workingDirectory, ← placeOf_of_resolve hres] at hmoves
        rw [placeOf_congr hgrows.workingDirectory] at hresv
        exact .inr ⟨b, u, v, read_of_resolve hres hb, by rw [placeOf_of_resolve hres, hb], hgrows,
          hmoves, hresv, rfl⟩

/-- The simple name of a file that was found is short enough to be looked for. -/
theorem isTooLong_simpleName_of_locate? (hfile : t.locate? root e.obfuscated = some file) :
    Declaration.isTooLong e.obfuscated.simpleName = false := by
  obtain ⟨-, hisFile⟩ := locate?_eq_some hfile
  obtain ⟨source, b, hres, -⟩ := isFile_iff.1 hisFile
  obtain ⟨ps, hp⟩ := exists_segments_classFile root e.obfuscated file.kind
  exact isTooLong_eq_false ((resolve_eq_ok_iff hp (ClassPath.isName_fileName _ _)).1 hres).2.1

/-- Relocating the file of a class restores the class, or says why it could not. -/
theorem restores_relocate (ht : t.IsClosed) (hfile : t.locate? root e.obfuscated = some file) :
    t.Restores root e (t.relocate root file e).1
      (outcomeOf file.path (t.relocate root file e)).2 := by
  rcases relocate_cases ht hfile with
    ⟨u, error, hgrows, hstuck, heq⟩ | ⟨b, u, v, -, hb, hgrows, hmoves, hresv, heq⟩
  · rw [heq]
    cases hstuck with
    | folders => exact .stuck hfile hgrows (.inl rfl)
    | move => exact .stuck hfile hgrows (.inr rfl)
  · obtain ⟨qs, hq⟩ := exists_segments_classFile root e.restored file.kind
    have hs := ClassPath.isName_fileName e.restored file.kind
    have hshort := isTooLong_simpleName_of_locate? hfile
    rw [heq, outcome_editFile file.path hmoves.node?_target hq hs hresv hshort]
    exact .moved hfile hb hgrows (moves_editFile hmoves hq hs hresv hshort)

/-- **What a file that was relocated holds** is the edited text, and it is where the restored path
leads. -/
theorem readText_restore_of_relocated {text : Text} {found goal : Path} (ht : t.IsClosed)
    (hfile : t.locate? root e.obfuscated = some file) (htext : t.readText file.path = .ok text)
    (h : (t.restore root e).2 = .relocated found goal) :
    found = file.path ∧ goal = classFile root e.restored file.kind ∧
      (t.restore root e).1.readText goal = .ok (e.editText text) := by
  rw [restore_of_locate?_eq_some hfile] at h ⊢
  rcases relocate_cases ht hfile with
    ⟨u, error, -, -, heq⟩ | ⟨b, u, v, hread, -, -, hmoves, hresv, heq⟩
  · rw [heq] at h
    cases h
  · obtain ⟨qs, hq⟩ := exists_segments_classFile root e.restored file.kind
    have hs := ClassPath.isName_fileName e.restored file.kind
    have hdecode : Utf8.decode? b = some text := by
      rw [readText_of_read hread] at htext
      split at htext
      · next text' hd => rw [hd, Except.ok.inj htext]
      · cases htext
    have hshort := isTooLong_simpleName_of_locate? hfile
    have hmoved := moves_editFile hmoves hq hs hresv hshort
    rw [heq, outcome_editFile file.path hmoves.node?_target hq hs hresv hshort, hdecode] at h
    obtain ⟨rfl, rfl⟩ := Outcome.relocated.inj h
    refine ⟨rfl, rfl, ?_⟩
    have hedited := read_of_resolve (hmoved.resolve_congr hmoves hq hs hresv) hmoved.node?_target
    rw [Entry.editBytes, hdecode] at hedited
    rw [heq, fst_outcomeOf, readText_of_read hedited, Utf8.decode?_encode]

/-- **Applying an entry** skips it, gets stuck or moves its file. -/
theorem restores_restore (ht : t.IsClosed) (root : Path) (e : Entry) :
    t.Restores root e (t.restore root e).1 (t.restore root e).2 := by
  cases hfile : t.locate? root e.obfuscated with
  | none =>
    rw [restore_of_locate?_eq_none hfile]
    exact .skipped hfile
  | some file =>
    rw [restore_of_locate?_eq_some hfile, fst_outcomeOf]
    exact restores_relocate ht hfile

namespace Restores

variable {o : Outcome}

/-- **What an entry can do to a place**: nothing, or make a directory there that is on the way to
the restored path, or take the file away that was found, or put it there. -/
theorem node?_cases (h : t.Restores root e u o) (k : Location) :
    u.node? k = t.node? k ∨
      (t.node? k = none ∧ u.node? k = some .directory ∧
        ∃ kind, k ∈ t.wayTo (classFile root e.restored kind)) ∨
      t.node? k ≠ some .directory ∧ ∃ file, t.locate? root e.obfuscated = some file ∧
        (k = t.placeOf file.path ∧ u.node? k = none ∨
          k = t.placeOf (classFile root e.restored file.kind) ∧
            ∃ b, u.node? k = some (.file b)) := by
  cases h with
  | skipped => exact .inl rfl
  | stuck hfile hgrows =>
    rcases hgrows.node? k with hsame | ⟨hnone, hdir, hway⟩
    · exact .inl hsame
    · exact .inr (.inl ⟨hnone, hdir, _, hway⟩)
  | @moved w _ file b hfile hb hgrows hmoves =>
    have hk := hmoves.node? k
    split_ifs at hk with htarget hsource
    · subst htarget
      exact .inr (.inr ⟨fun hdir => hmoves.target_ne (hgrows.directory hdir), file, hfile,
        .inr ⟨rfl, _, hk⟩⟩)
    · subst hsource
      exact .inr (.inr ⟨fun hdir => hmoves.source_ne (hgrows.directory hdir), file, hfile,
        .inl ⟨rfl, hk⟩⟩)
    · rw [hk]
      rcases hgrows.node? k with hsame | ⟨hnone, hdir, hway⟩
      · exact .inl hsame
      · exact .inr (.inl ⟨hnone, hdir, _, hway⟩)

/-- A tree stays closed while a class is restored. -/
theorem closed (h : t.Restores root e u o) (ht : t.IsClosed) : u.IsClosed := by
  cases h with
  | skipped => exact ht
  | stuck _ hgrows => exact hgrows.closed
  | moved _ _ _ hmoves => exact hmoves.closed

/-- The working directory stays what it is while a class is restored. -/
theorem workingDirectory (h : t.Restores root e u o) :
    u.workingDirectory = t.workingDirectory := by
  cases h with
  | skipped => rfl
  | stuck _ hgrows => exact hgrows.workingDirectory
  | moved _ _ hgrows hmoves => exact hmoves.workingDirectory.trans hgrows.workingDirectory

/-- Every directory is still there. -/
theorem directory (h : t.Restores root e u o) (hk : t.node? k = some .directory) :
    u.node? k = some .directory := by
  rcases h.node?_cases k with hsame | ⟨hnone, -⟩ | ⟨hne, -⟩
  · rw [hsame, hk]
  · rw [hnone] at hk
    cases hk
  · exact absurd hk hne

end Restores

end FileTree

end SourceRecovery
