import SourceRecovery.Proofs.FileTree.Reach
import SourceRecovery.Relocation

/-! # The places of a class

Below a source root at the location `r`, the source file of a class of a kind has one place, its
**site** (`ClassPath.site`): the names on the class path go down from the root, or from the top
when the path starts with a slash, and repeated slashes count as one. The path of the source file
reaches the site (`reaches_classFile`) whenever the class path has no dot, as every class path made
from a class name has none. -/

namespace SourceRecovery

namespace ClassPath

variable {path : ClassPath} {kind : SourceKind} {r k : Location}

/-! ## The parts of a class path -/

/-- The simple name of a class has no slash. -/
theorem not_mem_simpleName (path : ClassPath) : '/' ∉ path.simpleName := by
  intro h
  rw [simpleName, List.mem_reverse] at h
  simpa using List.mem_takeWhile_imp h

/-- The directory of a class path consists of its characters. -/
theorem mem_of_mem_directory {c : Char} (hc : c ∈ path.directory) : c ∈ path := by
  rw [directory, List.mem_reverse] at hc
  exact List.mem_reverse.1 (List.dropWhile_subset _ (List.drop_subset 1 _ hc))

/-- A class path is its simple name, or its directory and its simple name with a slash between. -/
theorem eq_simpleName_or (path : ClassPath) :
    path = path.simpleName ∨ path = path.directory ++ '/' :: path.simpleName := by
  have hsplit : path.reverse.takeWhile (· ≠ '/') ++ path.reverse.dropWhile (· ≠ '/') =
      path.reverse := List.takeWhile_append_dropWhile
  have hpath := congrArg List.reverse hsplit
  rw [List.reverse_append, List.reverse_reverse] at hpath
  cases hd : path.reverse.dropWhile (· ≠ '/') with
  | nil =>
    left
    rw [hd] at hpath
    exact hpath.symm
  | cons c rest =>
    right
    have hc := List.head_dropWhile_not (fun a : Char => decide (a ≠ '/')) (l := path.reverse)
      (by rw [hd]; simp)
    simp only [hd, List.head_cons, decide_eq_false_iff_not, not_not] at hc
    rw [hd, hc] at hpath
    rw [directory, hd, simpleName, List.drop_one, List.tail_cons]
    simpa using hpath.symm

/-- What is put behind a class path goes to its simple name. -/
theorem segments_append (path : ClassPath) {x : Text} (hx : '/' ∉ x) :
    Path.segments (path ++ x) = (Path.segments path).dropLast ++ [path.simpleName ++ x] := by
  have hname : '/' ∉ path.simpleName ++ x := by
    rw [List.mem_append, not_or]
    exact ⟨not_mem_simpleName path, hx⟩
  rcases eq_simpleName_or path with h | h
  · have hone : Path.segments path.simpleName = [path.simpleName] :=
      List.splitOn_eq_singleton (not_mem_simpleName path)
    conv_lhs => rw [h]
    rw [Path.segments, List.splitOn_eq_singleton hname]
    rw [← h] at hone
    rw [hone]
    simp
  · have hcat : path ++ x = path.directory ++ '/' :: (path.simpleName ++ x) := by
      conv_lhs => rw [h]
      simp
    have hseg : Path.segments path = Path.segments path.directory ++ [path.simpleName] := by
      conv_lhs => rw [h]
      rw [Path.segments, List.splitOn_append_cons_self,
        List.splitOn_eq_singleton (not_mem_simpleName path)]
      rfl
    rw [hseg, List.dropLast_concat, hcat, Path.segments, List.splitOn_append_cons_self,
      List.splitOn_eq_singleton hname]
    rfl

/-- The last segment of a class path is its simple name. -/
theorem segments_eq (path : ClassPath) :
    Path.segments path = (Path.segments path).dropLast ++ [path.simpleName] := by
  have h := segments_append path (x := []) (by simp)
  rwa [List.append_nil, List.append_nil] at h

/-! ## Sites -/

/-- The names of the directories on a class path. Empty segments name nothing. -/
def folders (path : ClassPath) : List Text :=
  (Path.segments path).dropLast.filter fun s => !Path.isIdle s

/-- The name of the source file of a class. -/
def fileName (path : ClassPath) (kind : SourceKind) : Text :=
  path.simpleName ++ '.' :: kind.extension

/-- Where the names of a class path go down from: the source root, or the top. -/
def base (r : Location) (path : ClassPath) : Location := if Path.isAbsolute path then [] else r

/-- The **site** of a class below a source root: the location of its source file of a kind. -/
def site (r : Location) (path : ClassPath) (kind : SourceKind) : Location :=
  base r path ++ folders path ++ [fileName path kind]

/-- The site of a class is its file name in its folders. -/
theorem site_eq_concat (r : Location) (path : ClassPath) (kind : SourceKind) :
    site r path kind = base r path ++ folders path ++ [fileName path kind] := rfl

/-- An extension has no slash. -/
theorem slash_notMem_extension (kind : SourceKind) : '/' ∉ '.' :: kind.extension := by
  cases kind <;> decide

/-- The name of a source file is a plain name. -/
theorem isName_fileName (path : ClassPath) (kind : SourceKind) :
    FileTree.IsName (fileName path kind) := by
  have hlen : 3 ≤ (fileName path kind).length := by
    rw [fileName, List.length_append]
    cases kind <;> simp [SourceKind.extension]
  have hne : ∀ s : Text, s.length < 3 → fileName path kind ≠ s := by
    intro s hs h
    rw [h] at hlen
    omega
  refine ⟨?_, hne _ (by decide)⟩
  rw [Path.isIdle, Bool.or_eq_false_iff, decide_eq_false_iff_not, decide_eq_false_iff_not]
  exact ⟨hne _ (by decide), hne _ (by decide)⟩

/-- The file name of a class has a dot. -/
theorem dot_mem_fileName (path : ClassPath) (kind : SourceKind) : '.' ∈ fileName path kind := by
  simp [fileName]

/-- A class path without dots has folders without dots. -/
theorem dot_notMem_of_mem_folders (h : '.' ∉ path) {s : Text} (hs : s ∈ folders path) :
    '.' ∉ s := by
  rw [folders, List.mem_filter] at hs
  exact fun hdot => h (Path.mem_of_mem_segments (List.dropLast_subset _ hs.1) hdot)

/-- The names of the two kinds of source files differ. -/
theorem fileName_injective {p q : ClassPath} {k k' : SourceKind}
    (h : fileName p k = fileName q k') : p.simpleName = q.simpleName ∧ k = k' := by
  have hlast := congrArg List.getLast? h
  rw [fileName, fileName, List.getLast?_append_cons, List.getLast?_append_cons] at hlast
  obtain rfl : k = k' := by
    cases k <;> cases k' <;> first | rfl | exact absurd hlast (by decide)
  exact ⟨List.append_cancel_right h, rfl⟩

end ClassPath

namespace FileTree

variable {t u : FileTree} {root : Path} {r k : Location} {path : ClassPath} {kind : SourceKind}

/-- The path of a source file ends in its name, whatever the source root is. -/
theorem exists_segments_classFile (root : Path) (path : ClassPath) (kind : SourceKind) :
    ∃ segments, (classFile root path kind).segments = segments ++ [path.fileName kind] := by
  obtain ⟨pre, hpre⟩ := Path.exists_segments_join root (path ++ '.' :: kind.extension)
  refine ⟨pre ++ (Path.segments path).dropLast, ?_⟩
  rw [classFile, hpre, path.segments_append (ClassPath.slash_notMem_extension kind),
    List.append_assoc]
  rfl

/-- A closed tree in which the path of the **source root** leads to the directory at `r`. -/
structure HasRoot (t : FileTree) (root : Path) (r : Location) : Prop where
  /-- Whatever is somewhere lies in a directory. -/
  closed : t.IsClosed
  /-- The path leads to the location. -/
  resolve : t.resolve root = .ok r
  /-- A directory is there. -/
  directory : t.node? r = some .directory

/-- The empty path is no source root. -/
theorem HasRoot.ne_nil (h : t.HasRoot root r) : root ≠ [] := by
  rintro rfl
  have hr := h.resolve
  rw [resolve_nil] at hr
  cases hr

/-- The path of a source root leads to its location segment by segment. -/
theorem HasRoot.follow (h : t.HasRoot root r) :
    t.follow (t.startAt root.segments) root.segments = .ok r := by
  have hr := h.resolve
  rw [FileTree.resolve] at hr
  cases hc : root.check with
  | error e => rw [hc] at hr; cases hr
  | ok _ =>
    rw [hc] at hr
    rwa [← startOf_eq_startAt t h.ne_nil]

/-- Leaving out a slash at the end of the path of a directory leads to the same place. -/
theorem follow_of_concat_nil {pre : List Text} (h : t.follow k (pre ++ [[]]) = .ok r)
    (hr : t.node? r = some .directory) : t.follow k pre = .ok r := by
  rw [follow_append] at h
  cases hf : t.follow k pre with
  | error e => rw [hf] at h; cases h
  | ok m =>
    rw [hf] at h
    replace h : t.follow m [[]] = .ok r := h
    rw [follow_cons_of_directory (directory_of_follow h hr), if_pos (by decide)] at h
    exact h

/-- The path of a class path below the source root: a beginning that leads to the root, and the
segments of the class path. -/
theorem HasRoot.exists_segments_join (h : t.HasRoot root r) {q : Path}
    (hq : q.isAbsolute = false) :
    ∃ pre, pre ≠ [] ∧ (root.join q).segments = pre ++ q.segments ∧
      t.follow (t.startAt pre) pre = .ok r := by
  have hroot := h.follow
  have hjoin : ¬ (q.isAbsolute = true ∨ root = []) := by simp [hq, h.ne_nil]
  rw [Path.join, if_neg hjoin]
  split_ifs with hlast
  · -- The root ends in a slash, and so in an empty segment.
    obtain ⟨top, rfl⟩ : ∃ top, root = top ++ ['/'] := List.getLast?_eq_some_iff.1 hlast
    have hseg : Path.segments (top ++ ['/']) = Path.segments top ++ [[]] := by
      rw [Path.segments, List.splitOn_append_cons_self]
      rfl
    rw [hseg, startAt_append t (Path.segments_ne_nil top)] at hroot
    refine ⟨Path.segments top, Path.segments_ne_nil top, ?_,
      follow_of_concat_nil hroot h.directory⟩
    rw [List.append_assoc, List.singleton_append, Path.segments, List.splitOn_append_cons_self]
    rfl
  · refine ⟨root.segments, Path.segments_ne_nil root, ?_, hroot⟩
    rw [Path.segments, List.splitOn_append_cons_self]
    rfl

/-- **The path of a source file reaches the site of its class.** -/
theorem HasRoot.reaches_classFile (h : t.HasRoot root r) (hdot : '.' ∉ path)
    (kind : SourceKind) :
    t.Reaches (classFile root path kind) (path.base r) path.folders (path.fileName kind) := by
  have hfile := path.segments_append (ClassPath.slash_notMem_extension kind)
  have hup : ∀ s ∈ (Path.segments path).dropLast, s ≠ ['.', '.'] := by
    rintro s hs rfl
    exact hdot (Path.mem_of_mem_segments (List.dropLast_subset _ hs) (by simp))
  by_cases habs : Path.isAbsolute path = true
  · -- An absolute class path has an empty first segment, which leads to the top.
    obtain ⟨rest, rfl⟩ : ∃ rest, path = '/' :: rest := by
      cases path with
      | nil => cases habs
      | cons c rest =>
        obtain rfl : c = '/' := by simpa [Path.isAbsolute] using habs
        exact ⟨rest, rfl⟩
    have hseg : Path.segments ('/' :: rest) = [] :: Path.segments rest :=
      List.splitOn_append_cons_self [] rest
    have hdrop : (Path.segments ('/' :: rest)).dropLast = [] :: (Path.segments rest).dropLast := by
      rw [hseg, List.dropLast_cons_of_ne_nil (Path.segments_ne_nil rest)]
    rw [ClassPath.base, if_pos habs, classFile, Path.join_of_isAbsolute (by rfl)]
    refine ⟨⟨[[]], (Path.segments rest).dropLast, by simp, ?_, by simp [startAt, FileTree.follow,
      hasDirectory, Path.isIdle], ?_, fun s hs => hup s (by rw [hdrop]; simp [hs])⟩, node?_nil t,
      ClassPath.isName_fileName _ _⟩
    · rw [hfile, hdrop]
      rfl
    · rw [ClassPath.folders, hdrop]
      rfl
  · have hrel : Path.isAbsolute (path ++ '.' :: kind.extension) = false := by
      cases path with
      | nil => cases kind <;> rfl
      | cons c rest => simpa [Path.isAbsolute] using habs
    obtain ⟨pre, hpre, hjoin, hbase⟩ := h.exists_segments_join hrel
    rw [ClassPath.base, if_neg habs]
    refine ⟨⟨pre, (Path.segments path).dropLast, hpre, ?_, hbase, rfl, hup⟩, h.directory,
      ClassPath.isName_fileName _ _⟩
    rw [classFile, hjoin, hfile, List.append_assoc]
    rfl

/-- The source root stays in a tree with the same directories and more. -/
theorem HasRoot.mono (h : t.HasRoot root r) (hu : u.IsClosed)
    (hw : u.workingDirectory = t.workingDirectory)
    (hdir : ∀ k, t.node? k = some .directory → u.node? k = some .directory) :
    u.HasRoot root r :=
  ⟨hu, resolve_mono hw hdir h.resolve h.directory, hdir r h.directory⟩

/-- What decides, apart from the tree, whether a source file can be at the site of a class. -/
def NameFits (root : Path) (path : ClassPath) (kind : SourceKind) : Prop :=
  (classFile root path kind).check = .ok () ∧
    ∀ s ∈ path.folders ++ [path.fileName kind], Path.nameIsTooLong s = false

/-- **A source file** of a class is found exactly if its path fits and a file is at the site. -/
theorem HasRoot.isFile_classFile_iff (h : t.HasRoot root r) (hdot : '.' ∉ path)
    (kind : SourceKind) :
    t.isFile (classFile root path kind) = true ↔
      NameFits root path kind ∧ ∃ b, t.node? (path.site r kind) = some (.file b) := by
  rw [(h.reaches_classFile hdot kind).isFile_iff h.closed, NameFits, and_assoc]
  rfl

end FileTree

end SourceRecovery
