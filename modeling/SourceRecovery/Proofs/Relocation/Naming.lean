import SourceRecovery.Proofs.FileTree.Place
import SourceRecovery.Proofs.Relocation.Site
import SourceRecovery.Proofs.Text.Splitting

/-! # Names, packages and directories

The class `a.b.C` has the class path `a/b/C`, lies in the package `a.b` and has its source file in
the directory `a/b`. Going from one to another is a plain exchange of dots and slashes or a cut at
the last of them, and the ways round agree, whatever the name: also if parts of it are empty.

* **`ClassPath.ofName_package`** — the package of a class path names its directory.
* **`ClassPath.directory_eq`** — the last slash parts the directory from the simple name.
* **`FileTree.exists_parent_classFile`** — the directory above a source file is that of its class:
  the two paths go the same way (`Path.SameWay`), and so lead to the same place in every tree.
* **`ClassPath.ofName_threeViews`** — all of it for a class name. -/

namespace SourceRecovery

/-! ## Paths that go the same way -/

namespace Path

variable {p q : Path} {s : Text} {ss up : List Text}

/-- The **steps** of a path: its segments without the idle ones. -/
def steps (p : Path) : List Text := p.segments.filter fun s => !isIdle s

/-- Two paths **go the same way**: both start at the root directory or neither of them does, and
they take the same steps. They may differ in repeated slashes and single dots only. -/
structure SameWay (p q : Path) : Prop where
  /-- They start at the same place. -/
  isAbsolute : p.isAbsolute = q.isAbsolute
  /-- They take the same steps. -/
  steps : p.steps = q.steps

/-- The first directory above takes the steps of all segments above. -/
theorem exists_climb_steps (hne : up ≠ []) (h : ∀ s ∈ up, '/' ∉ s) :
    ∃ q rest, climb up = q :: rest ∧ q.steps = up.reverse.filter (fun s => !isIdle s) ∧
      (q.isAbsolute = true ↔ up.getLast? = some []) := by
  induction up with
  | nil => exact absurd rfl hne
  | cons s up ih =>
    rcases eq_or_ne up [] with rfl | hup
    · rcases eq_or_ne s [] with rfl | hs
      · exact ⟨['/'], [], rfl, by decide, by decide⟩
      · have hseg : segments s = [s] := List.splitOn_eq_singleton (h s (by simp))
        refine ⟨s, [[]], by rw [climb, if_neg hs], by rw [steps, hseg]; rfl, ?_⟩
        rw [isAbsolute_iff hs, hseg]
        rfl
    · have hlast : (s :: up).getLast? = up.getLast? := by
        rw [List.getLast?_cons, List.getLast?_eq_some_getLast hup]
        rfl
      rw [climb_cons hup, hlast]
      -- An idle segment is no step, so the first directory is that of the segments above it.
      split_ifs with hidle
      · obtain ⟨q, rest, hq, hsteps, habs⟩ := ih hup fun a ha => h a (by simp [ha])
        exact ⟨q, rest, hq, by simp [hsteps, hidle], habs⟩
      · have hseg : segments (Text.join ['/'] (s :: up).reverse) = (s :: up).reverse :=
          segments_join (fun a ha => h a (List.mem_reverse.1 ha)) (by simp)
        have hq0 : Text.join ['/'] (s :: up).reverse ≠ [] := by
          rw [List.reverse_cons, join_concat (by simpa using hup)]
          simp
        refine ⟨_, _, rfl, by rw [steps, hseg], ?_⟩
        rw [isAbsolute_iff hq0, hseg, List.head?_reverse, hlast]

/-- **The directory above a name** takes the steps in front of the name. -/
theorem exists_parent_steps (hp : p.segments = ss ++ [s]) (hs : isIdle s = false) :
    ∃ q, p.parent? = some q ∧ q.steps = ss.filter (fun s => !isIdle s) ∧
      (q.isAbsolute = true ↔ ss.head? = some []) := by
  rcases eq_or_ne ss [] with rfl | hne
  · exact ⟨[], parent?_of_segments_singleton hp hs, by decide, by decide⟩
  · have hslash : ∀ a ∈ ss.reverse, '/' ∉ a := fun a ha =>
      not_mem_of_mem_segments (p := p) (by rw [hp]; simp [List.mem_reverse.1 ha])
    obtain ⟨q, rest, hq, hsteps, habs⟩ := exists_climb_steps (by simp [hne]) hslash
    rw [List.reverse_reverse] at hsteps
    rw [List.getLast?_reverse] at habs
    refine ⟨q, ?_, hsteps, habs⟩
    rw [parent?, ancestors, if_neg (ne_nil_of_segments hp hs), hp, List.reverse_append,
      List.reverse_singleton, List.singleton_append, climb_cons (by simp [hne]),
      if_neg (by simp [hs]), hq]
    rfl

/-- What stands in front of whatever is read from a path is nothing, or it ends in a slash. -/
theorem front_eq (root : Path) : root.front = [] ∨ ∃ top, root.front = top ++ ['/'] := by
  rw [front]
  split_ifs with hnil hlast
  · exact .inl rfl
  · exact .inr (List.getLast?_eq_some_iff.1 hlast)
  · exact .inr ⟨root, rfl⟩

/-- A slash at the end of a path adds an empty segment. -/
theorem segments_concat_slash (top : Path) : segments (top ++ ['/']) = segments top ++ [[]] := by
  rw [segments, List.splitOn_append_cons_self]
  rfl

end Path

namespace FileTree

variable {p q : Path}

/-- Only its steps matter for the place of a path. -/
theorem foldl_advance_filter (segments : List Text) (l : Location) :
    (segments.filter fun s => !Path.isIdle s).foldl advance l = segments.foldl advance l := by
  induction segments generalizing l with
  | nil => rfl
  | cons s segments ih =>
    by_cases hs : Path.isIdle s = true
    · rw [List.filter_cons_of_neg (by simp [hs]), List.foldl_cons, advance_of_isIdle hs, ih]
    · rw [List.filter_cons_of_pos (by simp [hs]), List.foldl_cons, List.foldl_cons, ih]

/-- **Paths that go the same way have the same place.** -/
theorem placeOf_of_sameWay (h : p.SameWay q) (t : FileTree) : t.placeOf p = t.placeOf q := by
  rw [placeOf, placeOf, ← foldl_advance_filter p.segments, ← foldl_advance_filter q.segments,
    startOf, startOf, h.isAbsolute]
  exact congrArg (List.foldl advance _) h.steps

/-- **Paths that go the same way enter the same directory**, or are stopped for the same reason. -/
theorem enter_of_sameWay (h : p.SameWay q) (t : FileTree) :
    t.enter (t.startOf p) p.segments = t.enter (t.startOf q) q.segments := by
  rw [enter_filter t _ p.segments, enter_filter t _ q.segments, startOf, startOf, h.isAbsolute]
  exact congrArg (t.enter _) h.steps

end FileTree

/-! ## Class paths -/

namespace ClassPath

variable {path : ClassPath} {name front last : Text}

/-- **The package of a class path names its directory.** -/
theorem ofName_package (h : '.' ∉ path) : ofName path.package = path.directory := by
  rw [ofName, package, List.map_map]
  refine (List.map_congr_left fun c hc => ?_).trans (List.map_id _)
  have hdot : c ≠ '.' := fun heq => h (heq ▸ mem_of_mem_directory hc)
  by_cases hslash : c = '/' <;> simp [hslash, hdot]

/-- Without a slash there is no directory. -/
theorem directory_eq_nil (h : '/' ∉ path) : path.directory = [] := by
  have hdrop : path.reverse.dropWhile (· ≠ '/') = [] := by
    rw [List.dropWhile_eq_nil_iff]
    exact fun c hc => decide_eq_true fun heq => h (heq ▸ List.mem_reverse.1 hc)
  rw [directory, hdrop]
  rfl

/-- Without a slash there is no package. -/
theorem package_eq_nil (h : '/' ∉ path) : path.package = [] := by
  rw [package, directory_eq_nil h]
  rfl

/-- Without a slash there is nothing but the simple name. -/
theorem simpleName_eq_self (h : '/' ∉ path) : path.simpleName = path := by
  rcases eq_simpleName_or path with heq | heq
  · exact heq.symm
  · exact absurd (by rw [heq]; simp) h

/-- **A slash parts the directory from the simple name.** -/
theorem directory_append (h : '/' ∈ path) : path.directory ++ '/' :: path.simpleName = path := by
  rcases eq_simpleName_or path with heq | heq
  · rw [heq] at h
    exact absurd h (not_mem_simpleName path)
  · exact heq.symm

/-- It is the last slash. -/
theorem directory_eq (hlast : '/' ∉ last) (h : path = front ++ '/' :: last) :
    path.directory = front ∧ path.simpleName = last := by
  have hsplit : path.directory ++ '/' :: path.simpleName = path :=
    directory_append (by rw [h]; simp)
  rw [h] at hsplit
  obtain ⟨hfront, -, hname⟩ := Text.append_singleton_append_inj (p := (· ≠ '/'))
    (fun c hc => fun heq => not_mem_simpleName _ (heq ▸ hc))
    (fun c hc => fun heq => hlast (heq ▸ hc)) (by simp) (by simp) hsplit
  rw [h]
  exact ⟨hfront, hname⟩

/-- A class name without dots is its own path. -/
theorem ofName_of_notMem (h : '.' ∉ name) : ofName name = name := by
  rw [ofName]
  refine (List.map_congr_left fun c hc => ?_).trans (List.map_id _)
  have hdot : c ≠ '.' := fun heq => h (heq ▸ hc)
  simp [hdot]

/-- A name without slashes is the package of its class path again. -/
theorem map_ofName (h : '/' ∉ name) :
    (ofName name).map (fun c => if c = '/' then '.' else c) = name := by
  rw [ofName, List.map_map]
  refine (List.map_congr_left fun c hc => ?_).trans (List.map_id _)
  have hslash : c ≠ '/' := fun heq => h (heq ▸ hc)
  by_cases hdot : c = '.' <;> simp [hdot, hslash]

/-- **The last dot of a name** parts the package from the simple name. -/
theorem package_ofName (hslash : '/' ∉ front ++ '.' :: last) (hlast : '.' ∉ last) :
    package (ofName (front ++ '.' :: last)) = front ∧
      simpleName (ofName (front ++ '.' :: last)) = last := by
  rw [List.mem_append, List.mem_cons, not_or, not_or] at hslash
  have heq : ofName (front ++ '.' :: last) = ofName front ++ '/' :: last := by
    conv_rhs => rw [← ofName_of_notMem hlast]
    simp [ofName]
  obtain ⟨hdirectory, hname⟩ := directory_eq hslash.2.2 heq
  exact ⟨by rw [package, hdirectory, map_ofName hslash.1], hname⟩

end ClassPath

/-! ## The directory above a source file -/

namespace FileTree

variable {path : ClassPath}

/-- The segments in front of the name of a source file take the steps of the directory of the class,
read from the source root. -/
theorem steps_join_directory (hrel : Path.isAbsolute path = false) (root : Path) :
    (root.join path.directory).steps =
        (Path.segments (root.front ++ path)).dropLast.filter (fun s => !Path.isIdle s) ∧
      ((root.join path.directory).isAbsolute = true ↔
        (Path.segments (root.front ++ path)).dropLast.head? = some []) := by
  by_cases hslash : '/' ∈ path
  · have hsplit := ClassPath.directory_append hslash
    -- The directory is not empty, since the class path does not start with a slash.
    have hne : path.directory ≠ [] := by
      intro hnil
      rw [← hsplit, hnil] at hrel
      cases hrel
    have hrel' : Path.isAbsolute path.directory = false := by
      obtain ⟨c, rest, hdirectory⟩ := List.exists_cons_of_ne_nil hne
      rw [← hsplit, hdirectory] at hrel
      rwa [hdirectory]
    have hseg : Path.segments (root.front ++ path) =
        Path.segments (root.front ++ path.directory) ++ [path.simpleName] := by
      conv_lhs => rw [← hsplit, ← List.append_assoc, Path.segments,
        List.splitOn_append_cons_self,
        List.splitOn_eq_singleton (ClassPath.not_mem_simpleName path)]
      rfl
    rw [Path.join_eq_front hrel', hseg, List.dropLast_concat, Path.steps,
      Path.isAbsolute_iff (by simp [hne])]
    exact ⟨rfl, Iff.rfl⟩
  · rw [ClassPath.directory_eq_nil hslash, Path.join_eq_front rfl, List.append_nil]
    have hone : Path.segments path = [path] := List.splitOn_eq_singleton hslash
    rcases root.front_eq with hfront | ⟨top, hfront⟩
    · rw [hfront, List.nil_append, hone]
      exact ⟨rfl, by simp [Path.isAbsolute]⟩
    · have hseg : Path.segments (top ++ ['/'] ++ path) = Path.segments top ++ [path] := by
        rw [List.append_assoc, List.singleton_append, Path.segments,
          List.splitOn_append_cons_self]
        exact congrArg (Path.segments top ++ ·) hone
      obtain ⟨a, as, has⟩ := List.exists_cons_of_ne_nil (Path.segments_ne_nil top)
      rw [hfront, hseg, List.dropLast_concat, Path.steps, Path.isAbsolute_iff (by simp),
        Path.segments_concat_slash, List.filter_append, has]
      exact ⟨List.append_nil _, Iff.rfl⟩

/-- **The directory above a source file** is the directory of its class, read from the source
root. -/
theorem exists_parent_classFile (hrel : Path.isAbsolute path = false) (root : Path)
    (kind : SourceKind) :
    ∃ parent, (classFile root path kind).parent? = some parent ∧
      parent.SameWay (root.join path.directory) := by
  have hfile : Path.isAbsolute (path ++ '.' :: kind.extension) = false := by
    cases path with
    | nil => cases kind <;> rfl
    | cons c rest => simpa [Path.isAbsolute] using hrel
  have hseg : (classFile root path kind).segments =
      (Path.segments (root.front ++ path)).dropLast ++
        [ClassPath.fileName (root.front ++ path) kind] := by
    rw [classFile, Path.join_eq_front hfile, ← List.append_assoc]
    exact ClassPath.segments_append _ (ClassPath.slash_notMem_extension kind)
  obtain ⟨parent, hparent, hsteps, habs⟩ :=
    Path.exists_parent_steps hseg (ClassPath.isName_fileName _ kind).1
  obtain ⟨hsteps', habs'⟩ := steps_join_directory hrel root
  refine ⟨parent, hparent, ?_, hsteps.trans hsteps'.symm⟩
  rw [Bool.eq_iff_iff, habs, habs']

end FileTree

/-- **Names, packages and directories are three views of one path**, for every class name.

The class path has no dots. A slash in it, the last one, parts the directory, which the package
names, from the simple name; without a slash there is no package. If the name has no slashes of its
own, its last dot parts the package from the simple name.

So unless the class path is absolute, the directory above its source file is the one that the
package names, read from the source root: the two paths have the same place in every tree, and enter
the same directory there or are stopped for the same reason. -/
theorem ClassPath.ofName_threeViews (name : Text) :
    let path := ofName name
    '.' ∉ path ∧
    ('/' ∈ path → ofName path.package ++ '/' :: path.simpleName = path) ∧
    ('/' ∉ path → path.package = [] ∧ path.simpleName = path) ∧
    '/' ∉ path.simpleName ∧
    ('/' ∉ name →
      ('.' ∉ name → path.package = [] ∧ path.simpleName = name) ∧
      ∀ front last, name = front ++ '.' :: last → '.' ∉ last →
        path.package = front ∧ path.simpleName = last) ∧
    (Path.isAbsolute path = false → ∀ root kind, ∃ parent,
      (classFile root path kind).parent? = some parent ∧
      parent.SameWay (root.join (ofName path.package)) ∧
      ∀ t : FileTree,
        t.placeOf parent = t.placeOf (root.join (ofName path.package)) ∧
        t.enter (t.startOf parent) parent.segments =
          t.enter (t.startOf (root.join (ofName path.package)))
            (root.join (ofName path.package)).segments) := by
  intro path
  have hdot : '.' ∉ path := not_mem_ofName name
  have hpackage : ofName path.package = path.directory := ofName_package hdot
  refine ⟨hdot, fun hslash => ?_, fun hslash => ?_, not_mem_simpleName path, fun hname => ⟨?_, ?_⟩,
    fun hrel root kind => ?_⟩
  · rw [hpackage, directory_append hslash]
  · exact ⟨package_eq_nil hslash, simpleName_eq_self hslash⟩
  · intro hnone
    have hself : path = name := ofName_of_notMem hnone
    rw [hself]
    exact ⟨package_eq_nil hname, simpleName_eq_self hname⟩
  · rintro front last rfl hlast
    exact package_ofName hname hlast
  · obtain ⟨parent, hparent, hway⟩ := FileTree.exists_parent_classFile hrel root kind
    rw [hpackage]
    exact ⟨parent, hparent, hway, fun t =>
      ⟨FileTree.placeOf_of_sameWay hway t, FileTree.enter_of_sameWay hway t⟩⟩

/-- Behind two dots the simple name is empty, and the first of them belongs to the package. Its
directory, read from a root, is the one above the file. -/
theorem ClassPath.ofName_threeViews_trailingDots :
    let path := ofName "a..".toList
    path.package = "a.".toList ∧ path.simpleName = [] ∧
      ∃ parent, (classFile "s".toList path .java).parent? = some parent ∧
        parent.SameWay "s/a/".toList := by
  intro path
  obtain ⟨-, -, -, -, hname, hfile⟩ := ofName_threeViews "a..".toList
  obtain ⟨hpackage, hsimple⟩ := (hname (by decide)).2 "a.".toList [] rfl (by decide)
  obtain ⟨parent, hparent, hway, -⟩ := hfile (by decide) "s".toList .java
  have hdirectory : Path.join "s".toList (ofName path.package) = "s/a/".toList := by
    rw [show path.package = "a.".toList from hpackage]
    decide
  exact ⟨hpackage, hsimple, parent, hparent, hdirectory ▸ hway⟩

end SourceRecovery
