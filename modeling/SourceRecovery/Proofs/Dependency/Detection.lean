import SourceRecovery.Proofs.Dependency.Record
import SourceRecovery.Proofs.Dependency.Walk

/-! # What is detected in a tree

The events that a walk gives occasion for are those of the source files that it comes to
(`FileTree.ComesTo`) and of the directories that refuse it (`FileTree.IsRefused`). What is detected
follows from them, and so does not depend on the order of the walk.

* **`FileTree.mem_occasions_iff`** — the events that a walk gives occasion for.
* **`FileTree.detect_perm`** — what is detected in a tree, in whatever order it is walked. -/

namespace SourceRecovery

namespace FileTree

open Detection

variable {t : FileTree} {root path : Path} {l : Location} {kind : SourceKind} {b : Bytes}
  {items : List WalkItem} {e : Event} {cause : IoError}

/-! ## Detecting in a tree -/

/-- A walk from `root` **comes to a source file**: a regular file at or below the root has the
extension of the kind, and the directory that it is in can be entered. The walk spells it `path`. -/
def ComesTo (t : FileTree) (root : Path) (kind : SourceKind) (path : Path) (b : Bytes) : Prop :=
  ∃ l below name, t.resolve root = .ok l ∧ t.node? (l ++ below) = some (.file b) ∧
    (l ++ below).getLast? = some name ∧ Path.extension? name = some kind.extension ∧
    IsReached root below ∧ path = root.down below

/-- A walk from `root` **is refused by a directory**, the path of which, as the walk spells it, is
too long. -/
def IsRefused (t : FileTree) (root path : Path) : Prop :=
  ∃ l below, t.resolve root = .ok l ∧ t.node? (l ++ below) = some .directory ∧
    IsReached root below ∧ path.isTooLong = true ∧ path = root.down below

/-- The kind of a source file is read off the extension of the last name of its path. -/
theorem kindOf?_eq_some_iff :
    kindOf? path = some kind ↔
      ∃ name, path.segments.getLast? = some name ∧
        Path.extension? name = some kind.extension := by
  simp [kindOf?, Option.bind_eq_some_iff, SourceKind.ofExtension?_eq_some_iff]

/-- **The source files that a walk comes to** are the source files among its items. -/
theorem file_mem_walk_iff (ht : t.IsSound) :
    .file path ∈ t.walk root ∧ kindOf? path = some kind ↔ ∃ b, t.ComesTo root kind path b := by
  cases hres : t.resolve root with
  | error e => simp [ComesTo, walk, hres]
  | ok l =>
    rw [mem_walk_iff ht hres, kindOf?_eq_some_iff]
    constructor
    · rintro ⟨⟨below, n, hn, hitem⟩, name, hname, hext⟩
      obtain ⟨hreached, ⟨b, rfl, hpath⟩ | ⟨-, -, hpath⟩⟩ := walkItem?_eq_some_iff.1 hitem
      · obtain rfl := WalkItem.file.inj hpath
        rw [getLast?_segments_down ht hres hn] at hname
        exact ⟨b, l, below, name, hres, hn, hname, hext, hreached, rfl⟩
      · cases hpath
    · rintro ⟨b, l', below, name, hres', hn, hname, hext, hreached, rfl⟩
      obtain rfl := Except.ok.inj (hres.symm.trans hres')
      have hitem := walkItem?_eq_some_iff.2 ⟨hreached, .inl ⟨b, rfl, rfl⟩⟩
      refine ⟨⟨below, _, hn, hitem⟩, name, ?_, hext⟩
      rw [getLast?_segments_down ht hres hn, hname]

/-- A file that the walk comes to can be read, unless its path is too long. -/
theorem read_of_comesTo (ht : t.IsSound) (h : t.ComesTo root kind path b) :
    t.read path = if path.isTooLong then .error .nameTooLong else .ok b := by
  obtain ⟨l, below, name, hres, hfile, -, -, -, rfl⟩ := h
  exact read_down ht hres hfile

/-- **What refuses a walk** is its start, if it leads nowhere, or a directory below it. -/
theorem unreadable_mem_walk_iff (ht : t.IsSound) :
    .unreadable path cause ∈ t.walk root ↔
      path = root ∧ t.resolve root = .error cause ∨
        t.IsRefused root path ∧ cause = .nameTooLong := by
  cases hres : t.resolve root with
  | error e =>
    have hwalk : t.walk root = [.unreadable root e] := by rw [walk, hres]
    simp [hwalk, IsRefused, hres, eq_comm (a := e)]
  | ok l =>
    simp only [mem_walk_iff ht hres, walkItem?_eq_some_iff, IsRefused, hres]
    constructor
    · rintro ⟨below, n, hn, hreached, ⟨b, -, hpath⟩ | ⟨rfl, hlong, hpath⟩⟩
      · cases hpath
      · obtain ⟨rfl, rfl⟩ := WalkItem.unreadable.inj hpath
        exact .inr ⟨⟨l, below, rfl, hn, hreached, hlong, rfl⟩, rfl⟩
    · rintro (⟨-, h⟩ | ⟨⟨l', below, h, hn, hreached, hlong, rfl⟩, rfl⟩)
      · cases h
      · obtain rfl := Except.ok.inj h
        exact ⟨below, _, hn, hreached, .inr ⟨rfl, hlong, rfl⟩⟩

/-- The events that a source file gives occasion for, once the walk has come to it. -/
theorem mem_fileOccasions_iff (ht : t.IsSound) (h : t.ComesTo root kind path b) :
    e ∈ fileOccasions t path kind ↔
      kind = .kotlin ∧ e = .kotlinFound ∨
      path.isTooLong = true ∧ e = .unreadableFile path .nameTooLong ∨
      path.isTooLong = false ∧
        ∃ r ∈ Rule.marked, r.matchesText (Utf8.decodeLossy b) = true ∧ e = .markerFound r := by
  have hkotlin : e ∈ (if kind = .kotlin then [Event.kotlinFound] else []) ↔
      kind = .kotlin ∧ e = .kotlinFound := by
    split_ifs with hk <;> simp [hk]
  rw [fileOccasions, List.mem_append, hkotlin, read_of_comesTo ht h]
  refine or_congr_right ?_
  cases path.isTooLong with
  | true => simp
  | false =>
    simp only [Bool.false_eq_true, if_false, List.mem_map, List.mem_filter]
    constructor
    · rintro ⟨r, ⟨hr, hmatches⟩, rfl⟩
      exact .inr ⟨trivial, r, hr, hmatches, rfl⟩
    · rintro (⟨h, -⟩ | ⟨-, r, hr, hmatches, rfl⟩)
      · exact h.elim
      · exact ⟨r, ⟨hr, hmatches⟩, rfl⟩

/-- **The events that a walk gives occasion for**: one for each item that cannot be read, and those
of each source file that it comes to. -/
theorem mem_occasions_iff (ht : t.IsSound) :
    e ∈ (t.walk root).flatMap (occasions t) ↔
      (∃ path cause, .unreadable path cause ∈ t.walk root ∧ e = .unreadableEntry path cause) ∨
      ∃ kind path b, t.ComesTo root kind path b ∧
        (kind = .kotlin ∧ e = .kotlinFound ∨
        path.isTooLong = true ∧ e = .unreadableFile path .nameTooLong ∨
        path.isTooLong = false ∧
          ∃ r ∈ Rule.marked, r.matchesText (Utf8.decodeLossy b) = true ∧ e = .markerFound r) := by
  rw [List.mem_flatMap]
  constructor
  · rintro ⟨item, hitem, he⟩
    cases item with
    | unreadable path cause => exact .inl ⟨path, cause, hitem, List.mem_singleton.1 he⟩
    | file path =>
      rw [occasions] at he
      cases hkind : kindOf? path with
      | none => simp [hkind] at he
      | some kind =>
        simp only [hkind] at he
        obtain ⟨b, hb⟩ := (file_mem_walk_iff ht).1 ⟨hitem, hkind⟩
        exact .inr ⟨kind, path, b, hb, (mem_fileOccasions_iff ht hb).1 he⟩
  · rintro (⟨path, cause, hitem, rfl⟩ | ⟨kind, path, b, hb, he⟩)
    · exact ⟨_, hitem, List.mem_singleton_self _⟩
    · obtain ⟨hitem, hkind⟩ := (file_mem_walk_iff ht).2 ⟨b, hb⟩
      refine ⟨_, hitem, ?_⟩
      simpa only [occasions, hkind] using (mem_fileOccasions_iff ht hb).2 he

/-! What this says about each kind of event. -/

/-- The walk gives occasion to report Kotlin exactly if it comes to a Kotlin file, read or not. -/
theorem kotlinFound_mem_occasions_iff (ht : t.IsSound) :
    .kotlinFound ∈ (t.walk root).flatMap (occasions t) ↔
      ∃ path b, t.ComesTo root .kotlin path b := by
  simp only [mem_occasions_iff ht, reduceCtorEq, and_false, and_true, exists_false, false_or,
    or_false]
  exact ⟨fun ⟨_, path, b, hb, hkind⟩ => ⟨path, b, hkind ▸ hb⟩,
    fun ⟨path, b, hb⟩ => ⟨.kotlin, path, b, hb, rfl⟩⟩

/-- The walk gives occasion to report a rule exactly if it comes to a source file that can be read
and that the rule matches. -/
theorem markerFound_mem_occasions_iff (ht : t.IsSound) {r : Rule} :
    .markerFound r ∈ (t.walk root).flatMap (occasions t) ↔
      r ∈ Rule.marked ∧ ∃ kind path b, t.ComesTo root kind path b ∧ path.isTooLong = false ∧
        r.matchesText (Utf8.decodeLossy b) = true := by
  simp only [mem_occasions_iff ht, reduceCtorEq, and_false, exists_false, false_or,
    Event.markerFound.injEq]
  constructor
  · rintro ⟨kind, path, b, hb, hlong, r, hr, hmatches, rfl⟩
    exact ⟨hr, kind, path, b, hb, hlong, hmatches⟩
  · rintro ⟨hr, kind, path, b, hb, hlong, hmatches⟩
    exact ⟨kind, path, b, hb, hlong, r, hr, hmatches, rfl⟩

/-- The walk warns of an entry exactly if it is the root, which cannot be resolved, or a directory
whose path is too long. -/
theorem unreadableEntry_mem_occasions_iff (ht : t.IsSound) :
    .unreadableEntry path cause ∈ (t.walk root).flatMap (occasions t) ↔
      path = root ∧ t.resolve root = .error cause ∨
        t.IsRefused root path ∧ cause = .nameTooLong := by
  simp [mem_occasions_iff ht, ← unreadable_mem_walk_iff ht]

/-- The walk warns of a file exactly if it comes to a source file whose path is too long. -/
theorem unreadableFile_mem_occasions_iff (ht : t.IsSound) :
    .unreadableFile path cause ∈ (t.walk root).flatMap (occasions t) ↔
      (∃ kind b, t.ComesTo root kind path b) ∧ path.isTooLong = true ∧ cause = .nameTooLong := by
  simp only [mem_occasions_iff ht, reduceCtorEq, and_false, exists_false, false_or, or_false,
    Event.unreadableFile.injEq]
  constructor
  · rintro ⟨kind, path, b, hb, hlong, rfl, rfl⟩
    exact ⟨⟨kind, b, hb⟩, hlong, rfl⟩
  · rintro ⟨⟨kind, b, hb⟩, hlong, rfl⟩
    exact ⟨kind, path, b, hb, hlong, rfl, rfl⟩

/-- **What is detected does not depend on the order of the walk**, for every tree as a system keeps
it, every start and every order of the items of the walk.

The rules detected are the same in each order, and they are in the order of the rules. The coroutine
library is among them exactly if the walk comes to a Kotlin file, and any other rule exactly if its
marker occurs in the text of a source file that the walk comes to and that can be read.

What is reported is the same in each order too, but for its own order. The Kotlin files are
reported once if there are any, each rule but the coroutine library once if it is detected. There is
a warning if the start leads nowhere, one for each directory that refuses the walk, one for each
source file that the walk comes to and whose path is too long to read it, and no other. The log has
the line of each of them (`reportLines`), and no other. -/
theorem detect_perm (ht : t.IsSound) (hitems : items.Perm (t.walk root)) :
    let found := ofItems t items
    found.detected = (t.detect root).detected ∧
    found.detected.Sublist Rule.all ∧
    (Rule.kotlin ∈ found.detected ↔ ∃ path b, t.ComesTo root .kotlin path b) ∧
    (∀ r ∈ Rule.marked, r ∈ found.detected ↔ ∃ kind path b, t.ComesTo root kind path b ∧
      path.isTooLong = false ∧ r.matchesText (Utf8.decodeLossy b) = true) ∧
    (found.events.map Event.line).Perm ((t.detect root).events.map Event.line) ∧
    found.events.Nodup ∧
    (.kotlinFound ∈ found.events ↔ Rule.kotlin ∈ found.detected) ∧
    (∀ r, .markerFound r ∈ found.events ↔ r ∈ found.detected ∧ r ≠ Rule.kotlin) ∧
    (∀ path cause, .unreadableEntry path cause ∈ found.events ↔
      path = root ∧ t.resolve root = .error cause ∨
        t.IsRefused root path ∧ cause = .nameTooLong) ∧
    (∀ path cause, .unreadableFile path cause ∈ found.events ↔
      (∃ kind b, t.ComesTo root kind path b) ∧ path.isTooLong = true ∧ cause = .nameTooLong) ∧
    ∃ (refused : List (Path × IoError)) (unread : List Path), refused.Nodup ∧ unread.Nodup ∧
      (∀ path cause, (path, cause) ∈ refused ↔
        path = root ∧ t.resolve root = .error cause ∨
          t.IsRefused root path ∧ cause = .nameTooLong) ∧
      (∀ path, path ∈ unread ↔
        (∃ kind b, t.ComesTo root kind path b) ∧ path.isTooLong = true) ∧
      (found.events.map Event.line).Perm (reportLines found.detected refused unread) := by
  intro found
  have hrecord : IsRecord found (items.flatMap (occasions t)) :=
    isRecord_ofItems (hitems.nodup_iff.2 (nodup_walk ht root))
  have hrecord' : IsRecord (t.detect root) ((t.walk root).flatMap (occasions t)) :=
    isRecord_ofItems (nodup_walk ht root)
  -- Both walks come to the same items, and so they give occasion for the same events.
  have hnoted : ∀ e, e ∈ items.flatMap (occasions t) ↔ e ∈ (t.walk root).flatMap (occasions t) := by
    intro e
    simp only [List.mem_flatMap, hitems.mem_iff]
  have hevents : ∀ e, e ∈ found.events ↔ e ∈ (t.walk root).flatMap (occasions t) := by
    intro e
    rw [hrecord.mem_events, hnoted]
  have hmarked : ∀ r, .markerFound r ∈ found.events → r ∈ Rule.marked := fun r he =>
    ((markerFound_mem_occasions_iff ht).1 ((hevents _).1 he)).1
  have hentries : ∀ path cause, .unreadableEntry path cause ∈ found.events ↔
      path = root ∧ t.resolve root = .error cause ∨
        t.IsRefused root path ∧ cause = .nameTooLong := by
    intro path cause
    rw [hevents, unreadableEntry_mem_occasions_iff ht]
  have hfiles : ∀ path cause, .unreadableFile path cause ∈ found.events ↔
      (∃ kind b, t.ComesTo root kind path b) ∧ path.isTooLong = true ∧ cause = .nameTooLong := by
    intro path cause
    rw [hevents, unreadableFile_mem_occasions_iff ht]
  refine ⟨hrecord.detected_eq hrecord' hnoted, detected_sublist found, ?_, ?_, ?_, hrecord.nodup,
    hrecord.kotlinFound_mem_iff, hrecord.markerFound_mem_iff hmarked, hentries, hfiles, ?_⟩
  · rw [kotlin_mem_detected, hrecord.kotlin_iff, hevents, kotlinFound_mem_occasions_iff ht]
  · intro r hr
    rw [mem_detected_of_mem_marked found hr, hrecord.mem_rules, hevents,
      markerFound_mem_occasions_iff ht, and_iff_right hr]
  · refine List.Perm.map _ ((List.perm_ext_iff_of_nodup hrecord.nodup hrecord'.nodup).2 fun e => ?_)
    rw [hevents, hrecord'.mem_events]
  · obtain ⟨refused, unread, hnodup, hnodup', hrefused, hunread, hlines⟩ :=
      hrecord.exists_perm_reportLines hmarked fun path cause he => ((hfiles path cause).1 he).2.2
    refine ⟨refused, unread, hnodup, hnodup', fun path cause => ?_, fun path => ?_, hlines⟩
    · rw [hrefused, hentries]
    · rw [hunread, hfiles, and_iff_left rfl]

/-- A source root with a Kotlin file that uses one library and a Java file that uses another. -/
def twoSources : FileTree where
  entries := [(["s".toList], .directory),
    (["s".toList, "A.kt".toList], .file (Utf8.encode "import androidx.room.Room;".toList)),
    (["s".toList, "B.java".toList], .file (Utf8.encode "import retrofit2.Retrofit;".toList))]
  workingDirectory := []

/-- Walked backwards, the two files show the same rules, the coroutine library among them. Their
lines come in the order of the walk, and are those that are due. -/
theorem detect_perm_twoSources :
    let found := ofItems twoSources (twoSources.walk "s".toList).reverse
    found.detected = (twoSources.detect "s".toList).detected ∧ found.events.Nodup ∧
      Rule.kotlin ∈ found.detected ∧
      found.events.map Event.line =
        [⟨.info, "Pattern 'retrofit2' detected for retrofit2.".toList⟩,
          ⟨.info, "Kotlin sources detected.".toList⟩,
          ⟨.info, "Pattern 'androidx\\.room' detected for room.".toList⟩] ∧
      ∃ refused unread, (found.events.map Event.line).Perm
        (reportLines found.detected refused unread) := by
  obtain ⟨hdetected, -, hkotlin, -, -, hnodup, -, -, -, -, refused, unread, -, -, -, -, hlines⟩ :=
    detect_perm (t := twoSources) (by decide +kernel)
      (List.reverse_perm (twoSources.walk "s".toList))
  have hcomes : twoSources.ComesTo "s".toList .kotlin "s/A.kt".toList
      (Utf8.encode "import androidx.room.Room;".toList) :=
    ⟨["s".toList], ["A.kt".toList], "A.kt".toList, by decide, by decide, by decide, by decide,
      by unfold IsReached; decide, by decide⟩
  exact ⟨hdetected, hnodup, hkotlin.2 ⟨_, _, hcomes⟩, by decide +kernel, refused, unread, hlines⟩

/-- A source root of one name, spelled with so many dots in front of it that the path of a file in
it is too long. -/
def dottedRoot : Path := (List.replicate 2045 "./".toList).flatten ++ "s".toList

/-- A source root with one Kotlin file, which uses a library. -/
def oneSource : FileTree where
  entries := [(["s".toList], .directory),
    (["s".toList, "A.kt".toList], .file (Utf8.encode "import retrofit2.Retrofit;".toList))]
  workingDirectory := []

/-- **A marker in a file at or below the start is not always found**, and a start that leads to a
directory is no reason for no warning: the path that a walk spells for the file may be too long to
read it. -/
theorem detect_oneSource :
    oneSource.IsSound ∧ oneSource.resolve dottedRoot = .ok ["s".toList] ∧
      (∃ b, oneSource.node? ["s".toList, "A.kt".toList] = some (.file b) ∧
        ∃ r ∈ Rule.marked, r.matchesText (Utf8.decodeLossy b) = true ∧
          r ∉ (oneSource.detect dottedRoot).detected) ∧
      ∃ e ∈ (oneSource.detect dottedRoot).events, e.isWarning = true := by
  obtain ⟨hdetected, hwarning⟩ : (oneSource.detect dottedRoot).detected = [Rule.kotlin] ∧
      (oneSource.detect dottedRoot).events.any Event.isWarning = true := by
    decide +kernel
  refine ⟨by decide +kernel, by decide +kernel,
    ⟨_, rfl, Rule.marked.head (by decide), by simp, by decide +kernel, ?_⟩,
    List.any_eq_true.1 hwarning⟩
  rw [hdetected]
  decide

end FileTree

end SourceRecovery
