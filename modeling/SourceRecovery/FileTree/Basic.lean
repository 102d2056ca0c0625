import SourceRecovery.Text.Utf8

/-! # File trees

A **file tree** says which **node** is at which **location**: a file with its bytes, a directory,
or the null device, which reads as empty and swallows what is written to it. A location is the
list of the names on the way down from the root directory, which always exists. The tree also
knows the **working directory**, from which relative paths are read.

Nothing else is in a tree. There are no links, pipes, sockets or other devices, and no permissions:
whoever walks, reads or writes may do so, and nobody else changes the tree meanwhile. So wherever
all causes of a failure are listed, in a statement about a run or a walk, these are the causes that
arise from directories, regular files, the null device and the lengths of names and paths.

Everything a program can see of a tree it sees through **`FileTree.node?`**; each of the four
changes below is described by one equation on it. -/

namespace SourceRecovery

/-- The names on the way from the root directory down to a file or directory. -/
abbrev Location := List Text

/-- What is at a location. -/
inductive Node where
  /-- A regular file. -/
  | file (contents : Bytes)
  /-- A directory. -/
  | directory
  /-- The null device. -/
  | nullDevice
deriving Repr, DecidableEq

/-- A **file tree** with a working directory. -/
structure FileTree where
  /-- The nodes below the root directory with their locations. -/
  entries : List (Location × Node)
  /-- The directory from which relative paths are read. -/
  workingDirectory : Location
deriving Repr, DecidableEq

namespace FileTree

/-- The node at a location. -/
def node? (t : FileTree) (l : Location) : Option Node :=
  if l = [] then some .directory else t.entries.lookup l

@[simp] theorem node?_nil (t : FileTree) : t.node? [] = some .directory := by simp [node?]

/-- Whether a directory is at the location. -/
def hasDirectory (t : FileTree) (l : Location) : Bool := t.node? l == some .directory

/-! ## Changes -/

/-- Puts a node at a location in a list of entries, in the place of what was there or behind all
others. -/
def putEntry (l : Location) (n : Node) : List (Location × Node) → List (Location × Node)
  | [] => [(l, n)]
  | e :: es => if e.1 = l then (l, n) :: es else e :: putEntry l n es

/-- The tree with a node put at a location. -/
def put (t : FileTree) (l : Location) (n : Node) : FileTree :=
  { t with entries := putEntry l n t.entries }

/-- The tree without the node at a location. -/
def remove (t : FileTree) (l : Location) : FileTree :=
  { t with entries := t.entries.filter (·.1 ≠ l) }

/-- Where a location comes to lie when `source` and all below it go to `target`. -/
def displace (source target l : Location) : Location :=
  match source.isPrefixOf? l with
  | some below => target ++ below
  | none => l

/-- Where what is at a location came from when `source` and all below it went to `target`. Nothing
is left at `source` and below it. -/
def origin? (source target l : Location) : Option Location :=
  match target.isPrefixOf? l with
  | some below => some (source ++ below)
  | none => if source <+: l then none else some l

/-- The tree in which the node at `source`, with all below it, has taken the place of what was at
`target`. -/
def move (t : FileTree) (source target : Location) : FileTree :=
  { t with
    entries := (t.entries.filter (·.1 ≠ target)).map fun e => (displace source target e.1, e.2) }

/-- The locations of the directories above a location, from the top, without the root. -/
def above (l : Location) : List Location := (List.range (l.length - 1)).map fun n => l.take (n + 1)

/-- The tree with a directory at a location, unless something is there. -/
def fill (t : FileTree) (l : Location) : FileTree :=
  if (t.node? l).isSome then t else t.put l .directory

/-- The tree with a node put at a location, and directories made above it where nothing is. -/
def putWithParents (t : FileTree) (l : Location) (n : Node) : FileTree :=
  ((above l).foldl fill t).put l n

/-! ## Reading a tree after a change -/

/-- A lookup compares with the first entry and goes on. -/
theorem lookup_entry (k l : Location) (n : Node) (es : List (Location × Node)) :
    List.lookup k ((l, n) :: es) = if k = l then some n else es.lookup k := by
  by_cases h : k = l
  · simp [h]
  · have : (k == l) = false := by simpa using h
    simp [List.lookup_cons, this, h]

/-- After putting a node at a location, that is what is found there, and elsewhere nothing has
changed. -/
theorem lookup_putEntry (l k : Location) (n : Node) (es : List (Location × Node)) :
    (putEntry l n es).lookup k = if k = l then some n else es.lookup k := by
  induction es with
  | nil => simp [putEntry, lookup_entry]
  | cons e es ih =>
    obtain ⟨m, n'⟩ := e
    by_cases hm : m = l
    · subst hm
      by_cases hk : k = m <;> simp [putEntry, lookup_entry, hk]
    · by_cases hk : k = l
      · subst hk
        simp [putEntry, lookup_entry, hm, Ne.symm hm, ih]
      · simp [putEntry, lookup_entry, hm, hk, ih]

/-- After putting a node, it is at its location and all else is as before. -/
theorem node?_put (t : FileTree) {l : Location} (hl : l ≠ []) (n : Node) (k : Location) :
    (t.put l n).node? k = if k = l then some n else t.node? k := by
  simp only [node?, put, lookup_putEntry]
  by_cases hk : k = []
  · subst hk
    simp [Ne.symm hl]
  · simp [hk]

/-- After removing a location, nothing is found there, and elsewhere nothing has changed. -/
theorem lookup_filter_ne (l k : Location) (es : List (Location × Node)) :
    (es.filter (·.1 ≠ l)).lookup k = if k = l then none else es.lookup k := by
  induction es with
  | nil => simp
  | cons e es ih =>
    obtain ⟨m, n⟩ := e
    by_cases hm : m = l
    · subst hm
      rw [List.filter_cons_of_neg (by simp), ih, lookup_entry]
      by_cases hk : k = m <;> simp [hk]
    · rw [List.filter_cons_of_pos (by simpa using hm), lookup_entry, lookup_entry, ih]
      by_cases hk : k = m
      · subst hk
        simp [hm]
      · simp [hk]

/-- After removing a node, nothing is at its location and all else is as before. -/
theorem node?_remove (t : FileTree) {l : Location} (hl : l ≠ []) (k : Location) :
    (t.remove l).node? k = if k = l then none else t.node? k := by
  simp only [node?, remove, lookup_filter_ne]
  by_cases hk : k = []
  · subst hk
    simp [Ne.symm hl]
  · simp [hk]

/-- The root directory is above every location, but not among those that have to be made. -/
theorem nil_notMem_above (l : Location) : [] ∉ above l := by
  simp only [above, List.mem_map, List.mem_range, List.take_eq_nil_iff, not_exists, not_and]
  rintro n hn (h | rfl)
  · cases h
  · simp at hn

/-- Filling several locations puts a directory at each of them that has no node. -/
theorem node?_foldl_fill (t : FileTree) {ls : List Location} (h : [] ∉ ls) (k : Location) :
    (ls.foldl fill t).node? k =
      if k ∈ ls then (t.node? k).or (some .directory) else t.node? k := by
  induction ls generalizing t with
  | nil => simp
  | cons l ls ih =>
    simp only [List.mem_cons, not_or] at h
    -- One location first: it is not the root, so that a node can be put there.
    have hl : (t.fill l).node? k =
        if k = l then (t.node? k).or (some .directory) else t.node? k := by
      rw [fill]
      split
      · next hsome =>
        obtain ⟨n, hn⟩ := Option.isSome_iff_exists.1 hsome
        split
        · next hk => rw [hk, hn, Option.some_or]
        · rfl
      · next hnone =>
        rw [node?_put t (Ne.symm h.1)]
        split
        · next hk =>
          rw [hk, Option.not_isSome_iff_eq_none.1 hnone, Option.none_or]
        · rfl
    rw [List.foldl_cons, ih _ h.2, hl]
    by_cases hk : k = l <;> by_cases hks : k ∈ ls <;> simp [hk, hks]

/-- After putting a node with the directories above it, it is at its location, a directory is
above it wherever nothing was, and all else is as before. -/
theorem node?_putWithParents (t : FileTree) {l : Location} (hl : l ≠ []) (n : Node) (k : Location) :
    (t.putWithParents l n).node? k =
      if k = l then some n
      else if k ∈ above l then (t.node? k).or (some .directory)
      else t.node? k := by
  rw [putWithParents, node?_put _ hl, node?_foldl_fill t (nil_notMem_above l)]

/-- Displacing and looking for the origin undo each other, away from `target`. -/
theorem origin?_eq_some_iff {source target k m : Location} (hm : ¬ target <+: m) :
    origin? source target k = some m ↔ k = displace source target m := by
  constructor
  · intro h
    simp only [origin?] at h
    split at h
    · next below hb =>
      obtain rfl := Option.some.inj h
      rw [Text.isPrefixOf?_eq_some_iff.1 hb]
      simp [displace, Text.isPrefixOf?_eq_some_iff.2]
    · split at h
      · cases h
      · next hs =>
        obtain rfl := Option.some.inj h
        simp [displace, Text.isPrefixOf?_eq_none_iff.2 hs]
  · rintro rfl
    simp only [displace]
    split
    · next below hb =>
      simp [origin?, Text.isPrefixOf?_eq_some_iff.1 hb, Text.isPrefixOf?_eq_some_iff.2]
    · next hb =>
      simp [origin?, Text.isPrefixOf?_eq_none_iff.2 hm, Text.isPrefixOf?_eq_none_iff.1 hb]

/-- After displacing all entries, what is found at a location is what was at its origin. -/
theorem lookup_map_displace {source target : Location} (es : List (Location × Node))
    (h : ∀ e ∈ es, ¬ target <+: e.1) (k : Location) :
    (es.map fun e => (displace source target e.1, e.2)).lookup k =
      (origin? source target k).bind fun m => es.lookup m := by
  induction es with
  | nil => simp
  | cons e es ih =>
    obtain ⟨m, n⟩ := e
    have hm : origin? source target k = some m ↔ k = displace source target m :=
      origin?_eq_some_iff (h (m, n) (by simp))
    rw [List.map_cons, lookup_entry, ih fun e he => h e (by simp [he])]
    cases ho : origin? source target k with
    | none => simp [← hm, ho]
    | some o => simp [← hm, ho, lookup_entry]

/-- After a move, what is at a location is what was at its origin. Nothing may be below the
target, and the target must not lie below the source. -/
theorem node?_move (t : FileTree) {source target : Location} (ht : target ≠ [])
    (hst : ¬ source <+: target) (h : ∀ e ∈ t.entries, target <+: e.1 → e.1 = target)
    (k : Location) :
    (t.move source target).node? k = (origin? source target k).bind t.node? := by
  have hs : source ≠ [] := by
    rintro rfl
    exact hst (List.nil_prefix)
  by_cases hk : k = []
  · subst hk
    simp [origin?, Text.isPrefixOf?_eq_none_iff.2, ht, hs]
  have away : ∀ e ∈ t.entries.filter (·.1 ≠ target), ¬ target <+: e.1 := by
    intro e he hp
    rw [List.mem_filter] at he
    exact (by simpa using he.2 : e.1 ≠ target) (h e he.1 hp)
  simp only [node?, move, if_neg hk, lookup_map_displace _ away, lookup_filter_ne]
  -- Every origin is below the root and is not the target.
  cases ho : origin? source target k with
  | none => rfl
  | some m =>
    have hm : m ≠ [] ∧ m ≠ target := by
      simp only [origin?] at ho
      split at ho
      · obtain rfl := Option.some.inj ho
        refine ⟨by simp [hs], ?_⟩
        rintro rfl
        exact hst (List.prefix_append ..)
      · next hp =>
        split at ho
        · cases ho
        · obtain rfl := Option.some.inj ho
          refine ⟨hk, ?_⟩
          rintro rfl
          exact Text.isPrefixOf?_eq_none_iff.1 hp (List.prefix_refl _)
    simp only [Option.bind_some, node?, if_neg hm.1, if_neg hm.2]

/-! ## The working directory -/

@[simp] theorem workingDirectory_put (t : FileTree) (l : Location) (n : Node) :
    (t.put l n).workingDirectory = t.workingDirectory := rfl

@[simp] theorem workingDirectory_remove (t : FileTree) (l : Location) :
    (t.remove l).workingDirectory = t.workingDirectory := rfl

@[simp] theorem workingDirectory_move (t : FileTree) (a b : Location) :
    (t.move a b).workingDirectory = t.workingDirectory := rfl

end FileTree

end SourceRecovery
