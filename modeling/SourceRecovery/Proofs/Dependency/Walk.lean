import SourceRecovery.FileTree.Walk
import SourceRecovery.Proofs.FileTree.Contents
import SourceRecovery.Proofs.Relocation.Site

/-! # What a walk comes across

In a tree as a system keeps it (`FileTree.IsSound`), a walk comes across each regular file at or
below its start once, under the path that it spells for it (`Path.down`), unless the path of a
directory on the way is too long to be entered.

* **`FileTree.mem_walk_iff`**, **`FileTree.nodup_walk`** — the items of a walk.
* **`FileTree.read_down`** — a file that a walk comes across is read, unless its path is too
  long. -/

namespace SourceRecovery

/-! ## Paths below a path -/

namespace Path

variable {p q root : Path} {s : Text} {below : List Text} {c : Char}

/-- The path of what is at the names `below` a path, as a walk spells it. -/
def down (root : Path) (below : List Text) : Path := below.foldl join root

@[simp] theorem down_nil (root : Path) : root.down [] = root := rfl

/-- A segment is not an absolute path. -/
theorem isAbsolute_eq_false (h : '/' ∉ s) : isAbsolute s = false := by
  cases s with
  | nil => rfl
  | cons c s =>
    have hc : c ≠ '/' := fun hc => h (by simp [hc])
    simp [isAbsolute, hc]

/-- Whether texts are names that a path can be made of. -/
def AreNames (below : List Text) : Prop := ∀ s ∈ below, s ≠ [] ∧ '/' ∉ s

/-- Names with slashes between them make a path that neither begins nor ends with a slash. -/
theorem join_names (hne : below ≠ []) (h : AreNames below) :
    isAbsolute (Text.join ['/'] below) = false ∧ Text.join ['/'] below ≠ [] ∧
      hasTrailingSlash (Text.join ['/'] below) = false := by
  have hseg := segments_join (fun s hs => (h s hs).2) hne
  have hne' : Text.join ['/'] below ≠ [] := by
    intro hnil
    rw [hnil] at hseg
    have hnil' : segments [] = [[]] := by decide
    rw [hnil'] at hseg
    exact (h [] (by rw [← hseg]; simp)).1 rfl
  refine ⟨?_, hne', ?_⟩
  · rw [← Bool.not_eq_true, isAbsolute_iff hne', hseg]
    intro hhead
    exact (h [] (List.mem_of_mem_head? hhead)).1 rfl
  · obtain ⟨init, s, rfl⟩ := List.eq_nil_or_concat below |>.resolve_left hne
    rw [List.concat_eq_append] at hseg h ⊢
    exact hasTrailingSlash_eq_false hseg (h s (by simp)).1

/-- Names read from a path one after the other stand behind it with slashes between them. -/
theorem down_eq (hne : below ≠ []) (h : AreNames below) (root : Path) :
    root.down below = root.join (Text.join ['/'] below) := by
  -- From behind: each name is joined to the path of those in front of it.
  induction below using List.reverseRecOn with
  | nil => exact absurd rfl hne
  | append_singleton below s ih =>
    have hs : isAbsolute s = false := isAbsolute_eq_false (h s (by simp)).2
    rcases eq_or_ne below [] with rfl | hbelow
    · simp [down, Text.join, List.intercalate]
    · have hnames : AreNames below := fun a ha => h a (by simp [ha])
      obtain ⟨habs, hne', hlast⟩ := join_names hbelow hnames
      obtain ⟨habs', -, -⟩ := join_names hne h
      have hlast' : (root.front ++ Text.join ['/'] below).getLast? ≠ some '/' := by
        rw [List.getLast?_append_of_ne_nil _ hne']
        simpa [hasTrailingSlash] using hlast
      have hdown : root.down (below ++ [s]) = (root.down below).join s := by
        simp [down, List.foldl_append]
      rw [hdown, ih hbelow hnames, join_eq_front habs, join_eq_front hs, join_eq_front habs',
        join_concat hbelow, front, if_neg (by simp [hne']), if_neg hlast']
      simp

/-- The characters of a joined path are those of its parts, and perhaps the slash between them. -/
theorem mem_join (h : c ∈ p.join q) : c ∈ p ∨ c ∈ q ∨ c = '/' := by
  by_cases hq : q.isAbsolute = true
  · rw [join_of_isAbsolute hq] at h
    exact .inr (.inl h)
  · rw [join_eq_front (by simpa using hq), List.mem_append] at h
    rcases h with h | h
    · rcases mem_front h with h | h
      · exact .inl h
      · exact .inr (.inr h)
    · exact .inr (.inl h)

/-- A path below a path holds nothing but slashes and the characters of both. -/
theorem mem_down (h : c ∈ root.down below) : c ∈ root ∨ c = '/' ∨ ∃ s ∈ below, c ∈ s := by
  induction below generalizing root with
  | nil => exact .inl h
  | cons s below ih =>
    rcases ih h with h | h | ⟨a, ha, hc⟩
    · rcases mem_join h with h | h | h
      · exact .inl h
      · exact .inr (.inr ⟨s, List.mem_cons_self, h⟩)
      · exact .inr (.inl h)
    · exact .inr (.inl h)
    · exact .inr (.inr ⟨a, List.mem_cons_of_mem _ ha, hc⟩)

/-- **The paths of different names below a path differ.** -/
theorem down_injective (root : Path) {below' : List Text} (hne : below ≠ []) (h : AreNames below)
    (hne' : below' ≠ []) (h' : AreNames below') (heq : root.down below = root.down below') :
    below = below' := by
  rw [down_eq hne h, down_eq hne' h', join_eq_front (join_names hne h).1,
    join_eq_front (join_names hne' h').1] at heq
  have hjoin := congrArg segments (List.append_cancel_left heq)
  rwa [segments_join (fun s hs => (h s hs).2) hne,
    segments_join (fun s hs => (h' s hs).2) hne'] at hjoin

end Path

namespace FileTree

variable {t : FileTree} {root : Path} {l k : Location} {below : List Text} {s : Text} {n : Node}
  {b : Bytes} {item : WalkItem}

/-- A tree **as a system keeps it**: whatever is somewhere lies in a directory, nothing is listed
twice, and each name is one that a directory entry can have. -/
structure IsSound (t : FileTree) : Prop where
  /-- Whatever is somewhere lies in a directory. -/
  closed : t.IsClosed
  /-- No location is listed twice. -/
  nodup : (t.entries.map (·.1)).Nodup
  /-- No name is idle or two dots. -/
  isName : ∀ e ∈ t.entries, ∀ s ∈ e.1, IsName s
  /-- No name holds a slash or a NUL character. -/
  isPlain : ∀ e ∈ t.entries, ∀ s ∈ e.1, '/' ∉ s ∧ '\x00' ∉ s
  /-- No name is too long. -/
  isShort : ∀ e ∈ t.entries, ∀ s ∈ e.1, Path.nameIsTooLong s = false

/-- Soundness of a tree, as conditions on its entries that can be decided. -/
theorem isSound_iff : t.IsSound ↔ t.IsClosed ∧ (t.entries.map (·.1)).Nodup ∧
    (∀ e ∈ t.entries, ∀ s ∈ e.1, Path.isIdle s = false ∧ s ≠ ['.', '.']) ∧
    (∀ e ∈ t.entries, ∀ s ∈ e.1, '/' ∉ s ∧ '\x00' ∉ s) ∧
    ∀ e ∈ t.entries, ∀ s ∈ e.1, Path.nameIsTooLong s = false :=
  ⟨fun h => ⟨h.closed, h.nodup, h.isName, h.isPlain, h.isShort⟩,
    fun ⟨h1, h2, h3, h4, h5⟩ => ⟨h1, h2, h3, h4, h5⟩⟩

instance (t : FileTree) : Decidable t.IsSound := decidable_of_iff _ isSound_iff.symm

/-- What is listed in a sound tree is what is found in it. -/
theorem IsSound.mem_entries_iff (ht : t.IsSound) (hk : k ≠ []) :
    (k, n) ∈ t.entries ↔ t.node? k = some n := by
  rw [node?, if_neg hk, List.lookup_eq_some_iff]
  constructor
  · intro h
    obtain ⟨before, after, heq⟩ := List.append_of_mem h
    refine ⟨before, after, heq, fun e he => ?_⟩
    have hnodup := ht.nodup
    rw [heq, List.map_append, List.nodup_append] at hnodup
    rw [bne_iff_ne]
    exact fun hke => hnodup.2.2 e.1 (List.mem_map_of_mem he) k (by simp) hke.symm
  · rintro ⟨before, after, heq, -⟩
    rw [heq]
    simp

/-- The names on the way to what is found in a sound tree are listed. -/
theorem IsSound.exists_entry (ht : t.IsSound) (h : t.node? k = some n) (hs : s ∈ k) :
    ∃ e ∈ t.entries, s ∈ e.1 := by
  have hk : k ≠ [] := by
    rintro rfl
    simp at hs
  exact ⟨(k, n), (ht.mem_entries_iff hk).2 h, hs⟩

/-- What leads from one node of a sound tree to another is names. -/
theorem IsSound.areNames (ht : t.IsSound) (h : t.node? (l ++ below) = some n) :
    Path.AreNames below := by
  intro s hs
  obtain ⟨e, he, hmem⟩ := ht.exists_entry h (List.mem_append_right l hs)
  exact ⟨(ht.isName e he s hmem).ne_nil, (ht.isPlain e he s hmem).1⟩

/-- **The path that a walk spells reaches what it names.** -/
theorem IsSound.reaches_down (ht : t.IsSound) (hroot : t.HasRoot root l)
    (h : t.node? (l ++ below ++ [s]) = some n) :
    t.Reaches (root.down (below ++ [s])) l below s := by
  rw [List.append_assoc] at h
  have hnames := ht.areNames h
  have hne : below ++ [s] ≠ [] := by simp
  have hisName : ∀ a ∈ below ++ [s], IsName a := by
    intro a ha
    obtain ⟨e, he, hmem⟩ := ht.exists_entry h (List.mem_append_right l ha)
    exact ht.isName e he a hmem
  obtain ⟨pre, hpre, hseg, hfollow⟩ := hroot.exists_segments_join (Path.join_names hne hnames).1
  refine ⟨⟨pre, below, hpre, ?_, hfollow, ?_, ?_⟩, hroot.directory, hisName s (by simp)⟩
  · rw [Path.down_eq hne hnames, hseg, Path.segments_join (fun a ha => (hnames a ha).2) hne,
      List.append_assoc]
  · rw [List.filter_eq_self]
    intro a ha
    simp [(hisName a (by simp [ha])).1]
  · exact fun a ha => (hisName a (by simp [ha])).2

/-! ## The items of a walk -/

/-- Whether a walk **reaches** what is at the names `below` its start: the directory that it is in
can be entered. -/
def IsReached (root : Path) (below : List Text) : Prop :=
  Path.isTooLong (root.down below.dropLast) = false

/-- What the walk yields for a node below the root: a file it comes to, or a directory that it
cannot list. -/
theorem walkItem?_eq_some_iff :
    walkItem? root below n = some item ↔ IsReached root below ∧
      ((∃ b, n = .file b ∧ item = .file (root.down below)) ∨
        n = .directory ∧ (root.down below).isTooLong = true ∧
          item = .unreadable (root.down below) .nameTooLong) := by
  -- What the walk makes of each kind of node, once it has come to the directory above.
  have hfile (b : Bytes) : walkItem? root below (.file b) =
      if Path.isTooLong (root.down below.dropLast) then none
      else some (.file (root.down below)) := rfl
  have hdirectory : walkItem? root below .directory =
      if Path.isTooLong (root.down below.dropLast) then none
      else if (root.down below).isTooLong then some (.unreadable (root.down below) .nameTooLong)
      else none := rfl
  have hnull : walkItem? root below .nullDevice =
      if Path.isTooLong (root.down below.dropLast) then none else none := rfl
  rw [IsReached]
  cases n with
  | file b =>
    rw [hfile]
    split_ifs with hreached
    · simp [hreached]
    · simp [hreached, eq_comm (a := item)]
  | directory =>
    rw [hdirectory]
    split_ifs with hreached hlong
    · simp [hreached]
    · simp [hreached, hlong, eq_comm (a := item)]
    · simp [hlong]
  | nullDevice =>
    rw [hnull]
    simp

/-- A path that leads somewhere is not too long. -/
theorem isTooLong_of_resolve (h : t.resolve root = .ok l) : root.isTooLong = false := by
  have hc := check_of_resolve h
  rw [Path.check] at hc
  split_ifs at hc with h1 h2 h3
  simpa using h3

/-- Below what is no directory, only the place itself holds something. -/
theorem IsClosed.eq_nil_of_node? (ht : t.IsClosed) (hl : t.node? l ≠ some .directory)
    (h : t.node? (l ++ below) = some n) : below = [] := by
  by_contra hne
  rw [ht.node?_below hl hne] at h
  cases h

/-- The item of an entry of the tree, if it lies below the start. -/
def entryItem? (root : Path) (l : Location) (e : Location × Node) : Option WalkItem :=
  match l.isPrefixOf? e.1 with
  | some (name :: below) => walkItem? root (name :: below) e.2
  | _ => none

/-- What the walk yields for an entry of the tree, if the entry is below the root. -/
theorem entryItem?_eq_some_iff {e : Location × Node} :
    entryItem? root l e = some item ↔
      ∃ below, below ≠ [] ∧ e.1 = l ++ below ∧ walkItem? root below e.2 = some item := by
  rw [entryItem?]
  cases h : l.isPrefixOf? e.1 with
  | none =>
    refine iff_of_false (by simp) ?_
    rintro ⟨below, -, heq, -⟩
    exact Text.isPrefixOf?_eq_none_iff.1 h ⟨below, heq.symm⟩
  | some below =>
    have heq := Text.isPrefixOf?_eq_some_iff.1 h
    rw [heq]
    cases below with
    | nil => simp
    | cons name below => simp

/-- The items of a walk whose start leads somewhere. -/
theorem walk_eq (hres : t.resolve root = .ok l) :
    t.walk root =
      match t.node? l with
      | some (.file _) => [.file root]
      | some .directory => t.entries.filterMap (entryItem? root l)
      | _ => [] := by
  rw [walk, hres]
  rfl

/-- **The items of a walk** are those of what is at and below the location of its start. -/
theorem mem_walk_iff (ht : t.IsSound) (hres : t.resolve root = .ok l) :
    item ∈ t.walk root ↔
      ∃ below n, t.node? (l ++ below) = some n ∧ walkItem? root below n = some item := by
  have hshort := isTooLong_of_resolve hres
  rw [walk_eq hres]
  by_cases hdir : t.node? l = some .directory
  · simp only [hdir, List.mem_filterMap, entryItem?_eq_some_iff]
    constructor
    · rintro ⟨e, he, below, hne, heq, hitem⟩
      refine ⟨below, e.2, ?_, hitem⟩
      rw [← heq, ← ht.mem_entries_iff (by simp [heq, hne])]
      exact he
    · rintro ⟨below, n, hn, hitem⟩
      -- The start itself is a directory that can be entered.
      have hne : below ≠ [] := by
        rintro rfl
        rw [List.append_nil, hdir] at hn
        obtain rfl := Option.some.inj hn
        simp [walkItem?_eq_some_iff, hshort] at hitem
      exact ⟨(l ++ below, n), (ht.mem_entries_iff (by simp [hne])).2 hn, below, hne, rfl, hitem⟩
  · -- Nothing is below the start, which is a file, the null device or nothing.
    have hstart : (∃ below n, t.node? (l ++ below) = some n ∧ walkItem? root below n = some item) ↔
        ∃ n, t.node? l = some n ∧ walkItem? root [] n = some item := by
      constructor
      · rintro ⟨below, n, hn, hitem⟩
        obtain rfl := ht.closed.eq_nil_of_node? hdir hn
        exact ⟨n, by simpa using hn, hitem⟩
      · rintro ⟨n, hn, hitem⟩
        exact ⟨[], n, by simpa using hn, hitem⟩
    rw [hstart]
    cases hn : t.node? l with
    | none => simp
    | some n =>
      cases n with
      | directory => exact absurd hn hdir
      | nullDevice => simp [walkItem?_eq_some_iff]
      | file b => simp [walkItem?_eq_some_iff, IsReached, hshort]

/-- The path of an item tells which names it lies at. -/
theorem eq_of_walkItem? {below' : List Text} {n' : Node} (hne : below ≠ [])
    (h : Path.AreNames below) (hne' : below' ≠ []) (h' : Path.AreNames below')
    (hitem : walkItem? root below n = some item) (hitem' : walkItem? root below' n' = some item) :
    below = below' := by
  refine Path.down_injective root hne h hne' h' ?_
  rw [walkItem?_eq_some_iff] at hitem hitem'
  rcases hitem.2 with ⟨b, -, rfl⟩ | ⟨-, -, rfl⟩
  · obtain ⟨-, hpath⟩ : _ ∧ _ := by simpa using hitem'.2
    exact hpath
  · obtain ⟨-, -, hpath⟩ : _ ∧ _ ∧ _ := by simpa using hitem'.2
    exact hpath

/-- **A walk comes across nothing twice.** -/
theorem nodup_walk (ht : t.IsSound) (root : Path) : (t.walk root).Nodup := by
  cases hres : t.resolve root with
  | error e => simp [walk, hres]
  | ok l =>
    rw [walk_eq hres]
    split
    · simp
    · -- Different entries have different locations, so different names below the start.
      rw [List.Nodup, List.pairwise_filterMap]
      have hkeys : t.entries.Pairwise fun e e' => e.1 ≠ e'.1 := List.pairwise_map.1 ht.nodup
      refine hkeys.imp_of_mem ?_
      rintro ⟨k, n⟩ ⟨k', n'⟩ he he' hkk item hitem item' hitem' rfl
      obtain ⟨below, hne, rfl, hwalk⟩ := entryItem?_eq_some_iff.1 hitem
      obtain ⟨below', hne', rfl, hwalk'⟩ := entryItem?_eq_some_iff.1 hitem'
      have hnames := ht.areNames ((ht.mem_entries_iff (by simp [hne])).1 he)
      have hnames' := ht.areNames ((ht.mem_entries_iff (by simp [hne'])).1 he')
      exact hkk (by rw [eq_of_walkItem? hne hnames hne' hnames' hwalk hwalk'])
    · simp

/-! ## Reading what a walk comes across -/

/-- The path that a walk spells is refused only if it is too long. -/
theorem check_down (ht : t.IsSound) (hres : t.resolve root = .ok l)
    (h : t.node? (l ++ below) = some n) :
    (root.down below).check =
      if (root.down below).isTooLong then .error .nameTooLong else .ok () := by
  have hcheck := check_of_resolve hres
  rw [Path.check] at hcheck
  split_ifs at hcheck with hnul hnil hlong
  have hnames := ht.areNames h
  have hnul' : '\x00' ∉ root.down below := by
    intro hmem
    rcases Path.mem_down hmem with hroot | hslash | ⟨s, hs, hnul'⟩
    · exact hnul hroot
    · cases hslash
    · obtain ⟨e, he, hse⟩ := ht.exists_entry h (List.mem_append_right l hs)
      exact (ht.isPlain e he s hse).2 hnul'
  have hne : root.down below ≠ [] := by
    rcases eq_or_ne below [] with rfl | hbelow
    · exact hnil
    · obtain ⟨habs, hjoin, -⟩ := Path.join_names hbelow hnames
      rw [Path.down_eq hbelow hnames, Path.join_eq_front habs]
      simp [hjoin]
  rw [Path.check, if_neg hnul', if_neg hne]

/-- A place below a location is the location, or lies at a name in a directory below it. -/
theorem eq_nil_or_concat_of_node? (ht : t.IsSound) (hres : t.resolve root = .ok l)
    (h : t.node? (l ++ below) = some n) :
    below = [] ∨ ∃ init s, below = init ++ [s] ∧ t.Reaches (root.down (init ++ [s])) l init s := by
  rcases List.eq_nil_or_concat below with rfl | ⟨init, s, rfl⟩
  · exact .inl rfl
  · rw [List.concat_eq_append] at h ⊢
    have hdir : t.node? l = some .directory :=
      ht.closed.directory_above (m := init ++ [s]) (by simp) (by rw [h]; rfl)
    rw [← List.append_assoc] at h
    exact .inr ⟨init, s, rfl, ht.reaches_down ⟨ht.closed, hres, hdir⟩ h⟩

/-- **A file that a walk comes across is read**, unless its path is too long. -/
theorem read_down (ht : t.IsSound) (hres : t.resolve root = .ok l)
    (h : t.node? (l ++ below) = some (.file b)) :
    t.read (root.down below) =
      if (root.down below).isTooLong then .error .nameTooLong else .ok b := by
  have hcheck := check_down ht hres h
  by_cases hlong : (root.down below).isTooLong = true
  · rw [if_pos hlong] at hcheck ⊢
    rw [FileTree.read, resolve, hcheck]
    rfl
  · rw [if_neg hlong] at hcheck ⊢
    rcases eq_nil_or_concat_of_node? ht hres h with rfl | ⟨init, s, rfl, hreaches⟩
    · exact read_of_resolve hres (by simpa using h)
    · have hshort : ∀ a ∈ init ++ [s], Path.nameIsTooLong a = false := by
        intro a ha
        obtain ⟨e, he, hmem⟩ := ht.exists_entry h (List.mem_append_right l ha)
        exact ht.isShort e he a hmem
      rw [← List.append_assoc] at h
      exact read_of_resolve (hreaches.resolve_eq_ok ht.closed hcheck hshort (by rw [h]; rfl)) h

/-- The last segment of the path that a walk spells for a file is the name of the file. -/
theorem getLast?_segments_down (ht : t.IsSound) (hres : t.resolve root = .ok l)
    (h : t.node? (l ++ below) = some (.file b)) :
    (root.down below).segments.getLast? = (l ++ below).getLast? := by
  rcases eq_nil_or_concat_of_node? ht hres h with rfl | ⟨init, s, rfl, hreaches⟩
  · rw [List.append_nil] at h ⊢
    obtain ⟨segments, s, hseg, hs⟩ := exists_name_of_resolve ht.closed hres (by rw [h]; simp)
    obtain ⟨-, -, m, -, rfl, -⟩ := (resolve_eq_ok_iff hseg hs).1 hres
    rw [Path.down_nil, hseg, List.getLast?_concat, List.getLast?_concat]
  · obtain ⟨pre, segments, -, hseg, -⟩ := hreaches.exists_segments
    rw [hseg, ← List.append_assoc, List.getLast?_concat, List.getLast?_concat]

end FileTree

end SourceRecovery
