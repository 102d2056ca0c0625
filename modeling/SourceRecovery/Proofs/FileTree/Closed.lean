import Mathlib.Data.List.Basic
import Mathlib.Data.List.Infix
import SourceRecovery.FileTree.Operations

/-! # Closed trees

In a file tree as a system keeps it, whatever is somewhere lies in a directory. A tree with that
property is **closed** (`FileTree.IsClosed`): below a file, the null device or a free place there
is nothing. The file says what the changes of a tree come to when the tree is closed:

* **`node?_move_file`** — moving a file takes it from its source to its target, and nothing else.
* **`IsClosed.node?_below`** — nothing is below what is no directory.
* **`Blocks`** — a place that is taken, but by no directory. -/

namespace SourceRecovery

namespace FileTree

variable {t u : FileTree} {l m k : Location} {s : Text} {b : Bytes}

/-- A **closed** tree: whatever is somewhere lies in a directory. -/
def IsClosed (t : FileTree) : Prop :=
  ∀ (l : Location) (s : Text), (t.node? (l ++ [s])).isSome → t.node? l = some .directory

/-- A file is not the root directory. -/
theorem ne_nil_of_file (h : t.node? l = some (.file b)) : l ≠ [] := by
  rintro rfl
  rw [node?_nil] at h
  cases h

/-- Every entry is found at its location. -/
theorem isSome_lookup_of_mem {es : List (Location × Node)} {e : Location × Node} (h : e ∈ es) :
    (es.lookup e.1).isSome := by
  rw [List.lookup_isSome_iff]
  exact ⟨e, h, by simp⟩

/-- To see that a tree is closed, it is enough to look above its entries. -/
theorem isClosed_iff : t.IsClosed ↔
    ∀ e ∈ t.entries, e.1 ≠ [] → t.node? e.1.dropLast = some .directory := by
  constructor
  · intro h e he hne
    have hsplit : e.1.dropLast ++ [e.1.getLast hne] = e.1 := List.dropLast_append_getLast hne
    apply h e.1.dropLast (e.1.getLast hne)
    rw [hsplit, node?, if_neg hne]
    exact isSome_lookup_of_mem he
  · intro h l s hs
    rw [node?, if_neg (by simp)] at hs
    rw [List.lookup_isSome_iff] at hs
    obtain ⟨e, he, hk⟩ := hs
    have hl : e.1 = l ++ [s] := (by simpa using hk : l ++ [s] = e.1).symm
    have := h e he (by rw [hl]; simp)
    rwa [hl, List.dropLast_concat] at this

instance (t : FileTree) : Decidable t.IsClosed := decidable_of_iff _ isClosed_iff.symm

/-- Everything above what is in a closed tree is a directory. -/
theorem IsClosed.directory_above (ht : t.IsClosed) (hm : m ≠ []) (h : (t.node? (l ++ m)).isSome) :
    t.node? l = some .directory := by
  induction m using List.reverseRecOn with
  | nil => exact absurd rfl hm
  | append_singleton m s ih =>
    rw [← List.append_assoc] at h
    have hd := ht _ _ h
    rcases eq_or_ne m [] with rfl | hne
    · rwa [List.append_nil] at hd
    · exact ih hne (by rw [hd]; rfl)

/-- Below a place that is no directory, a closed tree holds nothing. -/
theorem IsClosed.node?_below (ht : t.IsClosed) (hl : t.node? l ≠ some .directory) (hm : m ≠ []) :
    t.node? (l ++ m) = none := by
  by_contra h
  exact hl (ht.directory_above hm (Option.isSome_iff_ne_none.2 h))

/-- A location above or below that of a node that is no directory holds no such node itself. -/
theorem IsClosed.eq_of_isPrefix (ht : t.IsClosed) (hl : t.node? l ≠ some .directory)
    (h : l <+: k) (hk : (t.node? k).isSome) : l = k := by
  obtain ⟨m, rfl⟩ := h
  by_contra hne
  have hm : m ≠ [] := by
    rintro rfl
    exact hne (List.append_nil l).symm
  rw [ht.node?_below hl hm] at hk
  exact absurd hk (by simp)

/-! ## Moving a file -/

/-- **Moving a file** takes it to its target, leaves nothing at its source, and changes nothing
else. A file that was at the target is gone. -/
theorem node?_move_file (ht : t.IsClosed) (hl : t.node? l = some (.file b))
    (hm : t.node? m ≠ some .directory) (hlm : l ≠ m) (hpre : ¬ l <+: m) (k : Location) :
    (t.move l m).node? k =
      if k = m then some (.file b) else if k = l then none else t.node? k := by
  have hm0 : m ≠ [] := by
    rintro rfl
    exact hm (node?_nil t)
  have hnotdir : t.node? l ≠ some .directory := by rw [hl]; simp
  have hbelow : ∀ e ∈ t.entries, m <+: e.1 → e.1 = m := by
    intro e he hp
    have hne : e.1 ≠ [] := by
      intro h0
      rw [h0] at hp
      exact hm0 (List.prefix_nil.1 hp)
    refine (ht.eq_of_isPrefix hm hp ?_).symm
    rw [node?, if_neg hne]
    exact isSome_lookup_of_mem he
  rw [node?_move t hm0 hpre hbelow]
  simp only [origin?]
  -- The places below the target were free, and so were those below the source.
  split
  · next below hb =>
    rw [Text.isPrefixOf?_eq_some_iff] at hb
    subst hb
    rw [Option.bind_some]
    rcases eq_or_ne below [] with rfl | hne
    · simp [hl]
    · rw [ht.node?_below hnotdir hne, if_neg (by simpa using hne)]
      split
      · rfl
      · rw [ht.node?_below hm hne]
  · next hb =>
    have hkm : k ≠ m := by
      rintro rfl
      exact Text.isPrefixOf?_eq_none_iff.1 hb (List.prefix_refl k)
    rw [if_neg hkm]
    split
    · next hp =>
      obtain ⟨below, rfl⟩ := hp
      rcases eq_or_ne below [] with rfl | hne
      · simp
      · rw [Option.bind_none, if_neg (by simpa using hne), ht.node?_below hnotdir hne]
    · next hp =>
      have hkl : k ≠ l := by
        rintro rfl
        exact hp (List.prefix_refl k)
      rw [Option.bind_some, if_neg hkl]

/-- A tree is closed after a file has been moved into a directory. -/
theorem IsClosed.move_file (ht : t.IsClosed) (hl : t.node? l = some (.file b))
    (hm : t.node? (m ++ [s]) ≠ some .directory) (hlm : l ≠ m ++ [s]) (hpre : ¬ l <+: m ++ [s])
    (hd : t.node? m = some .directory) : (t.move l (m ++ [s])).IsClosed := by
  intro k a hk
  rw [node?_move_file ht hl hm hlm hpre] at hk ⊢
  -- A directory is neither the file moved nor what was at its target.
  have hdir : t.node? k = some .directory → (if k = m ++ [s] then some (Node.file b)
      else if k = l then none else t.node? k) = some .directory := by
    intro hdk
    rw [if_neg, if_neg, hdk]
    · rintro rfl
      rw [hdk] at hl
      cases hl
    · rintro rfl
      exact hm hdk
  split_ifs at hk with h1 h2
  · obtain ⟨rfl, -⟩ := List.append_inj' h1 rfl
    exact hdir hd
  · exact absurd hk (by simp)
  · exact hdir (ht k a hk)

/-- The tree in which a file has been moved, if its target is another place. -/
def relocated (t : FileTree) (source target : Location) : FileTree :=
  if source = target then t else t.move source target

/-- Relocating a file does not change the working directory. -/
theorem workingDirectory_relocated (t : FileTree) (source target : Location) :
    (t.relocated source target).workingDirectory = t.workingDirectory := by
  rw [relocated]
  split_ifs <;> rfl

/-- After a file has been relocated it is at the target, nothing is at the source, and elsewhere
nothing has changed. -/
theorem node?_relocated {source target : Location} (ht : t.IsClosed)
    (hb : t.node? source = some (.file b))
    (hgoal : source ≠ target → ¬ source <+: target ∧ t.node? target ≠ some .directory)
    (k : Location) :
    (t.relocated source target).node? k =
      if k = target then some (.file b) else if k = source then none else t.node? k := by
  rw [relocated]
  by_cases h : source = target
  · subst h
    rw [if_pos rfl]
    by_cases hk : k = source
    · rw [if_pos hk, hk, hb]
    · rw [if_neg hk, if_neg hk]
  · rw [if_neg h]
    exact node?_move_file ht hb (hgoal h).2 h (hgoal h).1 k

/-- A directory is neither the file moved nor what was at its target. -/
theorem directory_relocated {source target : Location} (ht : t.IsClosed)
    (hb : t.node? source = some (.file b))
    (hgoal : source ≠ target → ¬ source <+: target ∧ t.node? target ≠ some .directory)
    (hk : t.node? k = some .directory) : (t.relocated source target).node? k = some .directory := by
  have hks : k ≠ source := by
    rintro rfl
    rw [hb] at hk
    cases hk
  rw [node?_relocated ht hb hgoal, if_neg, if_neg hks, hk]
  rintro rfl
  exact (hgoal hks.symm).2 hk

/-- Relocating a file into a directory keeps a tree closed. -/
theorem IsClosed.relocated {source folder : Location} {s : Text} (ht : t.IsClosed)
    (hb : t.node? source = some (.file b))
    (hgoal : source ≠ folder ++ [s] →
      ¬ source <+: folder ++ [s] ∧ t.node? (folder ++ [s]) ≠ some .directory)
    (hd : t.node? folder = some .directory) : (t.relocated source (folder ++ [s])).IsClosed := by
  rw [FileTree.relocated]
  split_ifs with h
  · exact ht
  · exact ht.move_file hb (hgoal h).2 h (hgoal h).1 hd

/-- A tree stays closed when a file gets other contents. -/
theorem IsClosed.put_file (ht : t.IsClosed) (hl : t.node? l = some (.file b)) (b' : Bytes) :
    (t.put l (.file b')).IsClosed := by
  have hl0 : l ≠ [] := ne_nil_of_file hl
  have hdir : ∀ k, t.node? k = some .directory → k ≠ l := by
    rintro k hk rfl
    rw [hk] at hl
    cases hl
  intro k a hk
  rw [node?_put t hl0] at hk ⊢
  have hk' : t.node? k = some .directory := by
    split_ifs at hk with h1
    · exact ht k a (by rw [h1, hl]; rfl)
    · exact ht k a hk
  rw [if_neg (hdir k hk'), hk']

/-! ## Making directories where nothing is -/

/-- A tree stays closed when a directory is made in a directory. -/
theorem IsClosed.put_directory (ht : t.IsClosed) (hd : t.node? m = some .directory) (s : Text) :
    (t.put (m ++ [s]) .directory).IsClosed := by
  intro k a hk
  rw [node?_put t (by simp)] at hk ⊢
  split_ifs with hkm
  · rfl
  · split_ifs at hk with hka
    · obtain ⟨rfl, -⟩ := List.append_inj' hka rfl
      exact hd
    · exact ht k a hk

/-- Whether a place is taken by something that is no directory. -/
def Blocks (t : FileTree) (l : Location) : Prop :=
  (t.node? l).isSome ∧ t.node? l ≠ some .directory

instance (t : FileTree) (l : Location) : Decidable (t.Blocks l) :=
  inferInstanceAs (Decidable (_ ∧ _))

/-- A place where nothing blocks is free or a directory. -/
theorem not_blocks_iff : ¬ t.Blocks l ↔ t.node? l = none ∨ t.node? l = some .directory := by
  cases h : t.node? l with
  | none => simp [Blocks, h]
  | some n => simp [Blocks, h]

/-- Nothing changes when a directory is made where something is. -/
theorem fill_of_isSome (h : (t.node? l).isSome) : t.fill l = t := by rw [fill, if_pos h]

/-- Filling places that have nodes changes nothing. -/
theorem foldl_fill_of_isSome {ls : List Location} (h : ∀ l ∈ ls, (t.node? l).isSome) :
    ls.foldl fill t = t := by
  induction ls with
  | nil => rfl
  | cons l ls ih =>
    rw [List.foldl_cons, fill_of_isSome (h l (by simp))]
    exact ih fun l hl => h l (by simp [hl])

@[simp] theorem workingDirectory_fill (t : FileTree) (l : Location) :
    (t.fill l).workingDirectory = t.workingDirectory := by
  rw [fill]
  split <;> rfl

@[simp] theorem workingDirectory_foldl_fill (t : FileTree) (ls : List Location) :
    (ls.foldl fill t).workingDirectory = t.workingDirectory := by
  induction ls generalizing t with
  | nil => rfl
  | cons l ls ih => rw [List.foldl_cons, ih, workingDirectory_fill]

end FileTree

end SourceRecovery
