import SourceRecovery.Proofs.Relocation.Footprint
import SourceRecovery.Restoration.Run

/-! # Applying entries one after another

What one entry leaves alone, a whole run of entries leaves alone:

* **`HasRoot.restoreEach`** — the source root.
* **`node?_restoreEach_of_isDotted`** — the dotted places that are no site of the entries.
* **`blocks_restoreEach_iff`** — which places without a dot are blocked.
* **`plan_restoreEach`** — the plan of an entry whose sites are apart from those of the run. -/

namespace SourceRecovery

/-- Two entries are **apart** if no site of the one is a site of the other. -/
def Entry.Apart (r : Location) (e f : Entry) : Prop := ∀ k ∈ e.sites r, k ∉ f.sites r

instance (r : Location) (e f : Entry) : Decidable (e.Apart r f) :=
  inferInstanceAs (Decidable (∀ k ∈ e.sites r, k ∉ f.sites r))

/-- Being apart does not depend on the order. -/
theorem Entry.Apart.symm {r : Location} {e f : Entry} (h : e.Apart r f) : f.Apart r e :=
  fun k hk hk' => h k hk' hk

/-- What a plan leaves at a location depends on what is there. -/
theorem Plan.nodeAfter_congr {t u : FileTree} {k : Location} (p : Plan)
    (h : u.node? k = t.node? k) : p.nodeAfter u k = p.nodeAfter t k := by
  unfold Plan.nodeAfter
  rw [h]

namespace FileTree

variable {t : FileTree} {root : Path} {r k : Location} {e : Entry} {es fs : List Entry}

/-- **What an entry leaves at its sites** depends on what is there, and on which places without a
dot are blocked. -/
theorem node?_restore_congr {u : FileTree} (ht : t.HasRoot root r) (hu : u.HasRoot root r)
    (he : e.IsDotless) (hsites : ∀ k ∈ e.sites r, u.node? k = t.node? k)
    (hblocks : ∀ k, ¬ IsDotted k → (u.Blocks k ↔ t.Blocks k)) (hk : k ∈ e.sites r) :
    (u.restore root e).1.node? k = (t.restore root e).1.node? k := by
  rw [node?_restore hu he, node?_restore ht he, plan_congr ht hu he hsites hblocks]
  exact Plan.nodeAfter_congr _ (hsites k hk)

/-- Applying a first entry and then the others. -/
theorem restoreEach_cons_fst (t : FileTree) (root : Path) (e : Entry) (es : List Entry) :
    (t.restoreEach root (e :: es)).1 = ((t.restore root e).1.restoreEach root es).1 := rfl

/-- Applying more entries goes on from the tree that the first ones leave. -/
theorem restoreEach_append_fst (t : FileTree) (root : Path) (es fs : List Entry) :
    (t.restoreEach root (es ++ fs)).1 =
      ((t.restoreEach root es).1.restoreEach root fs).1 := by
  rw [restoreEach_append]

/-- The source root stays in a run. -/
theorem HasRoot.restoreEach (h : t.HasRoot root r) (hes : ∀ e ∈ es, e.IsDotless) :
    (t.restoreEach root es).1.HasRoot root r := by
  induction es generalizing t with
  | nil => exact h
  | cons e es ih =>
    rw [restoreEach_cons_fst]
    exact ih (h.restore (hes e (by simp))) fun f hf => hes f (by simp [hf])

/-- Applying entries does not change the working directory. -/
theorem workingDirectory_restoreEach (h : t.HasRoot root r) (hes : ∀ e ∈ es, e.IsDotless) :
    (t.restoreEach root es).1.workingDirectory = t.workingDirectory := by
  induction es generalizing t with
  | nil => rfl
  | cons e es ih =>
    have he := hes e (by simp)
    rw [restoreEach_cons_fst, ih (h.restore he) fun f hf => hes f (by simp [hf])]
    exact (restore_eq_plan h he).1.workingDirectory

/-- Every directory is still there after a run. -/
theorem directory_restoreEach (h : t.HasRoot root r) (hes : ∀ e ∈ es, e.IsDotless)
    (hk : t.node? k = some .directory) :
    (t.restoreEach root es).1.node? k = some .directory := by
  induction es generalizing t with
  | nil => exact hk
  | cons e es ih =>
    have he := hes e (by simp)
    rw [restoreEach_cons_fst]
    exact ih (h.restore he) (fun f hf => hes f (by simp [hf]))
      ((restore_eq_plan h he).1.directory k hk)

/-- **Away from the sites** of its entries, a run makes directories where nothing is, and nothing
else. -/
theorem node?_restoreEach_of_notMem (h : t.HasRoot root r) (hes : ∀ e ∈ es, e.IsDotless)
    (hk : ∀ e ∈ es, k ∉ e.sites r) :
    (t.restoreEach root es).1.node? k = t.node? k ∨
      t.node? k = none ∧ (t.restoreEach root es).1.node? k = some .directory := by
  induction es generalizing t with
  | nil => exact .inl rfl
  | cons e es ih =>
    have he := hes e (by simp)
    have hes' : ∀ f ∈ es, f.IsDotless := fun f hf => hes f (by simp [hf])
    have hfirst := node?_restore_of_notMem h he (hk e (by simp))
    rw [restoreEach_cons_fst]
    split_ifs at hfirst with hmem
    · have hdir := directory_restoreEach (h.restore he) hes' hfirst
      rw [hdir]
      rcases not_blocks_iff.1 (not_blocks_of_mem_folders hmem) with hnone | hthere
      · exact .inr ⟨hnone, rfl⟩
      · exact .inl hthere.symm
    · rw [← hfirst]
      exact ih (h.restore he) hes' fun f hf => hk f (by simp [hf])

/-- **Away from the sites** of its entries, a run changes no dotted place. -/
theorem node?_restoreEach_of_isDotted (h : t.HasRoot root r) (hes : ∀ e ∈ es, e.IsDotless)
    (hdot : IsDotted k) (hk : ∀ e ∈ es, k ∉ e.sites r) :
    (t.restoreEach root es).1.node? k = t.node? k := by
  induction es generalizing t with
  | nil => rfl
  | cons e es ih =>
    have he := hes e (by simp)
    rw [restoreEach_cons_fst,
      ih (h.restore he) (fun f hf => hes f (by simp [hf])) fun f hf => hk f (by simp [hf])]
    exact node?_restore_of_isDotted h he (hk e (by simp)) hdot

/-- A run neither **blocks** nor frees a place without a dot. -/
theorem blocks_restoreEach_iff (h : t.HasRoot root r) (hes : ∀ e ∈ es, e.IsDotless)
    (hdot : ¬ IsDotted k) : (t.restoreEach root es).1.Blocks k ↔ t.Blocks k := by
  induction es generalizing t with
  | nil => rfl
  | cons e es ih =>
    have he := hes e (by simp)
    rw [restoreEach_cons_fst, ih (h.restore he) fun f hf => hes f (by simp [hf])]
    exact blocks_restore_iff h he hdot

/-- **The plan of an entry survives** a run of entries that are apart from it. -/
theorem plan_restoreEach (h : t.HasRoot root r) (he : e.IsDotless)
    (hes : ∀ f ∈ es, f.IsDotless) (hapart : ∀ f ∈ es, e.Apart r f) :
    (t.restoreEach root es).1.plan root r e = t.plan root r e := by
  refine plan_congr h (h.restoreEach hes) he (fun k hk => ?_) fun k hk =>
    blocks_restoreEach_iff h hes hk
  exact node?_restoreEach_of_isDotted h hes (isDotted_of_mem_sites hk) fun f hf =>
    hapart f hf k hk

end FileTree

end SourceRecovery
