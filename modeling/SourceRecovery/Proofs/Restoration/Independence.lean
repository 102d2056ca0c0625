import SourceRecovery.Proofs.Mapping.Entries
import SourceRecovery.Proofs.Restoration.Sequence

/-! # Independent entries

The entries of a table are **independent** if each two are apart (`Table.IsIndependent`). Entries
that share folders are still independent: a folder made by one of them never changes whether the
file of another is found, moved or refused.

* **`outcomes_restoreEach`** — each entry has the outcome that it has alone.
* **`node?_restoreEach_of_mem_sites`** — at its sites, each entry leaves what it leaves alone.
* **`node?_restoreEach_of_notMem_sites`** — elsewhere, a run makes the folders of all plans.
* **`restoreEach_perm`** — a run of the entries comes to the same in every order. -/

namespace SourceRecovery

/-- The entries of a table are **independent** if each two of them are apart. -/
def Table.IsIndependent (table : Table) (r : Location) : Prop :=
  ∀ e ∈ table.entries, ∀ f ∈ table.entries, e ≠ f → e.Apart r f

instance (table : Table) (r : Location) : Decidable (table.IsIndependent r) :=
  inferInstanceAs (Decidable (∀ e ∈ table.entries, ∀ f ∈ table.entries, e ≠ f → e.Apart r f))

/-- Independent entries are pairwise apart in any order, if none occurs twice. -/
theorem Table.IsIndependent.pairwise {table : Table} {r : Location} {es : List Entry}
    (h : table.IsIndependent r) (hnodup : table.entries.Nodup) (hperm : es.Perm table.entries) :
    es.Pairwise (Entry.Apart r) := by
  refine List.Nodup.pairwise_of_forall_ne (hperm.nodup_iff.2 hnodup) ?_
  intro e he f hf
  exact h e (hperm.mem_iff.1 he) f (hperm.mem_iff.1 hf)

namespace FileTree

variable {t : FileTree} {root : Path} {r k : Location} {e : Entry} {es : List Entry}
  {order : CaptureOrder} {text : Text}

/-- **Each entry has the outcome that it has alone.** -/
theorem outcomes_restoreEach (h : t.HasRoot root r) (hes : ∀ e ∈ es, e.IsDotless)
    (hapart : es.Pairwise (Entry.Apart r)) :
    (t.restoreEach root es).2 = es.map fun e => (t.restore root e).2 := by
  induction es generalizing t with
  | nil => rfl
  | cons e es ih =>
    obtain ⟨hhead, htail⟩ := List.pairwise_cons.1 hapart
    have he := hes e (by simp)
    have hes' : ∀ f ∈ es, f.IsDotless := fun f hf => hes f (by simp [hf])
    have hsame : ∀ f ∈ es, ((t.restore root e).1.restore root f).2 = (t.restore root f).2 := by
      intro f hf
      rw [outcome_restore (h.restore he) (hes' f hf), outcome_restore h (hes' f hf),
        plan_restore h (hes' f hf) he (hhead f hf).symm]
    show (t.restore root e).2 :: ((t.restore root e).1.restoreEach root es).2 = _
    rw [ih (h.restore he) hes' htail, List.map_cons, List.map_congr_left hsame]

/-- **At its sites, each entry leaves what it leaves alone.** -/
theorem node?_restoreEach_of_mem_sites (h : t.HasRoot root r) (hes : ∀ e ∈ es, e.IsDotless)
    (hapart : es.Pairwise (Entry.Apart r)) (hmem : e ∈ es) (hk : k ∈ e.sites r) :
    (t.restoreEach root es).1.node? k = (t.restore root e).1.node? k := by
  obtain ⟨pre, post, rfl⟩ := List.append_of_mem hmem
  obtain ⟨-, hcons, hbefore⟩ := List.pairwise_append.1 hapart
  have hafter := (List.pairwise_cons.1 hcons).1
  have he := hes e hmem
  have hpre : ∀ f ∈ pre, f.IsDotless := fun f hf => hes f (by simp [hf])
  have hpost : ∀ f ∈ post, f.IsDotless := fun f hf => hes f (by simp [hf])
  have happart : ∀ f ∈ pre, e.Apart r f := fun f hf => (hbefore f hf e (by simp)).symm
  have hdot := isDotted_of_mem_sites hk
  -- The entries behind leave the sites alone, those in front leave plan and sites alone.
  have hroot := h.restoreEach hpre
  rw [restoreEach_append_fst, restoreEach_cons_fst,
    node?_restoreEach_of_isDotted (hroot.restore he) hpost hdot fun f hf => hafter f hf k hk,
    node?_restore hroot he, plan_restoreEach h he hpre happart, node?_restore h he]
  refine Plan.nodeAfter_congr _ ?_
  exact node?_restoreEach_of_isDotted h hpre hdot fun f hf => happart f hf k hk

/-- **Elsewhere**, a run of independent entries makes the folders of their plans. -/
theorem node?_restoreEach_of_notMem_sites (h : t.HasRoot root r) (hes : ∀ e ∈ es, e.IsDotless)
    (hapart : es.Pairwise (Entry.Apart r)) (hk : ∀ e ∈ es, k ∉ e.sites r) :
    (t.restoreEach root es).1.node? k =
      if ∃ e ∈ es, k ∈ (t.plan root r e).folders then some .directory else t.node? k := by
  induction es generalizing t with
  | nil => simp [restoreEach]
  | cons e es ih =>
    obtain ⟨hhead, htail⟩ := List.pairwise_cons.1 hapart
    have he := hes e (by simp)
    have hes' : ∀ f ∈ es, f.IsDotless := fun f hf => hes f (by simp [hf])
    have hplans : (∃ f ∈ es, k ∈ ((t.restore root e).1.plan root r f).folders) ↔
        ∃ f ∈ es, k ∈ (t.plan root r f).folders := by
      refine exists_congr fun f => and_congr_right fun hf => ?_
      rw [plan_restore h (hes' f hf) he (hhead f hf).symm]
    rw [restoreEach_cons_fst, ih (h.restore he) hes' htail fun f hf => hk f (by simp [hf]),
      node?_restore_of_notMem h he (hk e (by simp))]
    simp only [hplans, List.mem_cons, exists_eq_or_imp]
    by_cases hmem : k ∈ (t.plan root r e).folders
    · simp [hmem]
    · simp [hmem]

/-- Independent entries leave the same tree in every order. -/
theorem node?_restoreEach_perm {fs : List Entry} (h : t.HasRoot root r)
    (hes : ∀ e ∈ es, e.IsDotless) (hapart : es.Pairwise (Entry.Apart r)) (hperm : es.Perm fs)
    (k : Location) : (t.restoreEach root es).1.node? k = (t.restoreEach root fs).1.node? k := by
  have hfs : ∀ e ∈ fs, e.IsDotless := fun e he => hes e (hperm.mem_iff.2 he)
  have hapart' : fs.Pairwise (Entry.Apart r) :=
    hperm.pairwise hapart fun h => Entry.Apart.symm h
  by_cases hk : ∃ e ∈ es, k ∈ e.sites r
  · obtain ⟨e, he, hk⟩ := hk
    rw [node?_restoreEach_of_mem_sites h hes hapart he hk,
      node?_restoreEach_of_mem_sites h hfs hapart' (hperm.mem_iff.1 he) hk]
  · have hk' : ∀ e ∈ es, k ∉ e.sites r := fun e he hmem => hk ⟨e, he, hmem⟩
    rw [node?_restoreEach_of_notMem_sites h hes hapart hk',
      node?_restoreEach_of_notMem_sites h hfs hapart' fun e he => hk' e (hperm.mem_iff.2 he)]
    simp only [hperm.mem_iff]

/-- **Independent entries do not disturb each other, whatever their order.** In every order a run
of the entries of a table leaves the same tree; each entry has the outcome that it has alone, and
leaves at its own sites what it leaves alone. -/
theorem restoreEach_perm (h : t.HasRoot root r) (hind : (Table.parse order text).IsIndependent r)
    (hperm : es.Perm (Table.parse order text).entries) :
    (∀ k, (t.restoreEach root es).1.node? k =
        (t.restoreTable root (Table.parse order text)).tree.node? k) ∧
      (t.restoreEach root es).1.workingDirectory = t.workingDirectory ∧
      (t.restoreEach root es).2 = es.map (fun e => (t.restore root e).2) ∧
      ∀ e ∈ es, ∀ k ∈ e.sites r,
        (t.restoreEach root es).1.node? k = (t.restore root e).1.node? k := by
  have hes : ∀ e ∈ es, e.IsDotless := fun e he =>
    Table.isDotless_of_mem_entries (hperm.mem_iff.1 he)
  have hapart := hind.pairwise (Table.nodup_entries order text) hperm
  refine ⟨?_, workingDirectory_restoreEach h hes, outcomes_restoreEach h hes hapart, ?_⟩
  · exact node?_restoreEach_perm h hes hapart hperm
  · intro e he k hk
    exact node?_restoreEach_of_mem_sites h hes hapart he hk

/-- A source root with a Java file and a Kotlin file. -/
def twoClasses : FileTree where
  entries := [(["s".toList], .directory),
    (["s".toList, "a.java".toList], .file (Utf8.encode "class a {}".toList)),
    (["s".toList, "b.kt".toList], .file (Utf8.encode "class b".toList))]
  workingDirectory := []

/-- Two classes that are restored into one folder are independent: the later one may come first, and
both files are moved and edited. -/
theorem restoreEach_perm_twoClasses :
    let root := "s".toList
    let table := Table.parse .obfuscatedFirst "a -> x.A:\nb -> x.B:".toList
    let es := table.entries.reverse
    let result := twoClasses.restoreEach root es
    twoClasses.HasRoot root [root] ∧ table.IsIndependent [root] ∧ es.Perm table.entries ∧
      (∀ k, result.1.node? k = (twoClasses.restoreTable root table).tree.node? k) ∧
      result.1.workingDirectory = twoClasses.workingDirectory ∧
      result.2 = es.map (fun e => (twoClasses.restore root e).2) ∧
      (∀ e ∈ es, ∀ k ∈ e.sites [root],
        result.1.node? k = (twoClasses.restore root e).1.node? k) ∧
      result.2 = [.relocated "s/b.kt".toList "s/x/B.kt".toList,
        .relocated "s/a.java".toList "s/x/A.java".toList] ∧
      result.1.node? [root, "a.java".toList] = none ∧ result.1.node? [root, "b.kt".toList] = none ∧
      result.1.node? [root, "x".toList, "A.java".toList] =
        some (.file (Utf8.encode "class A {}".toList)) ∧
      result.1.node? [root, "x".toList, "B.kt".toList] =
        some (.file (Utf8.encode "class B".toList)) := by
  intro root table es result
  have hroot : twoClasses.HasRoot root [root] := ⟨by decide, by decide, by decide⟩
  have hind : table.IsIndependent [root] := by decide
  have hperm : es.Perm table.entries := List.reverse_perm _
  obtain ⟨htree, hdirectory, houtcomes, hsites⟩ := restoreEach_perm hroot hind hperm
  exact ⟨hroot, hind, hperm, htree, hdirectory, houtcomes, hsites, by decide +kernel,
    by decide +kernel, by decide +kernel, by decide +kernel, by decide +kernel⟩

end FileTree

end SourceRecovery
