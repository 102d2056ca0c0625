import SourceRecovery.Proofs.Mapping.Entries
import SourceRecovery.Proofs.Relocation.Replacement
import SourceRecovery.Proofs.Restoration.Sequence

/-! # What becomes of the source files

The **fate** of a file (`FileTree.fate?`) is the location where it is after a run, unless an entry
of the run replaces it (`FileTree.replacing`).

* **`card_filesBelow_restoreEach`** — a run loses one file for each entry that replaces one.
* **`fate?_eq_some`** — a file that is not replaced has been carried along by entries, from the
  site at which each looks for it to the site of what each restores, and edited by each of them.
* **`fate?_eq_none`** — a file that is lost was replaced by an entry at its target.
* **`fate?_injective`** — no two files have the same fate.
* **`replacing_eq_nil`** — if no target is taken at the beginning, nothing is replaced.
* **`restoreTable_conserves`** — all of it for a table. -/

namespace SourceRecovery

variable {r l l' : Location} {e : Entry} {es pre post : List Entry} {kind : SourceKind}

/-- The way of a file that entries carry along, one after another. -/
inductive Journey (r : Location) : Location → List Entry → Location → Prop where
  /-- Without entries, the file stays where it is. -/
  | stay (l : Location) : Journey r l [] l
  /-- The first entry carries the file from its obfuscated to its restored site. -/
  | move (e : Entry) (kind : SourceKind) {es : List Entry} {l : Location} :
    Journey r (e.restored.site r kind) es l → Journey r (e.obfuscated.site r kind) (e :: es) l

/-- The contents of a source file after several entries have edited it. -/
def Entry.editAll (es : List Entry) (b : Bytes) : Bytes := es.foldl (fun b e => e.editBytes b) b

namespace FileTree

variable {t : FileTree} {root : Path} {table : Table} {order : CaptureOrder} {text : Text}
  {b : Bytes}

/-! ## Runs -/

/-- The **fate** of a file: where it is after a run, unless an entry replaces it. -/
def fate? (t : FileTree) (root : Path) (r : Location) : List Entry → Location → Option Location
  | [], l => some l
  | e :: es, l => (t.destination? root r e l).bind ((t.restore root e).1.fate? root r es)

/-- The entries of a run that **replace** a file. -/
def replacing (t : FileTree) (root : Path) : List Entry → List Entry
  | [] => []
  | e :: es =>
    if t.replaces root e then e :: (t.restore root e).1.replacing root es
    else (t.restore root e).1.replacing root es

/-- The fate of a file is its destination under the first entry, and then its fate under the others.
-/
theorem fate?_cons (t : FileTree) (root : Path) (r : Location) (e : Entry) (es : List Entry)
    (l : Location) : t.fate? root r (e :: es) l =
      (t.destination? root r e l).bind ((t.restore root e).1.fate? root r es) := rfl

/-- **The count of the files**: a run loses one file for each entry that replaces one. -/
theorem card_filesBelow_restoreEach (h : t.HasRoot root r) (hes : ∀ e ∈ es, e.IsDotless)
    (hplain : ∀ e ∈ es, e.IsPlain) :
    ((t.restoreEach root es).1.filesBelow r).card + (t.replacing root es).length =
      (t.filesBelow r).card := by
  induction es generalizing t with
  | nil => rfl
  | cons e es ih =>
    have he := hes e (by simp)
    have hnext := ih (h.restore he) (fun f hf => hes f (by simp [hf]))
      fun f hf => hplain f (by simp [hf])
    have hstep := card_filesBelow_restore h he (hplain e (by simp))
    rw [restoreEach_cons_fst, replacing]
    split_ifs at hstep ⊢
    · rw [List.length_cons]
      omega
    · omega

/-- **A file that is not replaced** has been carried along by entries of the run, in their order,
and edited by each of them. -/
theorem fate?_eq_some (h : t.HasRoot root r) (hes : ∀ e ∈ es, e.IsDotless)
    (hb : t.node? l = some (.file b)) (hl : t.fate? root r es l = some l') :
    ∃ js, js.Sublist es ∧ Journey r l js l' ∧
      (t.restoreEach root es).1.node? l' = some (.file (Entry.editAll js b)) := by
  induction es generalizing t l b with
  | nil =>
    obtain rfl := Option.some.inj hl
    exact ⟨[], List.Sublist.refl [], .stay l, hb⟩
  | cons e es ih =>
    have he := hes e (by simp)
    have hes' : ∀ f ∈ es, f.IsDotless := fun f hf => hes f (by simp [hf])
    rw [fate?_cons, Option.bind_eq_some_iff] at hl
    obtain ⟨k, hk, hl⟩ := hl
    rw [restoreEach_cons_fst]
    rcases destination?_eq_some h he hb hk with ⟨rfl, hstay⟩ | ⟨kind, rfl, rfl, hmove⟩
    · obtain ⟨js, hjs, hway, hend⟩ := ih (h.restore he) hes' hstay hl
      exact ⟨js, hjs.cons e, hway, hend⟩
    · obtain ⟨js, hjs, hway, hend⟩ := ih (h.restore he) hes' hmove hl
      exact ⟨e :: js, hjs.cons_cons e, .move e kind hway, hend⟩

/-- **A file that is lost** was replaced by an entry of the run, at its target. -/
theorem fate?_eq_none (h : t.HasRoot root r) (hes : ∀ e ∈ es, e.IsDotless)
    (hb : t.node? l = some (.file b)) (hl : t.fate? root r es l = none) :
    ∃ pre e post, es = pre ++ e :: post ∧ (t.restoreEach root pre).1.replaces root e = true ∧
      ∃ kind, t.fate? root r pre l = some (e.restored.site r kind) := by
  induction es generalizing t l b with
  | nil => cases hl
  | cons e es ih =>
    have he := hes e (by simp)
    have hes' : ∀ f ∈ es, f.IsDotless := fun f hf => hes f (by simp [hf])
    cases hk : t.destination? root r e l with
    | none =>
      obtain ⟨hreplaces, kind, rfl⟩ := destination?_eq_none h he (holdsFile_iff.2 ⟨b, hb⟩) hk
      exact ⟨[], e, es, rfl, hreplaces, kind, rfl⟩
    | some k =>
      -- The first entry spares the file, so it is a later one that replaces it.
      rw [fate?_cons, hk, Option.bind_some] at hl
      obtain ⟨b', hb'⟩ : ∃ b', (t.restore root e).1.node? k = some (.file b') := by
        rcases destination?_eq_some h he hb hk with ⟨rfl, hstay⟩ | ⟨kind, -, rfl, hmove⟩
        · exact ⟨b, hstay⟩
        · exact ⟨_, hmove⟩
      obtain ⟨pre, f, post, rfl, hreplaces, kind, hfate⟩ := ih (h.restore he) hes' hb' hl
      refine ⟨e :: pre, f, post, rfl, hreplaces, kind, ?_⟩
      rw [fate?_cons, hk, Option.bind_some, hfate]

/-- **No two files have the same fate.** -/
theorem fate?_injective {l₁ l₂ : Location} (h₁ : t.fate? root r es l₁ = some l')
    (h₂ : t.fate? root r es l₂ = some l') : l₁ = l₂ := by
  induction es generalizing t l₁ l₂ with
  | nil => exact Option.some.inj (h₁.trans h₂.symm)
  | cons e es ih =>
    rw [fate?_cons, Option.bind_eq_some_iff] at h₁ h₂
    obtain ⟨k₁, hk₁, h₁⟩ := h₁
    obtain ⟨k₂, hk₂, h₂⟩ := h₂
    obtain rfl := ih h₁ h₂
    exact destination?_injective hk₁ hk₂

/-- An entry that replaces a file when its turn comes is one of those that replace. -/
theorem mem_replacing (hreplaces : (t.restoreEach root pre).1.replaces root e = true) :
    e ∈ t.replacing root (pre ++ e :: post) := by
  induction pre generalizing t with
  | nil =>
    replace hreplaces : t.replaces root e = true := hreplaces
    rw [List.nil_append, replacing, if_pos hreplaces]
    exact List.mem_cons_self ..
  | cons f pre ih =>
    rw [List.cons_append, replacing]
    have hmem := ih hreplaces
    split_ifs
    · exact List.mem_cons_of_mem _ hmem
    · exact hmem

/-- **If no target is taken at the beginning**, and no two entries have the same target, then
nothing is replaced. -/
theorem replacing_eq_nil (h : t.HasRoot root r) (hes : ∀ e ∈ es, e.IsDotless)
    (hplain : ∀ e ∈ es, e.IsPlain) (hdistinct : (es.map Entry.restored).Nodup)
    (hfree : ∀ e ∈ es, ∀ kind, t.holdsFile (e.restored.site r kind) = false) :
    t.replacing root es = [] := by
  induction es generalizing t with
  | nil => rfl
  | cons e es ih =>
    have he := hes e (by simp)
    rw [List.map_cons, List.nodup_cons] at hdistinct
    have hnot : ¬ t.replaces root e = true := by
      rw [replaces_iff h he]
      rintro ⟨m, hm, -, hholds⟩
      obtain ⟨kind, b, -, -, -, -, rfl⟩ := transfer?_plan h he hm
      have hempty := hfree e (by simp) kind
      rw [hempty] at hholds
      cases hholds
    rw [replacing, if_neg hnot]
    apply ih (h.restore he) (fun f hf => hes f (by simp [hf])) (fun f hf => hplain f (by simp [hf]))
      hdistinct.2
    -- The target of the first entry is not that of another.
    intro f hf kind
    have hbefore := hfree f (by simp [hf]) kind
    rw [Bool.eq_false_iff]
    intro hafter
    cases hm : (t.plan root r e).transfer? with
    | none =>
      rw [holdsFile_restore_of_eq_none h he hm, hbefore] at hafter
      cases hafter
    | some m =>
      rw [holdsFile_restore_of_eq_some h he hm, hbefore] at hafter
      obtain ⟨kind', b, -, -, -, -, rfl⟩ := transfer?_plan h he hm
      rcases hafter with hsite | ⟨-, hholds⟩
      · have hsame := (ClassPath.site_injective (hplain f (by simp [hf])).restored
          (hplain e (by simp)).restored hsite).1
        exact hdistinct.1 (List.mem_map.2 ⟨f, hf, hsame⟩)
      · cases hholds

/-! ## The files of a table -/

/-- **What becomes of the source files.** A restoration loses as many regular files below the
source root as there are entries that replace one. Every other file has been carried along by the
entries that looked for it where it was, in their order, from the obfuscated to the restored site,
and was edited by each of them; without such an entry it is where it was, with its contents. A file
that is lost was replaced by an entry whose target was where the file had come to. No two files
come to the same location. If no target is taken at the beginning, no file is lost, also where the
restored path of one entry is the obfuscated path of another. -/
theorem restoreTable_conserves (htable : table = Table.parse order text) (h : t.HasRoot root r)
    (hplain : ∀ e ∈ table.entries, e.IsPlain)
    (hdistinct : (table.entries.map Entry.restored).Nodup) :
    ((t.restoreTable root table).tree.filesBelow r).card +
        (t.replacing root table.entries).length = (t.filesBelow r).card ∧
      (∀ l b, t.node? l = some (.file b) →
        (∃ l' js, t.fate? root r table.entries l = some l' ∧ js.Sublist table.entries ∧
          Journey r l js l' ∧
          (t.restoreTable root table).tree.node? l' = some (.file (Entry.editAll js b))) ∨
        ∃ pre e post kind, table.entries = pre ++ e :: post ∧
          t.fate? root r table.entries l = none ∧
          t.fate? root r pre l = some (e.restored.site r kind) ∧
          (t.restoreEach root pre).1.replaces root e = true) ∧
      (∀ l₁ l₂ l', t.fate? root r table.entries l₁ = some l' →
        t.fate? root r table.entries l₂ = some l' → l₁ = l₂) ∧
      ((∀ e ∈ table.entries, ∀ kind, t.holdsFile (e.restored.site r kind) = false) →
        t.replacing root table.entries = [] ∧
          ∀ l ∈ t.filesBelow r, (t.fate? root r table.entries l).isSome) := by
  have hes : ∀ e ∈ table.entries, e.IsDotless := by
    subst htable
    exact fun e he => Table.isDotless_of_mem_entries he
  refine ⟨card_filesBelow_restoreEach h hes hplain, fun l b hb => ?_,
    fun l₁ l₂ l' => fate?_injective, fun hfree => ?_⟩
  · cases hl : t.fate? root r table.entries l with
    | some l' =>
      obtain ⟨js, hjs, hway, hend⟩ := fate?_eq_some h hes hb hl
      exact .inl ⟨l', js, rfl, hjs, hway, hend⟩
    | none =>
      obtain ⟨pre, e, post, hentries, hreplaces, kind, hfate⟩ := fate?_eq_none h hes hb hl
      exact .inr ⟨pre, e, post, kind, hentries, rfl, hfate, hreplaces⟩
  · have hnil := replacing_eq_nil h hes hplain hdistinct hfree
    refine ⟨hnil, fun l hl => ?_⟩
    rw [Option.isSome_iff_ne_none]
    intro hnone
    -- A lost file would have been replaced by an entry, and none replaces any.
    obtain ⟨b, hb⟩ := holdsFile_iff.1 (mem_filesBelow.1 hl).2
    obtain ⟨pre, e, post, hentries, hreplaces, -⟩ := fate?_eq_none h hes hb hnone
    have hmem : e ∈ t.replacing root (pre ++ e :: post) := mem_replacing hreplaces
    rw [← hentries, hnil] at hmem
    cases hmem

/-- A source root with two classes in two folders. -/
def twoFolders : FileTree where
  entries := [(["s".toList], .directory), (["s".toList, "a".toList], .directory),
    (["s".toList, "a".toList, "A.java".toList], .file (Utf8.encode "class A {}".toList)),
    (["s".toList, "b".toList], .directory),
    (["s".toList, "b".toList, "B.java".toList], .file (Utf8.encode "class B {}".toList))]
  workingDirectory := []

/-- The source root of the tree is there. -/
theorem twoFolders_hasRoot : twoFolders.HasRoot "s".toList ["s".toList] :=
  ⟨by decide, by decide, by decide⟩

/-- A table whose second entry restores its class to where the first one looks for its own. -/
def chainedTable : Table := Table.parse .obfuscatedFirst "b.B -> c.C:\na.A -> b.B:".toList

/-- The first class makes room for the second one. -/
theorem restoreTable_conserves_chained :
    (∀ e ∈ chainedTable.entries, e.IsPlain) ∧ (chainedTable.entries.map Entry.restored).Nodup ∧
      ((twoFolders.restoreTable "s".toList chainedTable).tree.filesBelow ["s".toList]).card +
          (twoFolders.replacing "s".toList chainedTable.entries).length =
        (twoFolders.filesBelow ["s".toList]).card := by
  have hplain : ∀ e ∈ chainedTable.entries, e.IsPlain := by decide +kernel
  have hdistinct : (chainedTable.entries.map Entry.restored).Nodup := by decide
  have htable : chainedTable =
      Table.parse .obfuscatedFirst "b.B -> c.C:\na.A -> b.B:".toList := rfl
  exact ⟨hplain, hdistinct,
    (restoreTable_conserves htable twoFolders_hasRoot hplain hdistinct).1⟩

/-- A table that swaps two classes. -/
def swappedTable : Table := Table.parse .obfuscatedFirst "a.A -> b.B:\nb.B -> a.A:".toList

/-- **A file can be lost**: when two classes are swapped, the first one takes the place of the
second one and is moved back from there. -/
theorem card_filesBelow_swapped :
    twoFolders.HasRoot "s".toList ["s".toList] ∧ (∀ e ∈ swappedTable.entries, e.IsPlain) ∧
      (swappedTable.entries.map Entry.restored).Nodup ∧
      ((twoFolders.restoreTable "s".toList swappedTable).tree.filesBelow ["s".toList]).card = 1 ∧
      (twoFolders.filesBelow ["s".toList]).card = 2 :=
  ⟨twoFolders_hasRoot, by decide +kernel, by decide, by decide +kernel, by decide +kernel⟩

end FileTree

end SourceRecovery
