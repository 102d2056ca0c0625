import SourceRecovery.Proofs.Mapping.Entries
import SourceRecovery.Proofs.Restoration.Sequence

/-! # Resuming a restoration

An entry is **settled** in a tree (`FileTree.Settled`) if its plan moves no file and makes no
directory: applying it changes nothing. If no class is restored to where a class of the table is
looked for (`Table.IsUnchained`), and no class has both kinds of source files
(`FileTree.IsSingle`), then an entry is settled once it has been applied, and stays so:

* **`settled_restore`**, **`Settled.restore`** — the two steps.
* **`settled_restoreEach`** — after a run all its entries are settled.
* **`restoreTable_resume`** — a restoration that was interrupted can be run again from its
  beginning, and one that came to its end changes nothing when it is run again. -/

namespace SourceRecovery

variable {r k : Location} {e f : Entry} {es pre post : List Entry} {kind : SourceKind}

/-- An entry **spares** another if it is not restored to where the other is looked for. -/
def Entry.Spares (r : Location) (e f : Entry) : Prop :=
  ∀ kind kind', e.restored.site r kind ≠ f.obfuscated.site r kind'

/-- The entries of a table are **unchained** if they spare each other and themselves. -/
def Table.IsUnchained (table : Table) (r : Location) : Prop :=
  ∀ e ∈ table.entries, ∀ f ∈ table.entries, e.Spares r f

namespace FileTree

variable {t u : FileTree} {root source : Path} {table : Table} {order : CaptureOrder}
  {text : Text} {error : RelocationError}

/-! ## What an entry does to where another is looked for -/

/-- At a dotted place that is no restored site, an entry takes away or changes nothing. -/
theorem node?_restore_of_ne_restored (h : t.HasRoot root r) (he : e.IsDotless) (hdot : IsDotted k)
    (hk : ∀ kind, k ≠ e.restored.site r kind) :
    (t.restore root e).1.node? k = t.node? k ∨ (t.restore root e).1.node? k = none := by
  cases hm : (t.plan root r e).transfer? with
  | none => exact .inl (node?_restore_of_transfer?_eq_none h he hm hdot)
  | some m =>
    obtain ⟨kind, b, -, -, -, -, rfl⟩ := transfer?_plan h he hm
    by_cases hsource : k = e.obfuscated.site r kind
    · right
      have hne : e.obfuscated.site r kind ≠ e.restored.site r kind := hsource ▸ hk kind
      rw [hsource]
      exact node?_restore_source h he hm hne
    · exact .inl (node?_restore_of_ne h he hm hdot hsource (hk kind))

/-- No entry makes or removes a directory at a dotted place. -/
theorem directory_restore_iff (h : t.HasRoot root r) (he : e.IsDotless) (hdot : IsDotted k) :
    (t.restore root e).1.node? k = some .directory ↔ t.node? k = some .directory := by
  refine ⟨fun hd => ?_, (restore_eq_plan h he).1.directory k⟩
  cases hm : (t.plan root r e).transfer? with
  | none => rwa [node?_restore_of_transfer?_eq_none h he hm hdot] at hd
  | some m =>
    have htarget : k ≠ m.target := by
      rintro rfl
      rw [node?_restore_target h he hm] at hd
      cases hd
    have hsource : k ≠ m.source := by
      rintro rfl
      rw [node?_restore_source h he hm htarget] at hd
      cases hd
    rwa [node?_restore_of_ne h he hm hdot hsource htarget] at hd

/-- A file that is found after an entry that spares its class was there before. -/
theorem isFile_of_isFile_restore (h : t.HasRoot root r) (he : e.IsDotless) (hf : f.IsDotless)
    (hspares : f.Spares r e)
    (hfile : (t.restore root f).1.isFile (classFile root e.obfuscated kind) = true) :
    t.isFile (classFile root e.obfuscated kind) = true ∧
      (t.restore root f).1.node? (e.obfuscated.site r kind) =
        t.node? (e.obfuscated.site r kind) := by
  obtain ⟨hfits, b, hb⟩ := ((h.restore hf).isFile_classFile_iff he.obfuscated kind).1 hfile
  rcases node?_restore_of_ne_restored h hf (isDotted_site r e.obfuscated kind) fun kind' =>
    (hspares kind' kind).symm with hsame | hnone
  · refine ⟨(h.isFile_classFile_iff he.obfuscated kind).2 ⟨hfits, b, ?_⟩, hsame⟩
    rw [← hsame, hb]
  · rw [hnone] at hb
    cases hb

/-- A class with a single source file still has one when an entry has been applied that spares it.
-/
theorem IsSingle.restore (h : t.HasRoot root r) (he : e.IsDotless) (hf : f.IsDotless)
    (hspares : f.Spares r e) (hsingle : t.IsSingle root e.obfuscated) :
    (t.restore root f).1.IsSingle root e.obfuscated := fun hboth =>
  hsingle ⟨(isFile_of_isFile_restore h he hf hspares hboth.1).1,
    (isFile_of_isFile_restore h he hf hspares hboth.2).1⟩

/-! ## Settled entries -/

/-- An entry is **settled** if its plan moves no file and makes no directory. -/
def Settled (t : FileTree) (root : Path) (r : Location) (e : Entry) : Prop :=
  (t.plan root r e).transfer? = none ∧ ∀ k ∈ (t.plan root r e).folders, (t.node? k).isSome

/-- **Applying a settled entry** changes nothing. -/
theorem Settled.restore_fst (hs : t.Settled root r e) (h : t.HasRoot root r) (he : e.IsDotless) :
    (t.restore root e).1 = t := by
  rw [(restore_eq_plan h he).1.eq_of_transfer?_eq_none hs.1]
  exact foldl_fill_of_isSome hs.2

/-- A class without a source file is settled. -/
theorem settled_of_locate?_eq_none (hl : t.locate? root e.obfuscated = none) :
    t.Settled root r e := by
  have hplan : t.plan root r e = ⟨[], none, .skipped⟩ := by rw [plan, hl]
  rw [Settled, hplan]
  exact ⟨rfl, fun k hk => absurd hk List.not_mem_nil⟩

/-- An entry whose plan moves no file has the same plan again. -/
theorem plan_restore_self (h : t.HasRoot root r) (he : e.IsDotless)
    (hnone : (t.plan root r e).transfer? = none) :
    (t.restore root e).1.plan root r e = t.plan root r e := by
  apply plan_congr h (h.restore he) he
  · intro k hk
    exact node?_restore_of_transfer?_eq_none h he hnone (isDotted_of_mem_sites hk)
  · intro k hk
    exact blocks_restore_iff h he hk

/-- **An entry is settled** after it has been applied: either its file is gone from where it is
looked for, or it has only made its folders, and would make them again. -/
theorem settled_restore (h : t.HasRoot root r) (he : e.IsDotless) (hspares : e.Spares r e)
    (hsingle : t.IsSingle root e.obfuscated) : (t.restore root e).1.Settled root r e := by
  cases hm : (t.plan root r e).transfer? with
  | none =>
    rw [Settled, plan_restore_self h he hm]
    refine ⟨hm, fun k hk => ?_⟩
    rw [node?_restore h he, Plan.nodeAfter, hm, if_pos hk]
    rfl
  | some m =>
    obtain ⟨kind, b, hb, hfile, -, -, rfl⟩ := transfer?_plan h he hm
    have hgone : (t.restore root e).1.node? (e.obfuscated.site r kind) = none :=
      node?_restore_source h he hm (hspares kind kind).symm
    refine settled_of_locate?_eq_none (locate?_eq_none_iff.2 fun kind' => ?_)
    by_contra hfound
    rw [Bool.not_eq_false] at hfound
    obtain ⟨hfound', -⟩ := isFile_of_isFile_restore h he he hspares hfound
    obtain rfl := hsingle.kind_eq hfile hfound'
    obtain ⟨-, b', hb'⟩ := ((h.restore he).isFile_classFile_iff he.obfuscated kind).1 hfound
    rw [hgone] at hb'
    cases hb'

/-- **A settled entry stays settled** when an entry that spares it is applied: its file stays where
it is or goes, its folders are there, and what stands in its way stays. -/
theorem Settled.restore (hs : t.Settled root r e) (h : t.HasRoot root r) (he : e.IsDotless)
    (hf : f.IsDotless) (hspares : f.Spares r e) (hsingle : t.IsSingle root e.obfuscated) :
    (t.restore root f).1.Settled root r e := by
  cases hl : (t.restore root f).1.locate? root e.obfuscated with
  | none => exact settled_of_locate?_eq_none hl
  | some file =>
    obtain ⟨-, hfile⟩ := locate?_eq_some hl
    obtain ⟨hbefore, hsame⟩ := isFile_of_isFile_restore h he hf hspares hfile
    have hplan : (t.restore root f).1.plan root r e = t.plan root r e := by
      rw [(hsingle.restore h he hf hspares).plan_eq hfile, hsingle.plan_eq hbefore]
      exact planFor_congr he hsame (directory_restore_iff h hf (isDotted_site ..))
        fun k hk => blocks_restore_iff h hf hk
    rw [Settled, hplan]
    refine ⟨hs.1, fun k hk => ?_⟩
    have hk' : k ∉ f.sites r := fun hmem =>
      not_isDotted_of_mem_folders he hk (isDotted_of_mem_sites hmem)
    rw [node?_restore_of_notMem h hf hk']
    split_ifs
    · rfl
    · exact hs.2 k hk

/-! ## Runs of entries that spare each other -/

/-- A file that is found after a run of entries that spare its class was there before. -/
theorem isFile_of_isFile_restoreEach (h : t.HasRoot root r) (he : e.IsDotless)
    (hes : ∀ f ∈ es, f.IsDotless) (hspares : ∀ f ∈ es, f.Spares r e)
    (hfile : (t.restoreEach root es).1.isFile (classFile root e.obfuscated kind) = true) :
    t.isFile (classFile root e.obfuscated kind) = true ∧
      (t.restoreEach root es).1.node? (e.obfuscated.site r kind) =
        t.node? (e.obfuscated.site r kind) := by
  induction es generalizing t with
  | nil => exact ⟨hfile, rfl⟩
  | cons f es ih =>
    have hf := hes f (by simp)
    rw [restoreEach_cons_fst] at hfile ⊢
    obtain ⟨hnext, hsame⟩ := ih (h.restore hf) (fun g hg => hes g (by simp [hg]))
      (fun g hg => hspares g (by simp [hg])) hfile
    obtain ⟨hfirst, hsame'⟩ := isFile_of_isFile_restore h he hf (hspares f (by simp)) hnext
    exact ⟨hfirst, hsame.trans hsame'⟩

/-- A class with a single source file still has one when entries have been applied that all spare
it. -/
theorem IsSingle.restoreEach (h : t.HasRoot root r) (he : e.IsDotless)
    (hes : ∀ f ∈ es, f.IsDotless) (hspares : ∀ f ∈ es, f.Spares r e)
    (hsingle : t.IsSingle root e.obfuscated) :
    (t.restoreEach root es).1.IsSingle root e.obfuscated := fun hboth =>
  hsingle ⟨(isFile_of_isFile_restoreEach h he hes hspares hboth.1).1,
    (isFile_of_isFile_restoreEach h he hes hspares hboth.2).1⟩

/-- No run makes or removes a directory at a dotted place. -/
theorem directory_restoreEach_iff (h : t.HasRoot root r) (hes : ∀ e ∈ es, e.IsDotless)
    (hdot : IsDotted k) :
    (t.restoreEach root es).1.node? k = some .directory ↔ t.node? k = some .directory := by
  induction es generalizing t with
  | nil => rfl
  | cons e es ih =>
    have he := hes e (by simp)
    rw [restoreEach_cons_fst, ih (h.restore he) fun f hf => hes f (by simp [hf])]
    exact directory_restore_iff h he hdot

/-- **After a run all its entries are settled.** -/
theorem settled_restoreEach (h : t.HasRoot root r) (hes : ∀ e ∈ es, e.IsDotless)
    (hspares : ∀ e ∈ es, ∀ f ∈ es, e.Spares r f)
    (hsingle : ∀ e ∈ es, t.IsSingle root e.obfuscated) :
    ∀ e ∈ es, (t.restoreEach root es).1.Settled root r e := by
  -- The last entry is settled by itself, and the ones before it stay settled.
  induction es using List.reverseRecOn with
  | nil => simp
  | append_singleton es f ih =>
    have hes' : ∀ e ∈ es, e.IsDotless := fun e he => hes e (by simp [he])
    have hf := hes f (by simp)
    have hu := h.restoreEach hes'
    have hlater : ∀ e ∈ es ++ [f], (t.restoreEach root es).1.IsSingle root e.obfuscated :=
      fun e he => (hsingle e he).restoreEach h (hes e he) hes' fun g hg =>
        hspares g (by simp [hg]) e he
    rw [restoreEach_append_fst]
    intro e he
    show ((t.restoreEach root es).1.restore root f).1.Settled root r e
    rcases List.mem_append.1 he with hmem | hmem
    · have hsettled := ih hes' (fun a ha b hb => hspares a (by simp [ha]) b (by simp [hb]))
        (fun a ha => hsingle a (by simp [ha])) e hmem
      exact hsettled.restore hu (hes e he) hf (hspares f (by simp) e he) (hlater e he)
    · obtain rfl := List.mem_singleton.1 hmem
      exact settled_restore hu hf (hspares e he e he) (hlater e he)

/-- A run of entries that change nothing changes nothing. -/
theorem restoreEach_of_fixed (hes : ∀ e ∈ es, (t.restore root e).1 = t) :
    t.restoreEach root es = (t, es.map fun e => (t.restore root e).2) := by
  induction es with
  | nil => rfl
  | cons e es ih =>
    rw [restoreEach, hes e (by simp), ih fun f hf => hes f (by simp [hf])]
    rfl

/-- An entry whose plan moves no file relocates none. -/
theorem outcome_ne_relocated (hnone : (t.plan root r e).transfer? = none) (a b : Path) :
    (t.plan root r e).outcome ≠ .relocated a b := by
  intro h
  rw [plan] at h hnone
  cases hl : t.locate? root e.obfuscated with
  | none => rw [hl] at h; cases h
  | some file =>
    rw [hl] at h hnone
    simp only [planFor] at h hnone
    split at h
    · cases h
    · split at h
      · cases h
      · next hf _ hm => simp [hf, hm] at hnone

/-- The file of a failure is the one the plan is for. -/
theorem source_of_planFor_failed (h : (t.planFor root r e kind).outcome = .failed source error) :
    source = classFile root e.obfuscated kind := by
  simp only [planFor] at h
  split at h
  · exact (Outcome.failed.inj h).1.symm
  · split at h
    · exact (Outcome.failed.inj h).1.symm
    · split at h
      · cases h
      · exact (Outcome.failed.inj h).1.symm

/-- The file of a failure is the one that was found. -/
theorem exists_kind_of_failed (h : (t.plan root r e).outcome = .failed source error) :
    ∃ kind, source = classFile root e.obfuscated kind ∧
      t.isFile (classFile root e.obfuscated kind) = true := by
  rw [plan] at h
  cases hl : t.locate? root e.obfuscated with
  | none => rw [hl] at h; cases h
  | some file =>
    rw [hl] at h
    exact ⟨file.kind, source_of_planFor_failed h, (locate?_eq_some hl).2⟩

/-- A file that was found, and is not found after a run whose entries spare its class, has been
moved by an entry that looks for it at the same site. -/
theorem exists_same_site (h : t.HasRoot root r) (he : e.IsDotless) (hes : ∀ f ∈ es, f.IsDotless)
    (hspares : ∀ f ∈ es, f.Spares r e)
    (hbefore : t.isFile (classFile root e.obfuscated kind) = true)
    (hafter : (t.restoreEach root es).1.isFile (classFile root e.obfuscated kind) = false) :
    ∃ f ∈ es, f.obfuscated.site r kind = e.obfuscated.site r kind := by
  obtain ⟨hfits, b, hb⟩ := (h.isFile_classFile_iff he.obfuscated kind).1 hbefore
  by_contra hnone
  have hsites : ∀ f ∈ es, e.obfuscated.site r kind ∉ f.sites r := by
    intro f hf hmem
    obtain ⟨kind', heq | heq⟩ := Entry.mem_sites_iff.1 hmem
    · have hname : e.obfuscated.fileName kind = f.obfuscated.fileName kind' := by
        rw [ClassPath.site_eq_concat, ClassPath.site_eq_concat] at heq
        exact List.singleton_inj.1 (List.append_inj' heq rfl).2
      obtain rfl := (ClassPath.fileName_injective hname).2
      exact hnone ⟨f, hf, heq.symm⟩
    · exact hspares f hf kind' kind heq.symm
  have hsame := node?_restoreEach_of_isDotted h hes (isDotted_site r e.obfuscated kind) hsites
  have hfound := ((h.restoreEach hes).isFile_classFile_iff he.obfuscated kind).2
    ⟨hfits, b, by rw [hsame, hb]⟩
  rw [hafter] at hfound
  cases hfound

/-- **What becomes of an entry that failed** without moving its file, when it is applied again
after the others: it fails in the same way and changes nothing, or else another entry has moved the
file from the same site, and it is skipped. -/
theorem restore_again (h : t.HasRoot root r) (he : e.IsDotless) (hpost : ∀ f ∈ post, f.IsDotless)
    (hspares : ∀ f ∈ post, f.Spares r e) (hsingle : t.IsSingle root e.obfuscated)
    (hout : (t.restore root e).2 = .failed source error)
    (hsettled : (t.restoreEach root post).1.Settled root r e) :
    ((t.restoreEach root post).1.isFile source = true ∧
        (t.restoreEach root post).1.restore root e =
          ((t.restoreEach root post).1, .failed source error)) ∨
      ((t.restoreEach root post).1.isFile source = false ∧
        (t.restoreEach root post).1.restore root e = ((t.restoreEach root post).1, .skipped) ∧
        ∃ f ∈ post, ∃ kind, source = classFile root e.obfuscated kind ∧
          f.obfuscated.site r kind = e.obfuscated.site r kind) := by
  have hu := h.restoreEach hpost
  have hsingle' := hsingle.restoreEach h he hpost hspares
  rw [outcome_restore h he] at hout
  obtain ⟨kind, rfl, hfile⟩ := exists_kind_of_failed hout
  -- Either the file is still there, and the plan with it, or another entry has moved it.
  cases hafter : (t.restoreEach root post).1.isFile (classFile root e.obfuscated kind) with
  | true =>
    left
    obtain ⟨-, hsame⟩ := isFile_of_isFile_restoreEach h he hpost hspares hafter
    have hplan : (t.restoreEach root post).1.plan root r e = t.plan root r e := by
      rw [hsingle'.plan_eq hafter, hsingle.plan_eq hfile]
      exact planFor_congr he hsame (directory_restoreEach_iff h hpost (isDotted_site ..))
        fun k hk => blocks_restoreEach_iff h hpost hk
    refine ⟨rfl, Prod.ext (hsettled.restore_fst hu he) ?_⟩
    rw [outcome_restore hu he, hplan, hout]
  | false =>
    right
    obtain ⟨f, hf, hsite⟩ := exists_same_site h he hpost hspares hfile hafter
    refine ⟨rfl, restore_of_locate?_eq_none (locate?_eq_none_iff.2 fun kind' => ?_), f, hf, kind,
      rfl, hsite⟩
    by_contra hfound
    rw [Bool.not_eq_false] at hfound
    obtain ⟨hfound', -⟩ := isFile_of_isFile_restoreEach h he hpost hspares hfound
    obtain rfl := hsingle.kind_eq hfile hfound'
    rw [hafter] at hfound
    cases hfound

/-- An entry that failed, and whose file is still there, has moved no file. -/
theorem transfer?_eq_none_of_isFile (h : t.HasRoot root r) (he : e.IsDotless)
    (hspares : e.Spares r e) (hout : (t.restore root e).2 = .failed source error)
    (hstays : (t.restore root e).1.isFile source = true) : (t.plan root r e).transfer? = none := by
  rw [outcome_restore h he] at hout
  cases hm : (t.plan root r e).transfer? with
  | none => rfl
  | some m =>
    obtain ⟨kind, b, hb, hfile, hlocate, -, rfl⟩ := transfer?_plan h he hm
    rw [plan_of_locate? hlocate] at hout
    obtain rfl := source_of_planFor_failed hout
    obtain ⟨-, b', hb'⟩ := ((h.restore he).isFile_classFile_iff he.obfuscated kind).1 hstays
    rw [node?_restore_source h he hm (hspares kind kind).symm] at hb'
    cases hb'

/-! ## Resuming -/

/-- **Resuming**: a run of all entries after a run of the first ones comes to the same tree as one
run of all. -/
theorem restoreEach_resume (h : t.HasRoot root r) (hes : ∀ e ∈ pre ++ post, e.IsDotless)
    (hspares : ∀ e ∈ pre ++ post, ∀ f ∈ pre ++ post, e.Spares r f)
    (hsingle : ∀ e ∈ pre ++ post, t.IsSingle root e.obfuscated) :
    ((t.restoreEach root pre).1.restoreEach root (pre ++ post)).1 =
      (t.restoreEach root (pre ++ post)).1 := by
  have hpre : ∀ e ∈ pre, e.IsDotless := fun e he => hes e (by simp [he])
  have hsettled := settled_restoreEach h hpre
    (fun e he f hf => hspares e (by simp [he]) f (by simp [hf]))
    fun e he => hsingle e (by simp [he])
  have hagain := restoreEach_of_fixed fun e he =>
    (hsettled e he).restore_fst (h.restoreEach hpre) (hpre e he)
  rw [restoreEach_append_fst, hagain, restoreEach_append_fst]

/-- Settled entries relocate nothing. -/
theorem relocated_eq_zero (h : t.HasRoot root r) (hes : ∀ e ∈ es, e.IsDotless)
    (hsettled : ∀ e ∈ es, t.Settled root r e) :
    (Restoration.Tally.ofOutcomes (es.map fun e => (t.restore root e).2)).relocated = 0 := by
  rw [Restoration.Tally.ofOutcomes, List.countP_eq_zero]
  intro o ho
  obtain ⟨e, he, rfl⟩ := List.mem_map.1 ho
  rw [outcome_restore h (hes e he)]
  have hne := outcome_ne_relocated (hsettled e he).1
  cases hout : (t.plan root r e).outcome with
  | relocated a b => exact absurd hout (hne a b)
  | skipped => simp
  | failed a c => simp

/-- **An entry that failed without moving its file** fails again after the whole run, unless an
entry behind it has moved the file from the same site. -/
theorem restore_after_failure (h : t.HasRoot root r) (hes : ∀ f ∈ pre ++ e :: post, f.IsDotless)
    (hspares : ∀ f ∈ pre ++ e :: post, ∀ g ∈ pre ++ e :: post, f.Spares r g)
    (hsingle : ∀ f ∈ pre ++ e :: post, t.IsSingle root f.obfuscated)
    (hout : ((t.restoreEach root pre).1.restore root e).2 = .failed source error)
    (hstays : ((t.restoreEach root pre).1.restore root e).1.isFile source = true) :
    ((t.restoreEach root (pre ++ e :: post)).1.isFile source = true ∧
        (t.restoreEach root (pre ++ e :: post)).1.restore root e =
          ((t.restoreEach root (pre ++ e :: post)).1, .failed source error)) ∨
      ((t.restoreEach root (pre ++ e :: post)).1.isFile source = false ∧
        (t.restoreEach root (pre ++ e :: post)).1.restore root e =
          ((t.restoreEach root (pre ++ e :: post)).1, .skipped) ∧
        ∃ f ∈ post, ∃ kind, source = classFile root e.obfuscated kind ∧
          f.obfuscated.site r kind = e.obfuscated.site r kind) := by
  have hmem : e ∈ pre ++ e :: post := by simp
  have hpre : ∀ f ∈ pre, f ∈ pre ++ e :: post := fun f hf => by simp [hf]
  have hpost : ∀ f ∈ post, f ∈ pre ++ e :: post := fun f hf => by simp [hf]
  have he := hes e hmem
  have hself := hspares e hmem e hmem
  have hfirst := h.restoreEach fun f hf => hes f (hpre f hf)
  have hsingle' := (hsingle e hmem).restoreEach h he (fun f hf => hes f (hpre f hf))
    fun f hf => hspares f (hpre f hf) e hmem
  have hsettled := settled_restoreEach h hes hspares hsingle e hmem
  -- Applied twice in a row, the entry fails twice in the same way.
  have hnone := transfer?_eq_none_of_isFile hfirst he hself hout hstays
  have hsecond : (((t.restoreEach root pre).1.restore root e).1.restore root e).2 =
      .failed source error := by
    rw [outcome_restore (hfirst.restore he) he, plan_restore_self hfirst he hnone,
      ← outcome_restore hfirst he, hout]
  rw [restoreEach_append_fst, restoreEach_cons_fst] at hsettled ⊢
  exact restore_again (hfirst.restore he) he (fun f hf => hes f (hpost f hf))
    (fun f hf => hspares f (hpost f hf) e hmem) (hsingle'.restore hfirst he he hself) hsecond
    hsettled

/-- **An interrupted or repeated restoration can be resumed.** After any number of entries, running
the whole table leaves the tree that one run of the table leaves. A second run changes nothing and
relocates nothing. An entry that failed in the first run with its file unmoved fails in the second
run in the same way, unless an entry behind it has moved the file from the same site: then it is
skipped. -/
theorem restoreTable_resume (htable : table = Table.parse order text) (h : t.HasRoot root r)
    (hchain : table.IsUnchained r) (hsingle : ∀ e ∈ table.entries, t.IsSingle root e.obfuscated) :
    (∀ n, ((t.restoreEach root (table.entries.take n)).1.restoreTable root table).tree =
        (t.restoreTable root table).tree) ∧
      (t.restoreTable root table).tree.restoreEach root table.entries =
        ((t.restoreTable root table).tree,
          table.entries.map fun e => ((t.restoreTable root table).tree.restore root e).2) ∧
      ((t.restoreTable root table).tree.restoreTable root table).summary.tally.relocated = 0 ∧
      ∀ pre e post source error, table.entries = pre ++ e :: post →
        ((t.restoreEach root pre).1.restore root e).2 = .failed source error →
        ((t.restoreEach root pre).1.restore root e).1.isFile source = true →
        ((t.restoreTable root table).tree.isFile source = true ∧
            (t.restoreTable root table).tree.restore root e =
              ((t.restoreTable root table).tree, .failed source error)) ∨
          ((t.restoreTable root table).tree.isFile source = false ∧
            (t.restoreTable root table).tree.restore root e =
              ((t.restoreTable root table).tree, .skipped) ∧
            ∃ f ∈ post, ∃ kind, source = classFile root e.obfuscated kind ∧
              f.obfuscated.site r kind = e.obfuscated.site r kind) := by
  have hes : ∀ e ∈ table.entries, e.IsDotless := by
    subst htable
    exact fun e he => Table.isDotless_of_mem_entries he
  have hroot : (t.restoreTable root table).tree.HasRoot root r := h.restoreEach hes
  have hsettled : ∀ e ∈ table.entries, (t.restoreTable root table).tree.Settled root r e :=
    settled_restoreEach h hes hchain hsingle
  have hagain := restoreEach_of_fixed fun e he => (hsettled e he).restore_fst hroot (hes e he)
  -- All of it rests on one fact: after the run every entry is settled, and so changes nothing.
  refine ⟨fun n => ?_, hagain, ?_, ?_⟩
  · have hsplit := List.take_append_drop n table.entries
    have hresume := restoreEach_resume h (by rwa [hsplit])
      (by rw [hsplit]; exact hchain) (by rwa [hsplit])
    rwa [hsplit] at hresume
  · show (Restoration.Tally.ofOutcomes
      ((t.restoreTable root table).tree.restoreEach root table.entries).2).relocated = 0
    rw [hagain]
    exact relocated_eq_zero hroot hes hsettled
  · intro pre e post source error hentries hout hstays
    have hfinal : (t.restoreTable root table).tree = (t.restoreEach root (pre ++ e :: post)).1 := by
      rw [← hentries]
      rfl
    rw [hfinal]
    rw [hentries] at hes hsingle
    apply restore_after_failure h hes _ hsingle hout hstays
    rw [← hentries]
    exact hchain

/-- A source root with two source files, and a file where one mapping table wants a folder. -/
def blockedClass : FileTree where
  entries := [(["s".toList], .directory), (["s".toList, "a".toList], .directory),
    (["s".toList, "a".toList, "b.java".toList], .file (Utf8.encode "class b {}".toList)),
    (["s".toList, "c.kt".toList], .file (Utf8.encode "class c".toList)),
    (["s".toList, "blocked".toList], .file [])]
  workingDirectory := []

/-- The source root of the tree is there. -/
theorem blockedClass_hasRoot : blockedClass.HasRoot "s".toList ["s".toList] :=
  ⟨by decide, by decide, by decide⟩

/-- A table with an entry that fails for a folder, and another that does not. -/
def blockedTable : Table :=
  Table.parse .obfuscatedFirst "a.b -> blocked.X:\nc -> y.C:".toList

/-- The first entry fails, and after the second one it fails again. -/
theorem restoreTable_resume_blockedClass :
    blockedTable.IsUnchained ["s".toList] ∧
      (∀ e ∈ blockedTable.entries, blockedClass.IsSingle "s".toList e.obfuscated) ∧
      (∀ n, ((blockedClass.restoreEach "s".toList (blockedTable.entries.take n)).1.restoreTable
          "s".toList blockedTable).tree =
        (blockedClass.restoreTable "s".toList blockedTable).tree) ∧
      ((blockedClass.restoreTable "s".toList blockedTable).tree.restore "s".toList
          ⟨"a/b".toList, "blocked/X".toList⟩).2 =
        .failed "s/a/b.java".toList (.io "s/blocked".toList .alreadyExists) := by
  have hchain : blockedTable.IsUnchained ["s".toList] := by
    intro e he f hf kind kind'
    revert e f
    cases kind <;> cases kind' <;> decide
  have hsingle : ∀ e ∈ blockedTable.entries, blockedClass.IsSingle "s".toList e.obfuscated := by
    unfold IsSingle
    decide
  have htable : blockedTable =
    Table.parse .obfuscatedFirst "a.b -> blocked.X:\nc -> y.C:".toList := rfl
  obtain ⟨hresume, -, -, hfail⟩ := restoreTable_resume htable blockedClass_hasRoot hchain hsingle
  refine ⟨hchain, hsingle, hresume, ?_⟩
  have hcase := hfail [] ⟨"a/b".toList, "blocked/X".toList⟩ [⟨"c".toList, "y/C".toList⟩]
    "s/a/b.java".toList (.io "s/blocked".toList .alreadyExists) (by decide) (by decide)
    (by decide)
  rcases hcase with ⟨-, hcase⟩ | ⟨-, -, f, hf, kind, -, hsite⟩
  · rw [hcase]
  · obtain rfl := List.mem_singleton.1 hf
    revert hsite
    cases kind <;> decide

/-- A table with two entries that look for their class at the same site. -/
def twiceBlockedTable : Table :=
  Table.parse .obfuscatedFirst "a.b -> blocked.X:\na..b -> y.Y:".toList

/-- An entry that failed with its file unmoved need not fail again: another entry that looks for
its class at the same site may have moved the file. -/
theorem not_failed_again :
    blockedClass.HasRoot "s".toList ["s".toList] ∧
      (∀ e ∈ twiceBlockedTable.entries, ∀ f ∈ twiceBlockedTable.entries,
        e.Spares ["s".toList] f) ∧
      (∀ e ∈ twiceBlockedTable.entries, blockedClass.IsSingle "s".toList e.obfuscated) ∧
      ¬ ∀ pre e post source error, twiceBlockedTable.entries = pre ++ e :: post →
        ((blockedClass.restoreEach "s".toList pre).1.restore "s".toList e).2 =
          .failed source error →
        ((blockedClass.restoreEach "s".toList pre).1.restore "s".toList e).1.isFile source = true →
        ((blockedClass.restoreTable "s".toList twiceBlockedTable).tree.restore "s".toList e).2 =
          .failed source error := by
  refine ⟨blockedClass_hasRoot, ?_, ?_, fun hall => ?_⟩
  · intro e he f hf kind kind'
    revert e f
    cases kind <;> cases kind' <;> decide
  · unfold IsSingle
    decide
  · have hagain := hall [] ⟨"a/b".toList, "blocked/X".toList⟩ [⟨"a//b".toList, "y/Y".toList⟩]
      "s/a/b.java".toList (.io "s/blocked".toList .alreadyExists) (by decide) (by decide)
      (by decide)
    revert hagain
    decide

end FileTree

end SourceRecovery
