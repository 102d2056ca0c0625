import Mathlib.Data.Finset.Card
import Mathlib.Data.Finset.Dedup
import SourceRecovery.Proofs.Relocation.Footprint
import SourceRecovery.Proofs.Relocation.Plain

/-! # Replacing a file

A moved file takes the place of whatever file is at its target, and that file is lost: the entry
**replaces** it (`FileTree.replaces`). No entry loses a file in any other way.

* **`replaces_iff`** — an entry replaces a file if its plan moves a file to where another one is.
* **`card_filesBelow_restore`** — an entry loses one file if it replaces one, and else none.
* **`destination?_eq_some`**, **`destination?_eq_none`** — where a file is after an entry, unless
  the entry replaces it.
* **`destination?_injective`** — no two files have the same destination. -/

namespace SourceRecovery

variable {r k l l' : Location} {e : Entry} {kind : SourceKind}

namespace FileTree

variable {t : FileTree} {root : Path} {b : Bytes} {m : Transfer}

/-! ## Regular files -/

/-- Whether a regular file is at a location. -/
def holdsFile (t : FileTree) (l : Location) : Bool :=
  match t.node? l with
  | some (.file _) => true
  | _ => false

/-- Whether a place holds a file is seen from the node. -/
theorem holdsFile_iff : t.holdsFile l = true ↔ ∃ b, t.node? l = some (.file b) := by
  unfold holdsFile
  split
  · next b hb => simp [hb]
  · next hne =>
    refine ⟨nofun, ?_⟩
    rintro ⟨b, hb⟩
    exact absurd hb (hne b)

/-- A file blocks its place. -/
theorem blocks_of_holdsFile (h : t.holdsFile l = true) : t.Blocks l := by
  obtain ⟨b, hb⟩ := holdsFile_iff.1 h
  simp [Blocks, hb]

/-- The locations of the **regular files** below a location. -/
def filesBelow (t : FileTree) (r : Location) : Finset Location :=
  (t.entries.map Prod.fst).toFinset.filter fun l => r <+: l ∧ t.holdsFile l = true

/-- The files below a location are all the places behind it that hold one. -/
theorem mem_filesBelow : l ∈ t.filesBelow r ↔ r <+: l ∧ t.holdsFile l = true := by
  unfold filesBelow
  rw [Finset.mem_filter, List.mem_toFinset]
  refine ⟨fun h => h.2, fun h => ⟨?_, h⟩⟩
  obtain ⟨b, hb⟩ := holdsFile_iff.1 h.2
  rw [node?, if_neg (ne_nil_of_file hb)] at hb
  have hsome : (t.entries.lookup l).isSome := by rw [hb]; rfl
  obtain ⟨entry, hentry, hkey⟩ := List.lookup_isSome_iff.1 hsome
  exact List.mem_map.2 ⟨entry, hentry, (by simpa using hkey : l = entry.1).symm⟩

/-! ## One entry -/

/-- Where a file is after an entry has been applied, unless the entry **replaces** it. -/
def destination? (t : FileTree) (root : Path) (r : Location) (e : Entry) (l : Location) :
    Option Location :=
  match (t.plan root r e).transfer? with
  | none => some l
  | some m => if l = m.source then some m.target else if l = m.target then none else some l

/-- Whether an entry **replaces** a file: a file is at its target, and its own goes there. -/
def replaces (t : FileTree) (root : Path) (e : Entry) : Bool :=
  match t.locate? root e.obfuscated with
  | none => false
  | some file => t.isFile (classFile root e.restored file.kind) &&
      !(t.restore root e).1.isFile file.path

/-- Where an entry makes at most a directory, it leaves the files alone. -/
theorem holdsFile_restore_of_folder (r : Location)
    (hk : (t.restore root e).1.node? k =
      if k ∈ (t.plan root r e).folders then some .directory else t.node? k) :
    (t.restore root e).1.holdsFile k = t.holdsFile k := by
  unfold holdsFile
  rw [hk]
  split_ifs with hmem
  · rcases not_blocks_iff.1 (not_blocks_of_mem_folders hmem) with hfree | hfree
    · rw [hfree]
    · rw [hfree]
  · rfl

/-- Without a transfer, an entry leaves the files alone. -/
theorem holdsFile_restore_of_eq_none (h : t.HasRoot root r) (he : e.IsDotless)
    (hm : (t.plan root r e).transfer? = none) (k : Location) :
    (t.restore root e).1.holdsFile k = t.holdsFile k := by
  apply holdsFile_restore_of_folder r
  rw [node?_restore h he, Plan.nodeAfter, hm]

/-- With a transfer, a file is at the target, none is at the source, and the others stay. -/
theorem node?_restore_of_eq_some (h : t.HasRoot root r) (he : e.IsDotless)
    (hm : (t.plan root r e).transfer? = some m) (hk : t.holdsFile k = true)
    (hsource : k ≠ m.source) (htarget : k ≠ m.target) :
    (t.restore root e).1.node? k = t.node? k := by
  have hfolder : k ∉ (t.plan root r e).folders := fun hmem =>
    not_blocks_of_mem_folders hmem (blocks_of_holdsFile hk)
  rw [node?_restore h he, Plan.nodeAfter, hm]
  simp only [if_neg htarget, if_neg hsource, if_neg hfolder]

/-- When an entry has been applied that moves a file, there is a file at the target, and none at the
source unless it is the same place. -/
theorem holdsFile_restore_of_eq_some (h : t.HasRoot root r) (he : e.IsDotless)
    (hm : (t.plan root r e).transfer? = some m) (k : Location) :
    (t.restore root e).1.holdsFile k = true ↔
      k = m.target ∨ k ≠ m.source ∧ t.holdsFile k = true := by
  by_cases htarget : k = m.target
  · subst htarget
    simp [holdsFile, node?_restore_target h he hm]
  · by_cases hsource : k = m.source
    · subst hsource
      simp [holdsFile, node?_restore_source h he hm htarget, htarget]
    · have hsame : (t.restore root e).1.holdsFile k = t.holdsFile k := by
        apply holdsFile_restore_of_folder r
        rw [node?_restore h he, Plan.nodeAfter, hm]
        simp only [if_neg htarget, if_neg hsource]
      simp [hsame, htarget, hsource]

/-- **An entry replaces a file** exactly if its plan moves a file to where another one is. -/
theorem replaces_iff (h : t.HasRoot root r) (he : e.IsDotless) :
    t.replaces root e = true ↔ ∃ m, (t.plan root r e).transfer? = some m ∧
      m.source ≠ m.target ∧ t.holdsFile m.target = true := by
  unfold replaces
  cases hl : t.locate? root e.obfuscated with
  | none => simp [plan, hl]
  | some file =>
    obtain ⟨hpath, hfile⟩ := locate?_eq_some hl
    have hplan : t.plan root r e = t.planFor root r e file.kind := plan_of_locate? hl
    obtain ⟨hfits, b, hb⟩ := (h.isFile_classFile_iff he.obfuscated file.kind).1 hfile
    simp only [Bool.and_eq_true, Bool.not_eq_true', hpath]
    constructor
    · rintro ⟨htarget, hgone⟩
      obtain ⟨-, hnode⟩ := (h.isFile_classFile_iff he.restored file.kind).1 htarget
      -- The file is gone, and so it has been moved to another place.
      have hsource : (t.restore root e).1.holdsFile (e.obfuscated.site r file.kind) ≠ true := by
        intro hholds
        have hstays := ((h.restore he).isFile_classFile_iff he.obfuscated file.kind).2
          ⟨hfits, holdsFile_iff.1 hholds⟩
        rw [hgone] at hstays
        cases hstays
      cases hm : (t.plan root r e).transfer? with
      | none =>
        rw [holdsFile_restore_of_eq_none h he hm] at hsource
        exact absurd (holdsFile_iff.2 ⟨b, hb⟩) hsource
      | some m =>
        rw [ne_eq, holdsFile_restore_of_eq_some h he hm] at hsource
        rw [hplan] at hm
        obtain ⟨hms, hmt⟩ := source_target_of_planFor hm
        refine ⟨m, rfl, ?_, ?_⟩
        · rw [hms]
          exact fun heq => hsource (.inl heq)
        · rw [hmt]
          exact holdsFile_iff.2 hnode
    · rintro ⟨m, hm, hne, hholds⟩
      have hgone := node?_restore_source h he hm hne
      rw [hplan] at hm
      obtain ⟨hms, hmt⟩ := source_target_of_planFor hm
      rw [hmt] at hholds
      rw [hms] at hgone
      refine ⟨(h.isFile_classFile_iff he.restored file.kind).2
        ⟨nameFits_of_transfer? hm, holdsFile_iff.1 hholds⟩, ?_⟩
      by_contra hstays
      rw [Bool.not_eq_false] at hstays
      obtain ⟨-, b', hb'⟩ := ((h.restore he).isFile_classFile_iff he.obfuscated file.kind).1 hstays
      rw [hgone] at hb'
      cases hb'

/-- **An entry loses one file** if it replaces one, and otherwise none. -/
theorem card_filesBelow_restore (h : t.HasRoot root r) (he : e.IsDotless) (hplain : e.IsPlain) :
    ((t.restore root e).1.filesBelow r).card + (if t.replaces root e then 1 else 0) =
      (t.filesBelow r).card := by
  cases hm : (t.plan root r e).transfer? with
  | none =>
    have hsame : (t.restore root e).1.filesBelow r = t.filesBelow r := by
      ext l
      rw [mem_filesBelow, mem_filesBelow, holdsFile_restore_of_eq_none h he hm]
    have hnot : ¬ t.replaces root e = true := by
      rw [replaces_iff h he, hm]
      simp
    rw [hsame, if_neg hnot]
    rfl
  | some m =>
    obtain ⟨kind, b, hb, -, -, -, rfl⟩ := transfer?_plan h he hm
    have hsource : e.obfuscated.site r kind ∈ t.filesBelow r :=
      mem_filesBelow.2 ⟨hplain.obfuscated.isPrefix_site r kind, holdsFile_iff.2 ⟨b, hb⟩⟩
    have hafter : (t.restore root e).1.filesBelow r =
        insert (e.restored.site r kind) ((t.filesBelow r).erase (e.obfuscated.site r kind)) := by
      ext l
      rw [Finset.mem_insert, Finset.mem_erase, mem_filesBelow, mem_filesBelow,
        holdsFile_restore_of_eq_some h he hm]
      simp only
      constructor
      · rintro ⟨hl, hl' | ⟨hne, hl'⟩⟩
        · exact .inl hl'
        · exact .inr ⟨hne, hl, hl'⟩
      · rintro (rfl | ⟨hne, hl, hl'⟩)
        · exact ⟨hplain.restored.isPrefix_site r kind, .inl rfl⟩
        · exact ⟨hl, .inr ⟨hne, hl'⟩⟩
    -- The count falls by one at the source, and rises again unless a file is at the target.
    have herase := Finset.card_erase_add_one hsource
    rw [hafter]
    by_cases htarget : e.restored.site r kind ∈ (t.filesBelow r).erase (e.obfuscated.site r kind)
    · obtain ⟨hne, htarget'⟩ := Finset.mem_erase.1 htarget
      have hyes : t.replaces root e = true :=
        (replaces_iff h he).2 ⟨_, hm, hne.symm, (mem_filesBelow.1 htarget').2⟩
      rw [Finset.insert_eq_of_mem htarget, if_pos hyes, herase]
    · have hnot : ¬ t.replaces root e = true := by
        rw [replaces_iff h he, hm]
        rintro ⟨m, hm', hne, hholds⟩
        obtain rfl := Option.some.inj hm'
        refine htarget (Finset.mem_erase.2 ⟨hne.symm, mem_filesBelow.2 ⟨?_, hholds⟩⟩)
        exact hplain.restored.isPrefix_site r kind
      rw [Finset.card_insert_of_notMem htarget, if_neg hnot, herase]

/-- **A file that is not replaced** stays, or goes to the site of the restored path and is
edited. -/
theorem destination?_eq_some (h : t.HasRoot root r) (he : e.IsDotless)
    (hb : t.node? l = some (.file b)) (hl : t.destination? root r e l = some l') :
    (l' = l ∧ (t.restore root e).1.node? l = some (.file b)) ∨
      ∃ kind, l = e.obfuscated.site r kind ∧ l' = e.restored.site r kind ∧
        (t.restore root e).1.node? l' = some (.file (e.editBytes b)) := by
  have hfile : t.holdsFile l = true := holdsFile_iff.2 ⟨b, hb⟩
  unfold destination? at hl
  cases hm : (t.plan root r e).transfer? with
  | none =>
    rw [hm] at hl
    obtain rfl := Option.some.inj hl
    refine .inl ⟨rfl, ?_⟩
    have hfolder : l ∉ (t.plan root r e).folders := fun hmem =>
      not_blocks_of_mem_folders hmem (blocks_of_holdsFile hfile)
    rw [node?_restore h he, Plan.nodeAfter, hm]
    simp only [if_neg hfolder, hb]
  | some m =>
    rw [hm] at hl
    simp only at hl
    split_ifs at hl with hsource htarget
    · -- The file itself is the one that is moved.
      obtain rfl := Option.some.inj hl
      have hgoal := node?_restore_target h he hm
      obtain ⟨kind, b', hb', -, -, -, rfl⟩ := transfer?_plan h he hm
      subst hsource
      rw [hb] at hb'
      obtain rfl := Node.file.inj (Option.some.inj hb')
      exact .inr ⟨kind, rfl, rfl, hgoal⟩
    · obtain rfl := Option.some.inj hl
      refine .inl ⟨rfl, ?_⟩
      rw [node?_restore_of_eq_some h he hm hfile hsource htarget, hb]

/-- **A file is lost** only if the entry replaces it. -/
theorem destination?_eq_none (h : t.HasRoot root r) (he : e.IsDotless)
    (hfile : t.holdsFile l = true) (hl : t.destination? root r e l = none) :
    t.replaces root e = true ∧ ∃ kind, l = e.restored.site r kind := by
  unfold destination? at hl
  cases hm : (t.plan root r e).transfer? with
  | none => rw [hm] at hl; cases hl
  | some m =>
    rw [hm] at hl
    simp only at hl
    split_ifs at hl with hsource htarget
    subst htarget
    refine ⟨(replaces_iff h he).2 ⟨m, hm, fun heq => hsource heq.symm, hfile⟩, ?_⟩
    obtain ⟨kind, b, -, -, -, -, rfl⟩ := transfer?_plan h he hm
    exact ⟨kind, rfl⟩

/-- No two files have the same destination. -/
theorem destination?_injective {l₁ l₂ : Location} (h₁ : t.destination? root r e l₁ = some l')
    (h₂ : t.destination? root r e l₂ = some l') : l₁ = l₂ := by
  unfold destination? at h₁ h₂
  cases hm : (t.plan root r e).transfer? with
  | none =>
    rw [hm] at h₁ h₂
    exact Option.some.inj (h₁.trans h₂.symm)
  | some m =>
    rw [hm] at h₁ h₂
    simp only at h₁ h₂
    split_ifs at h₁ h₂ with hs₁ ht₁ hs₂ hs₂
    · rw [hs₁, ht₁]
    · exact absurd (Option.some.inj (h₂.trans h₁.symm)) hs₂
    · exact absurd (Option.some.inj (h₁.trans h₂.symm)) ‹_›
    · exact Option.some.inj (h₁.trans h₂.symm)

end FileTree

end SourceRecovery
