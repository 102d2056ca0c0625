import SourceRecovery.Proofs.Relocation.Site
import SourceRecovery.Proofs.Text.Splitting

/-! # Plain class paths

A class path is **plain** if its segments are words: names that are not empty and made of word
characters. Plain class paths lie below the source root, and different ones have different sites
(**`site_injective`**). -/

namespace SourceRecovery

namespace ClassPath

variable {path p q : ClassPath} {kind kind' : SourceKind} {r : Location}

/-- The segments of a **plain** class path are words. -/
def IsPlain (path : ClassPath) : Prop := ∀ s ∈ Path.segments path, Text.IsWord s

instance (path : ClassPath) : Decidable path.IsPlain :=
  inferInstanceAs (Decidable (∀ s ∈ Path.segments path, Text.IsWord s))

/-- A plain class path goes down from the source root. -/
theorem IsPlain.base_eq (h : path.IsPlain) (r : Location) : path.base r = r := by
  have hne : path ≠ [] := by
    rintro rfl
    exact (h [] (by decide)).1 rfl
  have hrel : ¬ Path.isAbsolute path = true := by
    rw [Path.isAbsolute_iff hne]
    intro hhead
    exact (h [] (List.mem_of_mem_head? hhead)).1 rfl
  rw [base, if_neg hrel]

/-- A plain class path has no dot. -/
theorem IsPlain.dot_notMem (h : path.IsPlain) : '.' ∉ path := by
  intro hdot
  obtain ⟨s, hs, hmem⟩ := Path.exists_mem_segments hdot (by decide)
  exact absurd ((h s hs).2 '.' hmem) (by decide +kernel)

/-- A word is no idle segment. -/
theorem isIdle_eq_false {s : Text} (hs : s.IsWord) : Path.isIdle s = false := by
  rw [Path.isIdle, Bool.or_eq_false_iff, decide_eq_false_iff_not, decide_eq_false_iff_not]
  refine ⟨hs.1, ?_⟩
  rintro rfl
  exact absurd (hs.2 '.' (by simp)) (by decide +kernel)

/-- The folders of a plain class path are all its segments but the last. -/
theorem IsPlain.folders_eq (h : path.IsPlain) : path.folders = (Path.segments path).dropLast := by
  rw [folders, List.filter_eq_self]
  intro s hs
  rw [isIdle_eq_false (h s (List.dropLast_subset _ hs))]
  rfl

/-- The site of a plain class path is below the source root, its own folders and file name on the
way. -/
theorem IsPlain.site_eq (h : path.IsPlain) (r : Location) (kind : SourceKind) :
    path.site r kind = r ++ (Path.segments path).dropLast ++ [path.fileName kind] := by
  rw [site_eq_concat, h.base_eq, h.folders_eq]

/-- The sites of a plain class path lie below the source root. -/
theorem IsPlain.isPrefix_site (h : path.IsPlain) (r : Location) (kind : SourceKind) :
    r <+: path.site r kind := by
  rw [h.site_eq, List.append_assoc]
  exact List.prefix_append ..

/-- **Different plain class paths have different sites.** -/
theorem site_injective (hp : p.IsPlain) (hq : q.IsPlain) (h : p.site r kind = q.site r kind') :
    p = q ∧ kind = kind' := by
  rw [hp.site_eq, hq.site_eq] at h
  obtain ⟨hfolders, hname⟩ := List.append_inj' h rfl
  obtain ⟨hsimple, hkind⟩ := fileName_injective (List.singleton_inj.1 hname)
  have hsegments : Path.segments p = Path.segments q := by
    rw [segments_eq p, segments_eq q, List.append_cancel_left hfolders, hsimple]
  refine ⟨?_, hkind⟩
  rw [← Path.join_segments p, ← Path.join_segments q, hsegments]

/-- The simple name of a plain class path is one of its segments. -/
theorem simpleName_mem_segments (path : ClassPath) : path.simpleName ∈ Path.segments path := by
  rw [segments_eq path]
  simp

end ClassPath

/-- The class paths of a **plain** entry are plain. -/
structure Entry.IsPlain (e : Entry) : Prop where
  obfuscated : e.obfuscated.IsPlain
  restored : e.restored.IsPlain

instance (e : Entry) : Decidable e.IsPlain :=
  decidable_of_iff (e.obfuscated.IsPlain ∧ e.restored.IsPlain)
    ⟨fun h => ⟨h.1, h.2⟩, fun h => ⟨h.obfuscated, h.restored⟩⟩

end SourceRecovery
