import SourceRecovery.Proofs.Mapping.CaptureOrders
import SourceRecovery.Proofs.Relocation.Inverse
import SourceRecovery.Proofs.Restoration.Independence

/-! # Applying a mapping file and then its inverse

Read in one capture order and then in the other, a mapping file gives entries and their inverses.
If it is **invertible** (`Record.IsInvertible`), its entries are pairwise apart in both runs, so
what one entry and its inverse do at their sites is all that happens there.

* **`restoreEach_inverse`** — a run of entries and then of their inverses.
* **`restoreTable_inverse`** — the two restorations give back every file as it was. -/

namespace SourceRecovery

variable {r k : Location} {e f : Entry} {es : List Entry} {line : ClassPath × ClassPath}
  {text : Text}

/-- A mapping file is **invertible** if no class path occurs twice in its class lines, and all of
them are plain. -/
structure Record.IsInvertible (text : Text) : Prop where
  /-- The class paths in front of the arrows differ. -/
  left : ((Record.classLines text).map Prod.fst).Nodup
  /-- The class paths behind the arrows differ. -/
  right : ((Record.classLines text).map Prod.snd).Nodup
  /-- No class path is on both sides. -/
  apart : ∀ line ∈ Record.classLines text, ∀ line' ∈ Record.classLines text, line.1 ≠ line'.2
  /-- All class paths are plain. -/
  plain : ∀ line ∈ Record.classLines text, line.1.IsPlain ∧ line.2.IsPlain

instance (text : Text) : Decidable (Record.IsInvertible text) :=
  decidable_of_iff
    (((Record.classLines text).map Prod.fst).Nodup ∧ ((Record.classLines text).map Prod.snd).Nodup ∧
      (∀ line ∈ Record.classLines text, ∀ line' ∈ Record.classLines text, line.1 ≠ line'.2) ∧
      ∀ line ∈ Record.classLines text, line.1.IsPlain ∧ line.2.IsPlain)
    ⟨fun ⟨h₁, h₂, h₃, h₄⟩ => ⟨h₁, h₂, h₃, h₄⟩, fun h => ⟨h.left, h.right, h.apart, h.plain⟩⟩

/-! ## The entries of an invertible mapping file -/

/-- Plain entries without a class path in common are apart. -/
theorem Entry.IsPlain.apart (he : e.IsPlain) (hf : f.IsPlain) (h₁ : e.obfuscated ≠ f.obfuscated)
    (h₂ : e.obfuscated ≠ f.restored) (h₃ : e.restored ≠ f.obfuscated)
    (h₄ : e.restored ≠ f.restored) : e.Apart r f := by
  intro k hk hk'
  obtain ⟨kind, rfl | rfl⟩ := Entry.mem_sites_iff.1 hk
  · obtain ⟨kind', heq | heq⟩ := Entry.mem_sites_iff.1 hk'
    · exact h₁ (ClassPath.site_injective he.obfuscated hf.obfuscated heq).1
    · exact h₂ (ClassPath.site_injective he.obfuscated hf.restored heq).1
  · obtain ⟨kind', heq | heq⟩ := Entry.mem_sites_iff.1 hk'
    · exact h₃ (ClassPath.site_injective he.restored hf.obfuscated heq).1
    · exact h₄ (ClassPath.site_injective he.restored hf.restored heq).1

/-- Entries that are apart have inverses that are. -/
theorem Entry.Apart.inverse (h : e.Apart r f) : e.inverse.Apart r f.inverse := fun k hk hk' =>
  h k (Entry.mem_sites_inverse.1 hk) (Entry.mem_sites_inverse.1 hk')

/-- Inverse entries are pairwise apart like the entries themselves. -/
theorem Entry.pairwise_inverse (hapart : es.Pairwise (Entry.Apart r)) :
    (es.map Entry.inverse).Pairwise (Entry.Apart r) := by
  rw [List.pairwise_map]
  exact hapart.imp Entry.Apart.inverse

/-- The inverses of plain entries have no dots. -/
theorem Entry.isDotless_of_mem_inverse (hes : ∀ e ∈ es, e.IsPlain) :
    ∀ e ∈ es.map Entry.inverse, e.IsDotless :=
  List.forall_mem_map.2 fun e he => (hes e he).inverse.isDotless

namespace Record.IsInvertible

/-- The entry of a class line of an invertible mapping file is plain. -/
theorem isPlain (h : Record.IsInvertible text) (hline : line ∈ Record.classLines text) :
    (Entry.ofLine .restoredFirst line).IsPlain := ⟨(h.plain line hline).2, (h.plain line hline).1⟩

/-- The entries are pairwise apart. -/
theorem pairwise (h : Record.IsInvertible text) (r : Location) :
    ((Record.classLines text).map (Entry.ofLine .restoredFirst)).Pairwise (Entry.Apart r) := by
  rw [List.pairwise_map]
  have hleft := List.pairwise_map.1 h.left
  have hright := List.pairwise_map.1 h.right
  refine (hleft.and hright).imp_of_mem ?_
  rintro line line' hline hline' ⟨hne, hne'⟩
  exact (h.isPlain hline).apart (h.isPlain hline') hne' (h.apart line' hline' line hline).symm
    (h.apart line hline line' hline') hne

/-- Read with the restored paths first, the file gives one entry for each line. -/
theorem entries_restoredFirst (h : Record.IsInvertible text) :
    (Table.parse .restoredFirst text).entries =
      (Record.classLines text).map (Entry.ofLine .restoredFirst) := Table.entries_parse h.right

/-- Read with the obfuscated paths first, the file gives the inverse entries. -/
theorem entries_obfuscatedFirst (h : Record.IsInvertible text) :
    (Table.parse .obfuscatedFirst text).entries =
      ((Record.classLines text).map (Entry.ofLine .restoredFirst)).map Entry.inverse := by
  rw [Table.entries_parse_inverse h.left h.right, h.entries_restoredFirst]

end Record.IsInvertible

namespace FileTree

variable {t : FileTree} {root : Path}

/-! ## Two runs -/

/-- **At the sites of an entry**, a run and then one of the inverses leave what the entry and its
inverse leave alone. -/
theorem node?_restoreEach_inverse_of_mem_sites (h : t.HasRoot root r)
    (hes : ∀ e ∈ es, e.IsPlain) (hapart : es.Pairwise (Entry.Apart r)) (he : e ∈ es)
    (hk : k ∈ e.sites r) :
    ((t.restoreEach root es).1.restoreEach root (es.map Entry.inverse)).1.node? k =
      ((t.restore root e).1.restore root e.inverse).1.node? k := by
  have hdot : ∀ e ∈ es, e.IsDotless := fun e he => (hes e he).isDotless
  have hk' : k ∈ e.inverse.sites r := Entry.mem_sites_inverse.2 hk
  have hroot := h.restoreEach hdot
  rw [node?_restoreEach_of_mem_sites hroot (Entry.isDotless_of_mem_inverse hes)
    (Entry.pairwise_inverse hapart) (List.mem_map_of_mem he) hk']
  apply node?_restore_congr (h.restore (hdot e he)) hroot (hes e he).inverse.isDotless _ _ hk'
  · intro l hl
    exact node?_restoreEach_of_mem_sites h hdot hapart he (Entry.mem_sites_inverse.1 hl)
  · intro l hl
    rw [blocks_restoreEach_iff h hdot hl, blocks_restore_iff h (hdot e he) hl]

/-- **Away from the sites** of the entries, a run and then one of the inverses make directories
where nothing is, and nothing else. -/
theorem node?_restoreEach_inverse_of_notMem (h : t.HasRoot root r) (hes : ∀ e ∈ es, e.IsPlain)
    (hk : ∀ e ∈ es, k ∉ e.sites r) :
    ((t.restoreEach root es).1.restoreEach root (es.map Entry.inverse)).1.node? k = t.node? k ∨
      t.node? k = none ∧
        ((t.restoreEach root es).1.restoreEach root (es.map Entry.inverse)).1.node? k =
          some .directory := by
  rw [← restoreEach_append_fst]
  apply node?_restoreEach_of_notMem h
  · intro e he
    rcases List.mem_append.1 he with he | he
    · exact (hes e he).isDotless
    · exact Entry.isDotless_of_mem_inverse hes e he
  · intro e he hmem
    rcases List.mem_append.1 he with he | he
    · exact hk e he hmem
    · obtain ⟨f, hf, rfl⟩ := List.mem_map.1 he
      exact hk f hf (Entry.mem_sites_inverse.1 hmem)

/-- **A run of entries and then of their inverses** leaves every place as it was, or makes a
directory where nothing was; only a null device does not come back from under a file. -/
theorem restoreEach_inverse (h : t.HasRoot root r) (hes : ∀ e ∈ es, e.IsPlain)
    (hne : ∀ e ∈ es, e.obfuscated ≠ e.restored) (hapart : es.Pairwise (Entry.Apart r))
    (hnone : ∀ e ∈ es, ∀ kind, t.isFile (classFile root e.restored kind) = false)
    (hundo : ∀ e ∈ es, ∀ file, t.locate? root e.obfuscated = some file →
      ∀ text, t.readText file.path = .ok text → e.Undoable text) (k : Location) :
    ((t.restoreEach root es).1.restoreEach root (es.map Entry.inverse)).1.node? k = t.node? k ∨
      t.node? k = none ∧
        ((t.restoreEach root es).1.restoreEach root (es.map Entry.inverse)).1.node? k =
          some .directory ∨
      t.node? k = some .nullDevice ∧
        ((t.restoreEach root es).1.restoreEach root (es.map Entry.inverse)).1.node? k = none := by
  by_cases hk : ∃ e ∈ es, k ∈ e.sites r
  · obtain ⟨e, he, hk⟩ := hk
    rw [node?_restoreEach_inverse_of_mem_sites h hes hapart he hk]
    have halone := node?_restore_inverse h (hes e he) (hne e he) (hnone e he) (hundo e he) hk
    exact halone.imp_right .inr
  · have hkept := node?_restoreEach_inverse_of_notMem h hes fun e he hmem => hk ⟨e, he, hmem⟩
    exact hkept.imp_right .inl

/-- **Applying a mapping file and then its inverse gives back the sources.** Let the mapping file be
invertible, and let no class in front of an arrow have a source file. Let the source file of each
class behind an arrow, if it has one and that is a text, be one whose edit is undoable. After a
restoration with the restored names first, and one with the obfuscated names first, the regular
files are what and where they were. What else has changed is a directory where nothing was, or a
null device that a file has been moved onto. -/
theorem restoreTable_inverse (h : t.HasRoot root r) (hinv : Record.IsInvertible text)
    (hnone : ∀ line ∈ Record.classLines text, ∀ kind,
      t.isFile (classFile root line.1 kind) = false)
    (hundo : ∀ line ∈ Record.classLines text, ∀ file, t.locate? root line.2 = some file →
      ∀ source, t.readText file.path = .ok source →
        (Entry.ofLine .restoredFirst line).Undoable source) :
    let there := (t.restoreTable root (Table.parse .restoredFirst text)).tree
    let back := (there.restoreTable root (Table.parse .obfuscatedFirst text)).tree
    (∀ k b, back.node? k = some (.file b) ↔ t.node? k = some (.file b)) ∧
      ∀ k, back.node? k ≠ t.node? k →
        t.node? k = none ∧ back.node? k = some .directory ∨
          t.node? k = some .nullDevice ∧ back.node? k = none := by
  intro there back
  have hback : back = ((t.restoreEach root ((Record.classLines text).map
      (Entry.ofLine .restoredFirst))).1.restoreEach root (((Record.classLines text).map
        (Entry.ofLine .restoredFirst)).map Entry.inverse)).1 := by
    rw [← hinv.entries_obfuscatedFirst, ← hinv.entries_restoredFirst]
    rfl
  -- Place by place: it is as it was, or it held no regular file before and holds none now.
  have hall : ∀ k, back.node? k = t.node? k ∨ t.node? k = none ∧ back.node? k = some .directory ∨
      t.node? k = some .nullDevice ∧ back.node? k = none := by
    intro k
    rw [hback]
    apply restoreEach_inverse h
    · exact List.forall_mem_map.2 fun line hline => hinv.isPlain hline
    · exact List.forall_mem_map.2 fun line hline => (hinv.apart line hline line hline).symm
    · exact hinv.pairwise r
    · exact List.forall_mem_map.2 hnone
    · exact List.forall_mem_map.2 hundo
  refine ⟨fun k b => ?_, fun k hk => (hall k).resolve_left hk⟩
  rcases hall k with hsame | ⟨hfree, hdir⟩ | ⟨hnull, hgone⟩
  · rw [hsame]
  · simp [hfree, hdir]
  · simp [hnull, hgone]

/-- A source root with a Java file in a package and a Kotlin file in none. -/
def obfuscatedSources : FileTree where
  entries := [(["s".toList], .directory), (["s".toList, "p".toList], .directory),
    (["s".toList, "p".toList, "d.java".toList],
      .file (Utf8.encode "package p;\nclass d {}".toList)),
    (["s".toList, "e.kt".toList], .file (Utf8.encode "class e".toList))]
  workingDirectory := []

/-- Two classes are restored, one with its package statement and one without any, and then they
are obfuscated again; a third one has no source file. -/
theorem restoreTable_inverse_obfuscatedSources :
    let root := "s".toList
    let text := "a.b.C -> p.d:\nx.Y -> e:\nz.Z -> q.w:".toList
    let there := (obfuscatedSources.restoreTable root (Table.parse .restoredFirst text)).tree
    let back := (there.restoreTable root (Table.parse .obfuscatedFirst text)).tree
    there.isFile "s/a/b/C.java".toList = true ∧ there.isFile "s/x/Y.kt".toList = true ∧
      obfuscatedSources.HasRoot root [root] ∧ Record.IsInvertible text ∧
      (∀ k b, back.node? k = some (.file b) ↔ obfuscatedSources.node? k = some (.file b)) ∧
      ∀ k, back.node? k ≠ obfuscatedSources.node? k →
        obfuscatedSources.node? k = none ∧ back.node? k = some .directory ∨
          obfuscatedSources.node? k = some .nullDevice ∧ back.node? k = none := by
  intro root text there back
  have hroot : obfuscatedSources.HasRoot root [root] := ⟨by decide, by decide, by decide⟩
  have hinv : Record.IsInvertible text := by decide +kernel
  have hnone : ∀ line ∈ Record.classLines text, ∀ kind ∈ SourceKind.all,
      obfuscatedSources.isFile (classFile root line.1 kind) = false := by decide +kernel
  have hundo : ∀ line ∈ Record.classLines text,
      ∀ file ∈ obfuscatedSources.locate? root line.2,
        ∀ source ∈ (obfuscatedSources.readText file.path).toOption,
          (Entry.ofLine .restoredFirst line).Undoable source := by decide +kernel
  refine ⟨by decide +kernel, by decide +kernel, hroot, hinv,
    restoreTable_inverse hroot hinv (fun line hline kind => ?_)
      fun line hline file hfile source hsource => ?_⟩
  · exact hnone line hline kind (by cases kind <;> decide)
  · exact hundo line hline file hfile source (by rw [hsource]; rfl)

end FileTree

end SourceRecovery
