import SourceRecovery.Proofs.Relocation.Footprint
import SourceRecovery.Proofs.Source.Undo
import SourceRecovery.Proofs.Text.Utf8

/-! # Applying an entry and then its inverse

The inverse of an entry moves the source file of the restored path to the obfuscated one. Applied
after the entry itself, it finds a file exactly if the entry has moved one, if there was none
before; and nothing is in its way, because the file comes from where it goes.

* **`Entry.editBytes_inverse`** — what a file holds after both edits is what it held.
* **`transfer?_plan_inverse`** — the plan of the inverse moves back the file that has been moved.
* **`node?_restore_inverse`** — at the sites of the entry everything is as before. -/

namespace SourceRecovery

variable {r k : Location} {e f : Entry}

/-! ## The inverse of an entry -/

/-- An entry and its inverse have the same sites. -/
theorem Entry.mem_sites_inverse : k ∈ e.inverse.sites r ↔ k ∈ e.sites r := by
  rw [Entry.mem_sites_iff, Entry.mem_sites_iff]
  exact exists_congr fun kind => or_comm

/-- The inverse of a plain entry is plain. -/
theorem Entry.IsPlain.inverse (h : e.IsPlain) : e.inverse.IsPlain := ⟨h.restored, h.obfuscated⟩

/-- Plain class paths have no dots. -/
theorem Entry.IsPlain.isDotless (h : e.IsPlain) : e.IsDotless :=
  ⟨h.obfuscated.dot_notMem, h.restored.dot_notMem⟩

/-- **What a file holds after both edits** is what it held. -/
theorem Entry.editBytes_inverse {b : Bytes} (hplain : e.IsPlain)
    (h : ∀ text, Utf8.decode? b = some text → e.Undoable text) :
    e.inverse.editBytes (e.editBytes b) = b := by
  cases hd : Utf8.decode? b with
  | none =>
    have hkept : ∀ e : Entry, e.editBytes b = b := fun e => by rw [Entry.editBytes, hd]
    rw [hkept, hkept]
  | some text =>
    have hedit : e.editBytes b = Utf8.encode (e.editText text) := by rw [Entry.editBytes, hd]
    rw [hedit, Entry.editBytes, Utf8.decode?_encode]
    show Utf8.encode (e.inverse.editText (e.editText text)) = b
    rw [Entry.editText_inverse hplain (h text hd), Utf8.encode_of_decode? hd]

namespace FileTree

variable {t u : FileTree} {root : Path} {path : ClassPath} {kind : SourceKind} {b : Bytes}

/-! ## Moving a file back -/

/-- Nothing is in the way of the folders of a class that are there. -/
theorem HasRoot.folderError?_eq_none (h : t.HasRoot root r) (hdot : '.' ∉ path)
    (hfits : NameFits root path kind)
    (hd : t.node? (path.base r ++ path.folders) = some .directory) :
    t.folderError? root r path kind = none := by
  have hcheck : (folderPath root path kind).check = .ok () :=
    (h.reaches_classFile hdot kind).check_parent hfits.1
  rw [folderError?, hcheck]
  exact obstacle?_eq_none h.closed hd fun a ha => hfits.2 a (by simp [ha])

/-- Where nothing is in the way of a file, its plan moves it. -/
theorem transfer?_planFor (hf : t.folderError? root r e.restored kind = none)
    (hm : t.moveError? (classFile root e.restored kind) (e.obfuscated.site r kind)
      (e.restored.site r kind) (e.restored.fileName kind) = none)
    (hb : t.node? (e.obfuscated.site r kind) = some (.file b)) :
    (t.planFor root r e kind).transfer? =
      some ⟨e.obfuscated.site r kind, e.restored.site r kind, e.editBytes b⟩ := by
  simp only [planFor, hf, hm, contents, hb]

/-- A file is read as the text of what it holds. -/
theorem readText_classFile (h : t.HasRoot root r) (hdot : '.' ∉ path)
    (hfile : t.isFile (classFile root path kind) = true)
    (hb : t.node? (path.site r kind) = some (.file b)) {text : Text}
    (hd : Utf8.decode? b = some text) : t.readText (classFile root path kind) = .ok text := by
  rw [readText_of_read ((h.reaches_classFile hdot kind).read h.closed hfile hb), hd]

/-- A class that had no source file has a single one after an entry has moved one there. -/
theorem isSingle_restore {m : Transfer} (h : t.HasRoot root r) (he : e.IsPlain)
    (hne : e.obfuscated ≠ e.restored)
    (hnone : ∀ kind, t.isFile (classFile root e.restored kind) = false)
    (hm : (t.plan root r e).transfer? = some m) :
    (t.restore root e).1.IsSingle root e.restored := by
  have hdot := he.isDotless
  obtain ⟨kind, b, -, -, -, -, rfl⟩ := transfer?_plan h hdot hm
  have hothers : ∀ kind', (t.restore root e).1.isFile (classFile root e.restored kind') = true →
      kind' = kind := by
    intro kind' hfound
    by_contra hkind
    have hsame : (t.restore root e).1.node? (e.restored.site r kind') =
        t.node? (e.restored.site r kind') := by
      apply node?_restore_of_ne h hdot hm (isDotted_site ..)
      · exact fun heq => hne (ClassPath.site_injective he.restored he.obfuscated heq).1.symm
      · exact fun heq => hkind (ClassPath.site_injective he.restored he.restored heq).2
    rw [isFile_classFile_congr h (h.restore hdot) hdot.restored hsame, hnone kind'] at hfound
    cases hfound
  rintro ⟨hjava, hkotlin⟩
  have hkinds := (hothers _ hjava).trans (hothers _ hkotlin).symm
  cases hkinds

/-- **The plan of the inverse** of an entry that has moved a file moves it back. -/
theorem transfer?_plan_inverse (h : t.HasRoot root r) (he : e.IsPlain)
    (hne : e.obfuscated ≠ e.restored)
    (hnone : ∀ kind, t.isFile (classFile root e.restored kind) = false)
    (hlocate : t.locate? root e.obfuscated = some ⟨classFile root e.obfuscated kind, kind⟩)
    {c : Bytes}
    (hm : (t.plan root r e).transfer? =
      some ⟨e.obfuscated.site r kind, e.restored.site r kind, c⟩) :
    ((t.restore root e).1.plan root r e.inverse).transfer? =
      some ⟨e.restored.site r kind, e.obfuscated.site r kind, e.inverse.editBytes c⟩ := by
  have hdot := he.isDotless
  have hu := h.restore hdot
  have hsites : e.obfuscated.site r kind ≠ e.restored.site r kind := fun heq =>
    hne (ClassPath.site_injective he.obfuscated he.restored heq).1
  have htarget := node?_restore_target h hdot hm
  have hsource := node?_restore_source h hdot hm hsites
  obtain ⟨hfits, b, hb⟩ :=
    (h.isFile_classFile_iff hdot.obfuscated kind).1 (locate?_eq_some hlocate).2
  have hsingle : (t.restore root e).1.IsSingle root e.inverse.obfuscated :=
    isSingle_restore h he hne hnone hm
  rw [plan_of_locate? hlocate] at hm
  obtain ⟨-, hmove⟩ := of_transfer?_planFor hm
  have hmoved : (t.restore root e).1.isFile (classFile root e.restored kind) = true :=
    (hu.isFile_classFile_iff hdot.restored kind).2 ⟨nameFits_of_transfer? hm, c, htarget⟩
  rw [hsingle.plan_eq hmoved]
  -- The folder it came from is still there.
  have hfolder : (t.restore root e).1.node? (e.obfuscated.base r ++ e.obfuscated.folders) =
      some .directory := by
    apply (restore_eq_plan h hdot).1.directory
    exact h.closed _ (e.obfuscated.fileName kind) (by rw [← ClassPath.site_eq_concat, hb]; rfl)
  apply transfer?_planFor
  · exact hu.folderError?_eq_none hdot.obfuscated hfits hfolder
  · have hshort : Path.nameIsTooLong (e.obfuscated.fileName kind) = false :=
      hfits.2 _ (by simp)
    apply moveError?_symm h.closed hb hmove _ hfits.1 hshort
    rw [hsource]
    simp
  · exact htarget

/-- Where an entry has moved no file, its inverse finds none. -/
theorem restore_inverse_of_transfer?_eq_none (h : t.HasRoot root r) (he : e.IsDotless)
    (hnone : ∀ kind, t.isFile (classFile root e.restored kind) = false)
    (hm : (t.plan root r e).transfer? = none) :
    ((t.restore root e).1.restore root e.inverse).1 = (t.restore root e).1 := by
  rw [restore_of_locate?_eq_none]
  rw [locate?_eq_none_iff]
  intro kind
  rw [← hnone kind]
  apply isFile_classFile_congr h (h.restore he) he.restored
  exact node?_restore_of_transfer?_eq_none h he hm (isDotted_site ..)

/-- Where a file can be moved to, no other file and no directory is. -/
theorem node?_target (h : t.HasRoot root r) (hdot : '.' ∉ path) (hfits : NameFits root path kind)
    (hfile : t.isFile (classFile root path kind) = false)
    (hgoal : t.node? (path.site r kind) ≠ some .directory) :
    t.node? (path.site r kind) = none ∨ t.node? (path.site r kind) = some .nullDevice := by
  cases hn : t.node? (path.site r kind) with
  | none => exact .inl rfl
  | some n =>
    cases n with
    | directory => exact absurd hn hgoal
    | nullDevice => exact .inr rfl
    | file b =>
      have hfound := (h.isFile_classFile_iff hdot kind).2 ⟨hfits, b, hn⟩
      rw [hfile] at hfound
      cases hfound

/-- **Applying an entry and then its inverse** leaves the sites of the entry as they were, if there
was no source file of the restored class, and what the entry edits can be undone. Only a null device
does not come back from under a file. -/
theorem node?_restore_inverse (h : t.HasRoot root r) (he : e.IsPlain)
    (hne : e.obfuscated ≠ e.restored)
    (hnone : ∀ kind, t.isFile (classFile root e.restored kind) = false)
    (hundo : ∀ file, t.locate? root e.obfuscated = some file →
      ∀ text, t.readText file.path = .ok text → e.Undoable text) (hk : k ∈ e.sites r) :
    ((t.restore root e).1.restore root e.inverse).1.node? k = t.node? k ∨
      t.node? k = some .nullDevice ∧
        ((t.restore root e).1.restore root e.inverse).1.node? k = none := by
  have hdot := he.isDotless
  have hdot' := he.inverse.isDotless
  have hu := h.restore hdot
  have hdotted := isDotted_of_mem_sites hk
  -- Either the entry has moved no file, or its inverse moves the file back.
  cases hm : (t.plan root r e).transfer? with
  | none =>
    left
    rw [restore_inverse_of_transfer?_eq_none h hdot hnone hm]
    exact node?_restore_of_transfer?_eq_none h hdot hm hdotted
  | some m =>
    obtain ⟨kind, b, hb, hfile, hlocate, hgoal, rfl⟩ := transfer?_plan h hdot hm
    have hback := transfer?_plan_inverse h he hne hnone hlocate hm
    have hsites : e.restored.site r kind ≠ e.obfuscated.site r kind := fun heq =>
      hne (ClassPath.site_injective he.restored he.obfuscated heq).1.symm
    by_cases hsource : k = e.obfuscated.site r kind
    · left
      subst hsource
      have hundo' : ∀ text, Utf8.decode? b = some text → e.Undoable text := by
        intro text hd
        exact hundo _ hlocate text (readText_classFile h hdot.obfuscated hfile hb hd)
      rw [node?_restore_target hu hdot' hback, hb]
      show some (Node.file (e.inverse.editBytes (e.editBytes b))) = _
      rw [Entry.editBytes_inverse he hundo']
    · by_cases htarget : k = e.restored.site r kind
      · subst htarget
        rw [plan_of_locate? hlocate] at hm
        rw [node?_restore_source hu hdot' hback hsites]
        rcases node?_target h hdot.restored (nameFits_of_transfer? hm) (hnone kind) hgoal with
          hfree | hnull
        · exact .inl hfree.symm
        · exact .inr ⟨hnull, rfl⟩
      · left
        rw [node?_restore_of_ne hu hdot' hback hdotted htarget hsource,
          node?_restore_of_ne h hdot hm hdotted hsource htarget]

end FileTree

end SourceRecovery
