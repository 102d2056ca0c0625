import SourceRecovery.Dependency.Injection
import SourceRecovery.Proofs.FileTree.Contents
import SourceRecovery.Proofs.Restoration.Ending

/-! # What an injection does to a tree

An injection reads the build file, edits its text and writes it back. A file that can be read can
be written, so an injection fails exactly if there are lines to inject and no text is read
(`FileTree.Reads`), and it leaves everything but the build file alone.

* **`editFile_of_reads`**, **`editFile_of_not_reads`** — when a file is edited.
* **`inject_of_reads`**, **`inject_of_not_reads`** — what an injection of some rules comes to.
* **`node?_withEdited`** — the file that was edited is the only thing that differs. -/

namespace SourceRecovery

namespace FileTree

open Injection

variable {t : FileTree} {p : Path} {l k : Location} {segments : List Text} {s text : Text}
  {rules : List Rule} {b : Bytes}

/-- The tree in which the text of a file has been edited. The null device swallows what is
written to it. -/
def withEdited (t : FileTree) (l : Location) (text : Text) : FileTree :=
  if t.node? l = some .nullDevice then t else t.put l (.file (Utf8.encode text))

/-- **A text that is read can be edited.** -/
theorem editFile_of_reads (hp : p.segments = segments ++ [s]) (hs : IsName s) (h : t.Reads p text)
    (edit : Text → Text) :
    ∃ l, t.resolve p = .ok l ∧
      (t.node? l = some (.file (Utf8.encode text)) ∨ t.node? l = some .nullDevice) ∧
      Injection.editFile t p edit = .ok (t.withEdited l (edit text)) := by
  have hread := readText_eq_ok_iff.2 h
  obtain ⟨l, hres, hnode⟩ := h
  refine ⟨l, hres, hnode.imp_right And.left, ?_⟩
  rw [Injection.editFile, hread]
  show t.write p (Utf8.encode (edit text)) = _
  rw [write_eq hp hs hres, withEdited]
  rcases hnode with hnode | ⟨hnode, -⟩ <;> simp [hnode]

/-- **Where no text is read, nothing is edited.** -/
theorem editFile_of_not_reads (h : ∀ text, ¬ t.Reads p text) (edit : Text → Text) :
    ∃ cause, Injection.editFile t p edit = .error cause := by
  cases hread : t.readText p with
  | ok text => exact absurd (readText_eq_ok_iff.1 hread) (h text)
  | error cause =>
    refine ⟨cause, ?_⟩
    rw [Injection.editFile, hread]
    rfl

/-- An edited file is the only thing that differs. -/
theorem node?_withEdited (h : t.node? l = some (.file b) ∨ t.node? l = some .nullDevice)
    (hk : (t.withEdited l text).node? k ≠ t.node? k) : k = l ∧ t.node? k = some (.file b) := by
  rw [withEdited] at hk
  split_ifs at hk with hnull
  · exact absurd rfl hk
  · have hfile := h.resolve_right hnull
    rw [node?_put t (ne_nil_of_file hfile)] at hk
    split_ifs at hk with hkl
    · subst hkl
      exact ⟨rfl, hfile⟩
    · exact absurd rfl hk

/-! ## Injections -/

/-- Without a rule there is nothing to inject. -/
theorem inject_nil (t : FileTree) (p : Path) : t.inject p [] = ⟨t, .ok 0, [.nothingDetected]⟩ := rfl

/-- **A build file that is read is edited.** -/
theorem inject_of_reads (hp : p.segments = segments ++ [s]) (hs : IsName s) (h : t.Reads p text)
    (hrules : rules ≠ []) :
    ∃ l, t.resolve p = .ok l ∧
      (t.node? l = some (.file (Utf8.encode text)) ∨ t.node? l = some .nullDevice) ∧
      t.inject p rules = ⟨t.withEdited l (editText rules text), .ok rules.length,
        [.injecting rules.length p]⟩ := by
  obtain ⟨l, hres, hnode, hedit⟩ := editFile_of_reads hp hs h (editText rules)
  refine ⟨l, hres, hnode, ?_⟩
  rw [inject, if_neg hrules, hedit]

/-- **A build file that is not read is left alone.** -/
theorem inject_of_not_reads (h : ∀ text, ¬ t.Reads p text) (hrules : rules ≠ []) :
    ∃ cause, t.inject p rules = ⟨t, .error ⟨p, cause⟩, [.injecting rules.length p]⟩ := by
  obtain ⟨cause, hedit⟩ := editFile_of_not_reads h (editText rules)
  refine ⟨cause, ?_⟩
  rw [inject, if_neg hrules, hedit]

end FileTree

end SourceRecovery
