import SourceRecovery.Proofs.FileTree.Contents
import SourceRecovery.Proofs.Relocation.Effect
import SourceRecovery.Proofs.Source.Search
import SourceRecovery.Proofs.Source.Statement

/-! # Relocating a file to its own place

An entry with one class path on both sides moves the source file to where it is. Its directories
are there, the move does nothing, and the declaration gets the name that it has. The package
statement stays if it is that of the class path already, so what is written is what was read.

* **`Declaration.rename_self`** — renaming to the same name leaves every text, declaration or not.
* **`PackageStatement.States.replace_eq`** — so does replacing the statement of a text that states
  the package (**`PackageStatement.States`**).
* **`FileTree.makeDirectories_parent_of_resolve`**, **`FileTree.rename_self`** — the steps on the
  tree.
* **`FileTree.relocate_self`** — the whole relocation leaves the tree, and fails only where the file
  is no text. -/

namespace SourceRecovery

/-! ## Edits that change nothing -/

/-- **Renaming to the same name** leaves the text. -/
theorem Declaration.rename_self (name t : Text) : rename name name t = t := by
  cases hfound : Text.search (at? name) t with
  | none => exact rename_of_search_eq_none hfound
  | some found =>
    obtain ⟨before, head, after⟩ := found
    obtain ⟨keyword, blanks, rfl, hfirst⟩ := isFirst_of_search hfound
    rw [rename_of_search_eq_some hfound, List.append_assoc]
    exact hfirst.isSite.text.symm

namespace PackageStatement

variable {package t : Text}

/-- A text **states** a package if its first package statement, unless it has none, is that of the
package, with one space and without anything else. -/
def States (package t : Text) : Prop :=
  ∀ before blanks inner after, IsFirst t before blanks inner after →
    keyword ++ (blanks ++ (inner ++ [';'])) = render package

/-- A text states a package if its search says so. -/
theorem states_iff :
    States package t ↔
      ∀ found ∈ Text.search (fun _ rest => behind? rest) t,
        t = found.1 ++ (render package ++ found.2) := by
  constructor
  · rintro hstates ⟨before, after⟩ hfound
    obtain ⟨blanks, inner, hfirst⟩ := search_behind?_eq_some_iff_isFirst.1 hfound
    rw [← hstates before blanks inner after hfirst]
    exact hfirst.isStatement.text_eq
  · intro hsearch before blanks inner after hfirst
    have hrender := hsearch _ (search_behind?_eq_some_iff_isFirst.2 ⟨blanks, inner, hfirst⟩)
    have htext := hfirst.isStatement.text_eq.symm.trans hrender
    exact List.append_cancel_right (List.append_cancel_left htext)

instance (package t : Text) : Decidable (States package t) :=
  decidable_of_iff _ states_iff.symm

/-- **Replacing the statement** of the package that a text states leaves the text. -/
theorem States.replace_eq (h : States package t) : replace package t = t := by
  cases hfound : Text.search (fun _ rest => behind? rest) t with
  | none => exact replace_of_search_eq_none hfound
  | some found =>
    rw [replace_of_search_eq_some hfound]
    exact (states_iff.1 h found hfound).symm

end PackageStatement

/-- An entry with one class path on both sides leaves a text that states its package. -/
theorem Entry.editText_self {e : Entry} {text : Text} (hself : e.restored = e.obfuscated)
    (hstates : PackageStatement.States e.obfuscated.package text) : e.editText text = text := by
  rw [Entry.editText, hself, Declaration.rename_self, hstates.replace_eq]

namespace FileTree

variable {t : FileTree} {root : Path} {e : Entry} {file : SourceFile} {p : Path} {l : Location}
  {segments : List Text} {s : Text} {b : Bytes}

/-! ## Steps that change nothing -/

/-- **The directories above a name** to which a path leads are there, so none is made. -/
theorem makeDirectories_parent_of_resolve (hp : p.segments = segments ++ [s]) (hs : IsName s)
    (h : t.resolve p = .ok l) : t.makeDirectories (p.parent?.getD []) = (t, .ok ()) := by
  obtain ⟨hcheck, -, m, henter, -, -⟩ := (resolve_eq_ok_iff hp hs).1 h
  obtain ⟨hfollow, hdir⟩ := of_enter_eq_ok henter
  -- A name alone lies in the directory with the empty path, which need not be made.
  rcases eq_or_ne segments [] with rfl | hne
  · rw [Path.parent?_of_segments_singleton hp hs.1]
    rfl
  · obtain ⟨q, rest, hparent, hq, hq0, -, -⟩ := Path.exists_parent hp hne hs.1
    have hcheckq := Path.check_parent hcheck hp hne hs.1
    rw [hparent] at hcheckq ⊢
    -- Idle segments at the end are not in the path of the parent, but they lead nowhere else.
    rw [startOf_eq_startAt t (Path.ne_nil_of_segments hp hs.1), hp, startAt_append t hne] at hfollow
    have hslash : ∀ a ∈ segments.reverse, '/' ∉ a := fun a ha =>
      Path.not_mem_of_mem_segments (p := p) (by rw [hp]; simp [List.mem_reverse.1 ha])
    have hresq : t.resolve q = .ok m :=
      resolve_climb_head (by simpa using hne) hslash hq hcheckq (by simpa using hfollow) hdir
    rw [makeDirectories, if_neg hq0]
    exact makeDirectoriesOf_of_resolve hq0 hresq hdir _

/-- **Moving a file onto itself** leaves the tree. -/
theorem rename_self (hp : p.segments = segments ++ [s]) (hs : IsName s)
    (h : t.resolve p = .ok l) (hb : t.node? l = some (.file b)) : t.rename p p = .ok t := by
  obtain ⟨hcheck, hlong, m, henter, rfl, -⟩ := (resolve_eq_ok_iff hp hs).1 h
  have hlast : t.resolveLast p = .ok (m, some s) := by
    rw [resolveLast_eq hcheck hp hs, henter]
    rfl
  have hnul : '\x00' ∉ p ++ p := by
    intro hmem
    rw [Path.check, if_pos (by simpa using hmem)] at hcheck
    cases hcheck
  rw [rename, if_neg hnul, hlast, Path.hasTrailingSlash_eq_false hp hs.ne_nil]
  simp only [bind, Except.bind, Bool.or_self, renameAt_file hb, hlong, hb]
  simp [sameDevice]

/-- **Relocating a file to its own place** leaves the tree. It fails only where the file is no
text. -/
theorem relocate_self (hself : e.restored = e.obfuscated)
    (hfile : t.locate? root e.obfuscated = some file)
    (hstates : ∀ text, t.readText file.path = .ok text →
      PackageStatement.States e.obfuscated.package text) :
    t.relocate root file e =
      (t, match t.readText file.path with
        | .ok _ => .ok file.path
        | .error _ => .error (.io file.path .notUtf8)) := by
  obtain ⟨hpath, hisFile⟩ := locate?_eq_some hfile
  obtain ⟨l, b, hres, hb⟩ := isFile_iff.1 hisFile
  obtain ⟨segments, hp⟩ := exists_segments_classFile root e.obfuscated file.kind
  have hs := ClassPath.isName_fileName e.obfuscated file.kind
  rw [← hpath] at hres hp
  rw [relocate, hself, ← hpath]
  simp only [makeDirectories_parent_of_resolve hp hs hres, rename_self hp hs hres hb,
    editFile_eq hp hs hres hb (isTooLong_simpleName_of_locate? hfile)]
  rw [readText_of_read (read_of_resolve hres hb)] at hstates ⊢
  cases hd : Utf8.decode? b with
  | none => rfl
  | some text =>
    -- What is written are the bytes that were read.
    rw [hd] at hstates
    have htext : e.editText text = text := e.editText_self hself (hstates text rfl)
    simp only [htext, Utf8.encode_of_decode? hd, put_of_node? (ne_nil_of_file hb) hb]

end FileTree

end SourceRecovery
