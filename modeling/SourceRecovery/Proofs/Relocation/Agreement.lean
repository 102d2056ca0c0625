import SourceRecovery.Proofs.Relocation.Effect
import SourceRecovery.Proofs.Relocation.Naming
import SourceRecovery.Proofs.Source.Undo

/-! # What a relocated file declares

A file that is relocated gets a new place and a new text, and the two should agree: the file of
`a/b/C` declares `C` in the package `a.b`. They do if the text is **headed** by its package
statement (`Entry.IsHeaded`), so that the statement that is replaced and the declaration that is
renamed do not overlap:

* **`Entry.IsHeaded.editText`** — the edited text is headed by the statement of the restored
  package, and declares the restored name where it declared the obfuscated one.
* **`FileTree.readText_restore_isHeaded`** — so does the file at its new place.

A class path without a slash has an empty package, for which there is no package statement. One is
written all the same (**`FileTree.readText_restore_defaultPackage`**). -/

namespace SourceRecovery

open PackageStatement (render)

/-! ## Editing a headed text -/

/-- A text is **headed** for an entry by its first package statement, if that is on one line and
ends no later than the first declaration of the obfuscated name begins. -/
structure Entry.IsHeaded (e : Entry) (text front statement rest : Text) : Prop where
  /-- The text is what is in front, the statement, and the rest. -/
  eq_append : text = front ++ (statement ++ rest)
  /-- It is the first package statement. -/
  first : PackageStatement.first? text = some (front, rest)
  /-- It has no line end. -/
  oneLine : '\n' ∉ statement
  /-- The declaration does not begin in front of its end. -/
  ahead : ∀ declared ∈ Declaration.first? e.obfuscated.simpleName text,
    (front ++ statement).length ≤ declared.1.length

namespace Entry.IsHeaded

variable {e : Entry} {text front statement rest : Text}

/-- A statement ends in a semicolon. -/
theorem exists_concat (h : e.IsHeaded text front statement rest) :
    ∃ body, statement = body ++ [';'] := by
  obtain ⟨_, htext, hbegins, -⟩ := PackageStatement.search_behind?_eq_some_iff.1 h.first
  rw [h.eq_append] at htext
  obtain rfl := List.append_cancel_left htext
  obtain ⟨c, blanks, inner, -, -, heq⟩ := hbegins.exists_eq
  exact ⟨_, heq⟩

/-- Whatever the renaming has made of the rest, the first statement is replaced by that of the
restored package, and it stays the first one. -/
theorem editText_of_rename {rest' : Text} (he : e.IsPlain)
    (h : e.IsHeaded text front statement rest)
    (hrenamed : Declaration.rename e.obfuscated.simpleName e.restored.simpleName text =
      front ++ (statement ++ rest')) :
    e.editText text = front ++ (render e.restored.package ++ rest') ∧
      PackageStatement.first? (e.editText text) = some (front, rest') := by
  have hstatement := h.first
  rw [h.eq_append] at hstatement
  have hedit : e.editText text = front ++ (render e.restored.package ++ rest') := by
    rw [Entry.editText, hrenamed, PackageStatement.replace_of_search_eq_some
      (PackageStatement.search_behind?_exchange_rest hstatement)]
  rw [hedit]
  exact ⟨rfl, PackageStatement.search_behind?_exchange_line h.oneLine
    (fun c => he.restored.isInner_of_mem_package) hstatement⟩

/-- The first declaration stands in the rest. -/
theorem exists_between {before head after : Text} (he : e.IsPlain)
    (h : e.IsHeaded text front statement rest)
    (hfirst : Declaration.first? e.obfuscated.simpleName text = some (before, head, after)) :
    ∃ between, before = front ++ (statement ++ between) := by
  obtain ⟨hdecl, -⟩ :=
    (Declaration.search_at?_eq_some_iff he.obfuscated.isWord_simpleName.isSolid).1 hfirst
  have htext : (front ++ statement) ++ rest =
      before ++ (head ++ (e.obfuscated.simpleName ++ after)) := by
    rw [List.append_assoc, ← h.eq_append, ← hdecl.text]
  obtain ⟨between, hbefore, -⟩ :=
    Text.exists_of_append_of_length_le htext (h.ahead _ hfirst)
  exact ⟨between, by rw [hbefore, List.append_assoc]⟩

/-- **Editing a headed text** puts the statement of the restored package in the place of the first
statement. It stays the first one, and the restored name is declared where the obfuscated one
was. -/
theorem editText (he : e.IsPlain) (h : e.IsHeaded text front statement rest) :
    ∃ rest', e.editText text = front ++ (render e.restored.package ++ rest') ∧
      PackageStatement.first? (e.editText text) = some (front, rest') ∧
      (Declaration.first? e.obfuscated.simpleName text = none → rest' = rest) ∧
      ∀ before head after,
        Declaration.first? e.obfuscated.simpleName text = some (before, head, after) →
          ∃ between, before = front ++ (statement ++ between) ∧
            Declaration.Declares e.restored.simpleName (e.editText text)
              (front ++ (render e.restored.package ++ between)) head after := by
  cases hfirst : Declaration.first? e.obfuscated.simpleName text with
  | none =>
    obtain ⟨hedit, hnew⟩ := h.editText_of_rename he
      (by rw [Declaration.rename_of_search_eq_none hfirst, h.eq_append])
    exact ⟨rest, hedit, hnew, fun _ => rfl, nofun⟩
  | some declared =>
    obtain ⟨before, head, after⟩ := declared
    obtain ⟨hdecl, -⟩ :=
      (Declaration.search_at?_eq_some_iff he.obfuscated.isWord_simpleName.isSolid).1 hfirst
    obtain ⟨between, hbefore⟩ := h.exists_between he hfirst
    have hrenamed : Declaration.rename e.obfuscated.simpleName e.restored.simpleName text =
        front ++ (statement ++ (between ++ (head ++ (e.restored.simpleName ++ after)))) := by
      rw [Declaration.rename_of_search_eq_some hfirst, hbefore]
      simp only [List.append_assoc]
    obtain ⟨hedit, hnew⟩ := h.editText_of_rename he hrenamed
    refine ⟨_, hedit, hnew, nofun, ?_⟩
    rintro _ _ _ ⟨⟩
    refine ⟨between, hbefore, by rw [hedit]; simp only [List.append_assoc], hdecl.isHead, ?_,
      hdecl.right⟩
    -- Both statements end in a semicolon, so the same character is in front of the declaration.
    have hlast (body : Text) : (front ++ ((body ++ [';']) ++ between)).getLast? =
        (';' :: between).getLast? := by
      rw [List.append_assoc, ← List.append_assoc front]
      exact List.getLast?_append_of_ne_nil _ (by simp)
    obtain ⟨body, rfl⟩ := h.exists_concat
    have hleft := hdecl.left
    rw [hbefore, hlast] at hleft
    have hrender : render e.restored.package =
        (PackageStatement.keyword ++ ' ' :: e.restored.package) ++ [';'] := by simp [render]
    rw [hrender, hlast]
    exact hleft

end Entry.IsHeaded

/-! ## A headed file at its new place -/

namespace FileTree

/-- **What a relocated file declares** if its text was headed. It is at the place of the restored
path. Its first package statement is that of the restored package, whose name as a path is the
directory of the restored path; for a restored path without a directory, the name is missing from
the statement. The restored name is declared where the obfuscated one was: as far behind the
statement as before, and with the same text around it. -/
theorem readText_restore_isHeaded {t : FileTree} {root found goal : Path} {e : Entry}
    {file : SourceFile} {text front statement rest : Text} (ht : t.IsClosed) (he : e.IsPlain)
    (hfile : t.locate? root e.obfuscated = some file) (htext : t.readText file.path = .ok text)
    (hheaded : e.IsHeaded text front statement rest)
    (h : (t.restore root e).2 = .relocated found goal) :
    found = file.path ∧ goal = classFile root e.restored file.kind ∧
      ∃ edited rest', (t.restore root e).1.readText goal = .ok edited ∧
        edited = front ++ (render e.restored.package ++ rest') ∧
        PackageStatement.first? edited = some (front, rest') ∧
        ClassPath.ofName e.restored.package = e.restored.directory ∧
        ('/' ∉ e.restored → render e.restored.package = "package ;".toList) ∧
        (Declaration.first? e.obfuscated.simpleName text = none → rest' = rest) ∧
        ∀ before head after,
          Declaration.first? e.obfuscated.simpleName text = some (before, head, after) →
            ∃ between, before = front ++ (statement ++ between) ∧
              Declaration.Declares e.restored.simpleName edited
                (front ++ (render e.restored.package ++ between)) head after := by
  obtain ⟨hfound, hgoal, hread⟩ := readText_restore_of_relocated ht hfile htext h
  obtain ⟨rest', hedit, hfirst, hrest, hdeclared⟩ := hheaded.editText he
  refine ⟨hfound, hgoal, _, rest', hread, hedit, hfirst,
    ClassPath.ofName_package he.restored.dot_notMem, fun hslash => ?_, hrest, hdeclared⟩
  rw [ClassPath.package_eq_nil hslash]
  rfl

/-- A source root with a file that is headed by its package statement. -/
def headedSource : FileTree where
  entries := [(["s".toList], .directory), (["s".toList, "a".toList], .directory),
    (["s".toList, "a".toList, "b.java".toList],
      .file (Utf8.encode "package a;\nclass b {}".toList))]
  workingDirectory := []

/-- The class `b` of the package `a` becomes the class `C` of the package `x.y`. -/
theorem readText_restore_isHeaded_headedSource :
    let e : Entry := ⟨"a/b".toList, "x/y/C".toList⟩
    let after := headedSource.restore "s".toList e
    headedSource.IsClosed ∧ e.IsPlain ∧
      e.IsHeaded "package a;\nclass b {}".toList [] "package a;".toList "\nclass b {}".toList ∧
      after.2 = .relocated "s/a/b.java".toList "s/x/y/C.java".toList ∧
      ∃ rest', after.1.readText "s/x/y/C.java".toList = .ok ("package x.y;".toList ++ rest') ∧
        Declaration.Declares "C".toList ("package x.y;".toList ++ rest') "package x.y;\n".toList
          "class ".toList " {}".toList := by
  intro e after
  have hclosed : headedSource.IsClosed := by decide
  have hplain : e.IsPlain := by decide +kernel
  have hheaded : e.IsHeaded "package a;\nclass b {}".toList [] "package a;".toList
      "\nclass b {}".toList := ⟨by decide, by decide, by decide, by decide +kernel⟩
  have hout : after.2 = .relocated "s/a/b.java".toList "s/x/y/C.java".toList := by decide +kernel
  have hfile : headedSource.locate? "s".toList e.obfuscated =
      some ⟨"s/a/b.java".toList, .java⟩ := by decide +kernel
  obtain ⟨-, -, _, rest', hread, rfl, -, -, -, -, hdeclared⟩ :=
    readText_restore_isHeaded hclosed hplain hfile (by decide +kernel) hheaded hout
  obtain ⟨between, hbetween, hdeclares⟩ := hdeclared "package a;\n".toList "class ".toList
    " {}".toList (by decide +kernel)
  have hsplit : "package a;".toList ++ ['\n'] = "package a;".toList ++ between := hbetween
  obtain rfl : ['\n'] = between := List.append_cancel_left hsplit
  exact ⟨hclosed, hplain, hheaded, hout, rest', hread, hdeclares⟩

/-- **In the default package a statement without a name is left**: the class path has no directory,
so that no package statement should be there. -/
theorem readText_restore_defaultPackage :
    let e : Entry := ⟨"a/b".toList, "Original".toList⟩
    let after := headedSource.restore "s".toList e
    headedSource.IsClosed ∧ e.IsPlain ∧
      e.IsHeaded "package a;\nclass b {}".toList [] "package a;".toList "\nclass b {}".toList ∧
      e.restored.directory = [] ∧
      after.2 = .relocated "s/a/b.java".toList "s/Original.java".toList ∧
      after.1.readText "s/Original.java".toList =
        .ok "package ;\nclass Original {}".toList ∧
      PackageStatement.first? "package ;\nclass Original {}".toList ≠ none := by
  have hheaded : Entry.IsHeaded ⟨"a/b".toList, "Original".toList⟩
      "package a;\nclass b {}".toList [] "package a;".toList "\nclass b {}".toList :=
    ⟨by decide, by decide, by decide, by decide +kernel⟩
  exact ⟨by decide, by decide +kernel, hheaded, by decide, by decide +kernel, by decide +kernel,
    by decide⟩

end FileTree

end SourceRecovery
