import SourceRecovery.Proofs.Relocation.Plain
import SourceRecovery.Proofs.Source.AroundStatement
import SourceRecovery.Proofs.Source.Exchange
import SourceRecovery.Relocation

/-! # Undoing an edit

An entry edits a source text by renaming its first declaration and replacing its first package
statement. The **inverse** entry (`Entry.inverse`) undoes both if the edit hits what can be found
again (`Entry.Undoable`): editing with an entry and then with its inverse leaves the text
(**`Entry.editText_inverse`**). -/

namespace SourceRecovery

open PackageStatement (render)

/-- The first package statement of a text, as what is in front of it and what follows. -/
def PackageStatement.first? (t : Text) : Option (Text × Text) :=
  Text.search (fun _ rest => behind? rest) t

/-- The first declaration of a name in a text, as what is in front of it, its head, and what
follows the name. -/
def Declaration.first? (name t : Text) : Option (Text × Text × Text) := Text.search (at? name) t

/-! ## Editing and editing back -/

namespace Declaration

variable {f g p q u v : Text}

/-- A text whose first statement is in front of the first declaration of `f`: after exchanging
both, they are found again. -/
theorem replace_rename_statement (hf : Text.IsWord f) (hg : Text.IsWord g)
    (hp : ∀ d ∈ p, PackageStatement.IsInner d) (hq : ∀ d ∈ q, PackageStatement.IsInner d)
    (hq' : ∀ d ∈ q, Text.isBlank d = false)
    (hstatement : PackageStatement.first? (u ++ (render p ++ v)) = some (u, v))
    (hbehind : ∀ before head after,
      first? f (u ++ (render p ++ v)) = some (before, head, after) →
        (u ++ render p).length ≤ before.length)
    (hnone : first? g (u ++ (render p ++ v)) = none) :
    PackageStatement.replace p (rename g f
      (PackageStatement.replace q (rename f g (u ++ (render p ++ v))))) =
      u ++ (render p ++ v) := by
  have hback := PackageStatement.search_behind?_exchange (z := v) hp hq hstatement
  cases hfirst : first? f (u ++ (render p ++ v)) with
  | none =>
    rw [rename_of_search_eq_none hfirst, PackageStatement.replace_of_search_eq_some hstatement,
      rename_of_search_eq_none (search_at?_render_none hg.1 hg.isBlank_eq_false hq'
        (PackageStatement.begins_render hp v) hnone),
      PackageStatement.replace_of_search_eq_some hback]
  | some found =>
    obtain ⟨before, head, after⟩ := found
    have hle := hbehind _ _ _ hfirst
    obtain ⟨hdecl, -⟩ := (search_at?_eq_some_iff hf.isSolid).1 hfirst
    have hrenamed := search_at?_renamed hf.isSolid hg.isSolid hfirst hnone
    -- The declaration is in what follows the statement.
    have htext : (u ++ render p) ++ v = before ++ (head ++ (f ++ after)) := by
      rw [List.append_assoc]
      exact hdecl.text
    obtain ⟨w, rfl, rfl⟩ := Text.exists_of_append_of_length_le htext hle
    rw [rename_of_search_eq_some hfirst]
    simp only [List.append_assoc] at hrenamed ⊢
    have hmoved := PackageStatement.search_behind?_exchange_rest
      (z := w ++ (head ++ (g ++ after))) hstatement
    have hagain := search_at?_render_some hg.1 hg.isBlank_eq_false hq'
      (PackageStatement.begins_render hp _) hrenamed
    rw [PackageStatement.replace_of_search_eq_some hmoved, rename_of_search_eq_some hagain]
    simp only [List.append_assoc]
    rw [PackageStatement.replace_of_search_eq_some hback]

/-- A text without a statement: after renaming there is still none, and the declaration is found
again. -/
theorem replace_rename_noStatement {t : Text} (hf : Text.IsWord f) (hg : Text.IsWord g)
    (hstatement : PackageStatement.first? t = none) (hend : ¬ PackageStatement.keyword <:+ g)
    (hnone : first? g t = none) :
    PackageStatement.replace p (rename g f (PackageStatement.replace q (rename f g t))) = t := by
  cases hfirst : first? f t with
  | none =>
    rw [rename_of_search_eq_none hfirst, PackageStatement.replace_of_search_eq_none hstatement,
      rename_of_search_eq_none hnone, PackageStatement.replace_of_search_eq_none hstatement]
  | some found =>
    obtain ⟨before, head, after⟩ := found
    obtain ⟨hdecl, -⟩ := (search_at?_eq_some_iff hf.isSolid).1 hfirst
    have hrenamed := search_at?_renamed hf.isSolid hg.isSolid hfirst hnone
    obtain ⟨top, c, hc, hhead⟩ := hdecl.isHead.exists_concat
    have hsplit : ∀ n : Text, before ++ (head ++ (n ++ after)) =
        before ++ top ++ [c] ++ (n ++ after) := by
      intro n
      rw [hhead]
      simp
    -- The head ends in a blank, so the new name stands behind one and brings in no statement.
    have hkept : PackageStatement.first? (before ++ (head ++ (g ++ after))) = none := by
      rw [hdecl.text, hsplit] at hstatement
      rw [hsplit]
      exact PackageStatement.search_behind?_exchange_word hc hf hg hend hdecl.right hstatement
    rw [rename_of_search_eq_some hfirst, PackageStatement.replace_of_search_eq_none hkept,
      rename_of_search_eq_some hrenamed, ← hdecl.text,
      PackageStatement.replace_of_search_eq_none hstatement]

end Declaration

/-- The **inverse** of an entry. -/
def Entry.inverse (e : Entry) : Entry := ⟨e.restored, e.obfuscated⟩

/-- An edit of a text is **undoable** if the inverse entry finds again what was edited. -/
structure Entry.Undoable (e : Entry) (t : Text) : Prop where
  /-- The first package statement names the package of the obfuscated path, and the first
  declaration of the obfuscated name comes behind it. -/
  statement : ∀ found ∈ PackageStatement.first? t,
    t = found.1 ++ (render e.obfuscated.package ++ found.2) ∧
      ∀ declared ∈ Declaration.first? e.obfuscated.simpleName t,
        (found.1 ++ render e.obfuscated.package).length ≤ declared.1.length
  /-- Where there is no package statement, the new name does not bring in one. -/
  noStatement : PackageStatement.first? t = none →
    ¬ PackageStatement.keyword <:+ e.restored.simpleName
  /-- The new name is not declared. -/
  declaration : Declaration.first? e.restored.simpleName t = none

instance (e : Entry) (t : Text) : Decidable (e.Undoable t) :=
  decidable_of_iff
    ((∀ found ∈ PackageStatement.first? t,
      t = found.1 ++ (render e.obfuscated.package ++ found.2) ∧
        ∀ declared ∈ Declaration.first? e.obfuscated.simpleName t,
          (found.1 ++ render e.obfuscated.package).length ≤ declared.1.length) ∧
      (PackageStatement.first? t = none →
        ¬ PackageStatement.keyword <:+ e.restored.simpleName) ∧
      Declaration.first? e.restored.simpleName t = none)
    ⟨fun ⟨h₁, h₂, h₃⟩ => ⟨h₁, h₂, h₃⟩, fun h => ⟨h.statement, h.noStatement, h.declaration⟩⟩

namespace ClassPath

variable {path : ClassPath} {c : Char}

/-- The simple name of a plain class path is a word. -/
theorem IsPlain.isWord_simpleName (h : path.IsPlain) : Text.IsWord path.simpleName :=
  h _ (simpleName_mem_segments path)

/-- The characters of a plain class path's package are word characters and dots. -/
theorem IsPlain.of_mem_package (h : path.IsPlain)
    (hc : c ∈ path.package) : Text.isWordCharacter c = true ∨ c = '.' := by
  obtain ⟨d, hd, rfl⟩ := List.mem_map.1 hc
  split_ifs with hslash
  · exact .inr rfl
  · left
    obtain ⟨s, hs, hds⟩ := Path.exists_mem_segments (mem_of_mem_directory hd) hslash
    exact (h s hs).2 d hds

/-- No character of a plain class path's package is a blank. -/
theorem IsPlain.not_isBlank_of_mem_package (h : path.IsPlain) (hc : c ∈ path.package) :
    Text.isBlank c = false := by
  rcases h.of_mem_package hc with hword | rfl
  · exact Text.isBlank_eq_false hword
  · decide

/-- The package of a plain class path fits into a statement. -/
theorem IsPlain.isInner_of_mem_package (h : path.IsPlain) (hc : c ∈ path.package) :
    PackageStatement.IsInner c := by
  rcases h.of_mem_package hc with hword | rfl
  · exact PackageStatement.isInner_of_isWordCharacter hword
  · decide

end ClassPath

/-- **Editing back.** If the edit of a text with a plain entry is undoable, editing with the
inverse entry gives the text again. -/
theorem Entry.editText_inverse {e : Entry} {t : Text} (hplain : e.IsPlain) (h : e.Undoable t) :
    e.inverse.editText (e.editText t) = t := by
  have hf := hplain.obfuscated.isWord_simpleName
  have hg := hplain.restored.isWord_simpleName
  unfold Entry.editText
  cases hstatement : PackageStatement.first? t with
  | none =>
    exact Declaration.replace_rename_noStatement hf hg hstatement (h.noStatement hstatement)
      h.declaration
  | some found =>
    obtain ⟨before, after⟩ := found
    obtain ⟨ht, hbehind⟩ := h.statement _ hstatement
    have hnone := h.declaration
    rw [ht] at hstatement hbehind hnone ⊢
    exact Declaration.replace_rename_statement hf hg
      (fun d hd => hplain.obfuscated.isInner_of_mem_package hd)
      (fun d hd => hplain.restored.isInner_of_mem_package hd)
      (fun d hd => hplain.restored.not_isBlank_of_mem_package hd) hstatement
      (fun front head rest hfound => hbehind _ hfound) hnone

end SourceRecovery
