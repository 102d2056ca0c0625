import SourceRecovery.Proofs.Source.Search

/-! # What a declaration is

For a solid name, as a word is one, the site that is searched for is what the description of a
declaration says (**`Declares`**): a keyword and blanks (**`IsHead`**), the name, and no word
character in front of the one or behind the other.

* **`declares_iff`** — a declaration of a solid name is a site of it.
* **`search_at?_eq_some_iff`**, **`search_at?_eq_none_iff`** — the search finds the first
  declaration, if there is one.
* **`IsHead.append_inj`** — a text ends in at most one head. -/

namespace SourceRecovery

namespace Declaration

variable {name t before head after u v : Text}

/-! ## Heads -/

/-- A keyword is known by its last character. -/
theorem keyword_eq_of_getLast {k k' : Text} (h : k ∈ keywords) (h' : k' ∈ keywords)
    (hlast : k.getLast? = k'.getLast?) : k = k' := by
  have hall : ∀ k ∈ keywords, ∀ k' ∈ keywords, k.getLast? = k'.getLast? → k = k' := by decide
  exact hall k h k' h' hlast

/-- The **head** of a declaration: a keyword and blanks. -/
def IsHead (head : Text) : Prop :=
  ∃ keyword ∈ keywords, ∃ blanks, blanks ≠ [] ∧ (∀ c ∈ blanks, Text.isBlank c = true) ∧
    head = keyword ++ blanks

/-- A head ends in a blank. -/
theorem IsHead.exists_concat (h : IsHead head) :
    ∃ top c, Text.isBlank c = true ∧ head = top ++ [c] := by
  obtain ⟨keyword, -, blanks, hne, hblank, rfl⟩ := h
  refine ⟨keyword ++ blanks.dropLast, blanks.getLast hne, hblank _ (List.getLast_mem hne), ?_⟩
  rw [List.append_assoc, List.dropLast_append_getLast hne]

/-- **A text ends in at most one head.** -/
theorem IsHead.append_inj {head' : Text} (h : IsHead head) (h' : IsHead head')
    (heq : u ++ head = v ++ head') : u = v ∧ head = head' := by
  obtain ⟨k, hk, blanks, -, hblank, rfl⟩ := h
  obtain ⟨k', hk', blanks', -, hblank', rfl⟩ := h'
  obtain ⟨hne, hword⟩ := isWord_of_mem_keywords hk
  obtain ⟨hne', hword'⟩ := isWord_of_mem_keywords hk'
  have hlast := List.dropLast_append_getLast hne
  have hlast' := List.dropLast_append_getLast hne'
  -- The last character of a keyword is no blank, so both heads have the same blanks.
  have hc : ¬ Text.isBlank (k.getLast hne) = true := by
    rw [Text.isBlank_eq_false (hword _ (List.getLast_mem hne))]
    simp
  have hc' : ¬ Text.isBlank (k'.getLast hne') = true := by
    rw [Text.isBlank_eq_false (hword' _ (List.getLast_mem hne'))]
    simp
  have hsplit : (u ++ k.dropLast) ++ k.getLast hne :: blanks =
      (v ++ k'.dropLast) ++ k'.getLast hne' :: blanks' := by
    rw [← hlast, ← hlast'] at heq
    simpa using heq
  obtain ⟨-, hchar, rfl⟩ := Text.append_singleton_append_inj hblank hblank' hc hc' hsplit
  obtain rfl : k = k' := by
    apply keyword_eq_of_getLast hk hk'
    rw [List.getLast?_eq_some_getLast hne, List.getLast?_eq_some_getLast hne', hchar]
  exact ⟨List.append_cancel_right heq, rfl⟩

/-! ## Declarations in a text -/

/-- **A declaration** of a name in a text, between what is in front of it and what follows. -/
structure Declares (name t before head after : Text) : Prop where
  /-- The text is what is in front, the head, the name, and what follows. -/
  text : t = before ++ (head ++ (name ++ after))
  /-- The head is a keyword and blanks. -/
  isHead : IsHead head
  /-- No word character is in front. -/
  left : before.getLast?.any Text.isWordCharacter = false
  /-- No word character follows. -/
  right : after.head?.any Text.isWordCharacter = false

/-- Behind a solid name there is a word boundary exactly if no word character follows. -/
theorem boundaryBetween_solid (hname : name.IsSolid) (blanks : Text) (c : Option Char) :
    Text.boundaryBetween (blanks ++ name).getLast? c = true ↔
      c.any Text.isWordCharacter = false := by
  rw [List.getLast?_append_of_ne_nil _ hname.ne_nil]
  exact Text.boundaryBetween_of_any hname.last

/-- A declaration of a solid name is a site of it. -/
theorem declares_iff (hname : name.IsSolid) :
    Declares name t before head after ↔
      ∃ keyword blanks, head = keyword ++ blanks ∧ IsSite name t before keyword blanks after := by
  constructor
  · rintro ⟨rfl, ⟨keyword, hmem, blanks, hne, hblank, rfl⟩, hleft, hright⟩
    refine ⟨keyword, blanks, rfl, hmem, hne, hblank, by rw [List.append_assoc], ?_, ?_⟩
    · exact (boundaryBetween_keyword hmem _).2 hleft
    · exact (boundaryBetween_solid hname blanks _).2 hright
  · rintro ⟨keyword, blanks, rfl, hmem, hne, hblank, rfl, hfront, hbehind⟩
    refine ⟨by rw [List.append_assoc], ⟨keyword, hmem, blanks, hne, hblank, rfl⟩, ?_, ?_⟩
    · exact (boundaryBetween_keyword hmem _).1 hfront
    · exact (boundaryBetween_solid hname blanks _).1 hbehind

/-- **The search finds the first declaration.** -/
theorem search_at?_eq_some_iff (hname : name.IsSolid) :
    Text.search (at? name) t = some (before, head, after) ↔
      Declares name t before head after ∧
        ∀ b h a, Declares name t b h a → before.length ≤ b.length := by
  rw [search_at?_eq_some_iff_isFirst]
  constructor
  · rintro ⟨keyword, blanks, hhead, hfirst⟩
    refine ⟨(declares_iff hname).2 ⟨keyword, blanks, hhead, hfirst.isSite⟩, ?_⟩
    intro b h a hdecl
    obtain ⟨k, w, -, hsite⟩ := (declares_iff hname).1 hdecl
    exact hfirst.first b k w a hsite
  · rintro ⟨hdecl, hearliest⟩
    obtain ⟨keyword, blanks, hhead, hsite⟩ := (declares_iff hname).1 hdecl
    refine ⟨keyword, blanks, hhead, hsite, ?_, ?_⟩
    · intro b k w a hother
      exact hearliest b (k ++ w) a ((declares_iff hname).2 ⟨k, w, rfl, hother⟩)
    · intro k w a hother
      obtain rfl := hsite.blanks_eq hname.ne_nil hname.blank hother
      exact Nat.le_refl _

/-- The search finds nothing exactly if there is no declaration. -/
theorem search_at?_eq_none_iff (hname : name.IsSolid) :
    Text.search (at? name) t = none ↔ ∀ b h a, ¬ Declares name t b h a := by
  rw [search_at?_eq_none_iff_isSite]
  constructor
  · intro hnone b h a hdecl
    obtain ⟨k, w, -, hsite⟩ := (declares_iff hname).1 hdecl
    exact hnone b k w a hsite
  · intro hnone b k w a hsite
    exact hnone b (k ++ w) a ((declares_iff hname).2 ⟨k, w, rfl, hsite⟩)

end Declaration

end SourceRecovery
