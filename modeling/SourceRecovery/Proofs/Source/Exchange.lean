import SourceRecovery.Proofs.Source.Declaration

/-! # Declarations around a stretch

A **stretch** of a text without blanks stands behind a blank, and no word character follows it, as
the name of a declaration does. A declaration in the text lies in front of the stretch, or its name
begins with the stretch, or its keyword ends the stretch, or it lies behind the stretch
(**`Declares.cases`**). So exchanging the stretch brings in few new declarations:

* **`Declares.exchange_front`** — a declaration in front of the stretch stays.
* **`search_at?_renamed`** — after the first declaration of a name has got a new name, it is the
  first declaration of the new name, if that was declared nowhere. -/

namespace SourceRecovery

namespace Declaration

variable {name newName t before head after u v x y : Text} {c : Char}

/-- A stretch at the end of which a keyword stands. -/
theorem exists_append_of_keyword {keyword : Text} (hmem : keyword ∈ keywords)
    (hc : Text.isBlank c = true) (h : u ++ [c] ++ y = before ++ keyword) :
    ∃ y₀, y = y₀ ++ keyword ∧ before = u ++ [c] ++ y₀ := by
  have hword := (isWord_of_mem_keywords hmem).isBlank_eq_false
  have hc' : ¬ Text.isBlank c = false := by simp [hc]
  have hcons : before ++ keyword = u ++ c :: y := by rw [← h]; simp
  obtain ⟨w, hy, hbefore⟩ := Text.exists_of_append_append hword hc' hcons
  exact ⟨w, hy, by rw [hbefore]; simp⟩

/-- The front of a text that begins with a stretch has the property of the stretch. -/
theorem any_head?_append {p : Char → Bool} (hne : x ≠ []) (hx : ∀ d ∈ x, p d = true) :
    (x ++ y).head?.any p = true := by
  obtain ⟨d, x, rfl⟩ := List.exists_cons_of_ne_nil hne
  exact hx d (by simp)

/-- **Where a head lies** that ends behind a stretch `y` without blanks: behind the stretch, or its
keyword ends the stretch. -/
theorem IsHead.cases (h : IsHead head) (hc : Text.isBlank c = true)
    (hyne : y ≠ []) (hy : ∀ d ∈ y, Text.isBlank d = false)
    (hx : x.head?.any Text.isWordCharacter = false)
    (heq : before ++ head = u ++ [c] ++ (y ++ x)) :
    (∃ w, w ≠ [] ∧ before = u ++ [c] ++ (y ++ w) ∧ x = w ++ head) ∨
      ∃ y₀ keyword, head = keyword ++ x ∧ (∀ d ∈ x, Text.isBlank d = true) ∧
        y = y₀ ++ keyword ∧ before = u ++ [c] ++ y₀ := by
  obtain ⟨keyword, hmem, blanks, hblanks, hblank, rfl⟩ := h
  obtain ⟨hkne, hkword⟩ := isWord_of_mem_keywords hmem
  -- If the keyword ends where the stretch ends, it is the end of the stretch.
  have hend : u ++ [c] ++ y = before ++ keyword → x = blanks →
      ∃ y₀ k, keyword ++ blanks = k ++ x ∧ (∀ d ∈ x, Text.isBlank d = true) ∧ y = y₀ ++ k ∧
        before = u ++ [c] ++ y₀ := by
    rintro hstretch rfl
    obtain ⟨y₀, hy₀, hbefore⟩ := exists_append_of_keyword hmem hc hstretch
    exact ⟨y₀, keyword, rfl, hblank, hy₀, hbefore⟩
  have hsplit : (before ++ keyword) ++ blanks = (u ++ [c] ++ y) ++ x := by
    simpa using heq
  rcases List.append_eq_append_iff.1 hsplit with ⟨z, hz, hbz⟩ | ⟨z, hz, hxz⟩
  · -- The blanks begin at the end of the stretch, or else in it or in front of it.
    rcases List.eq_nil_or_concat z with rfl | ⟨z, d, rfl⟩
    · exact .inr (hend (by rw [hz, List.append_nil]) hbz.symm)
    · rw [List.concat_eq_append] at hz hbz
      exfalso
      rcases List.eq_nil_or_concat y with rfl | ⟨y, e, rfl⟩
      · exact hyne rfl
      · rw [List.concat_eq_append, ← List.append_assoc, ← List.append_assoc] at hz
        obtain ⟨-, hde⟩ := List.append_inj' hz rfl
        obtain rfl := List.singleton_inj.1 hde
        have hcontra := hy e (by simp)
        rw [hblank e (by simp [hbz])] at hcontra
        cases hcontra
  · rcases eq_or_ne z [] with rfl | hzne
    · exact .inr (hend (by rw [hz, List.append_nil]) (by rw [hxz, List.nil_append]))
    · -- The keyword begins behind the stretch: what follows the stretch is no word character.
      rcases List.append_eq_append_iff.1 hz with ⟨w, hw, hkw⟩ | ⟨w, hw, hzw⟩
      · have hcontra := any_head?_append (y := blanks) hzne fun d hd => hkword d (by simp [hkw, hd])
        rw [← hxz, hx] at hcontra
        cases hcontra
      · rcases eq_or_ne w [] with rfl | hwne
        · rw [List.nil_append] at hzw
          have hcontra := any_head?_append (y := blanks) hkne hkword
          rw [← hzw, ← hxz, hx] at hcontra
          cases hcontra
        · exact .inl ⟨w, hwne, by rw [hw]; simp, by rw [hxz, hzw]; simp⟩

/-- **Where a declaration lies** in a text with a stretch `y` without blanks, behind a blank and in
front of no word character. -/
theorem Declares.cases (hname : name.IsSolid) (hc : Text.isBlank c = true)
    (hyne : y ≠ []) (hy : ∀ d ∈ y, Text.isBlank d = false)
    (hv : v.head?.any Text.isWordCharacter = false)
    (h : Declares name (u ++ [c] ++ (y ++ v)) before head after) :
    (∃ w, w ≠ [] ∧ u ++ [c] = before ++ (head ++ (name ++ w)) ∧ after = w ++ (y ++ v)) ∨
      (u ++ [c] = before ++ head ∧ y ++ v = name ++ after) ∨
      (∃ w, w ≠ [] ∧ before = u ++ [c] ++ (y ++ w) ∧ v = w ++ (head ++ (name ++ after))) ∨
      ∃ y₀ keyword blanks, blanks ≠ [] ∧ (∀ d ∈ blanks, Text.isBlank d = true) ∧
        head = keyword ++ blanks ∧ y = y₀ ++ keyword ∧ before = u ++ [c] ++ y₀ ∧
        v = blanks ++ (name ++ after) := by
  have hword := hname.blank
  have hc' : ¬ Text.isBlank c = false := by simp [hc]
  obtain ⟨top, d, hd, hhead⟩ := h.isHead.exists_concat
  have hd' : ¬ Text.isBlank d = false := by simp [hd]
  have htext : (before ++ head) ++ (name ++ after) = (u ++ [c]) ++ (y ++ v) := by
    rw [h.text, List.append_assoc]
  rcases List.append_eq_append_iff.1 htext with ⟨w, huc, hw⟩ | ⟨w, hbh, hw⟩
  · -- The name begins in front of the stretch, or where it begins.
    rcases List.eq_nil_or_concat w with rfl | ⟨w, e, rfl⟩
    · exact .inr (.inl ⟨by rw [huc, List.append_nil], hw.symm⟩)
    · left
      rw [List.concat_eq_append] at huc hw
      rw [← List.append_assoc] at huc
      obtain ⟨-, hce⟩ := List.append_inj' huc rfl
      obtain rfl := List.singleton_inj.1 hce
      rw [List.append_assoc] at hw
      obtain ⟨w', rfl, rfl⟩ := Text.exists_of_append_cons hword hc' hw
      exact ⟨w' ++ [c], by simp, by rw [huc]; simp, by simp⟩
  · -- The name begins behind the stretch, or where the stretch begins.
    rcases List.eq_nil_or_concat w with rfl | ⟨w, e, rfl⟩
    · exact .inr (.inl ⟨by rw [hbh, List.append_nil], hw⟩)
    · rw [List.concat_eq_append] at hbh hw
      obtain rfl : e = d := by
        rw [hhead, ← List.append_assoc, ← List.append_assoc] at hbh
        obtain ⟨-, hde⟩ := List.append_inj' hbh rfl
        exact (List.singleton_inj.1 hde).symm
      have hcons : y ++ v = w ++ e :: (name ++ after) := by rw [hw]; simp
      obtain ⟨x, rfl, rfl⟩ := Text.exists_of_append_cons hy hd' hcons
      have hbefore : before ++ head = u ++ [c] ++ (y ++ (x ++ [e])) := by rw [hbh]; simp
      have hsame : (x ++ [e]).head? = (x ++ e :: (name ++ after)).head? := by
        cases x <;> rfl
      rcases h.isHead.cases hc hyne hy (by rwa [hsame]) hbefore with
        ⟨w', hw', hbefore', hx⟩ | ⟨y₀, keyword, hhead', hblank, hy₀, hbefore'⟩
      · refine .inr (.inr (.inl ⟨w', hw', hbefore', ?_⟩))
        rw [← List.append_assoc w', ← hx]
        simp
      · exact .inr (.inr (.inr ⟨y₀, keyword, x ++ [e], by simp, hblank, hhead', hy₀, hbefore',
          by simp⟩))

/-- **A declaration in front of a stretch** stays when the stretch is exchanged. -/
theorem Declares.exchange_front {w : Text} (hw : w ≠ [])
    (h : Declares name (u ++ [c] ++ (y ++ v)) before head after)
    (hfront : u ++ [c] = before ++ (head ++ (name ++ w))) (hafter : after = w ++ (y ++ v)) :
    Declares name (u ++ [c] ++ (x ++ v)) before head (w ++ (x ++ v)) := by
  obtain ⟨d, w, rfl⟩ := List.exists_cons_of_ne_nil hw
  refine ⟨by rw [hfront]; simp, h.isHead, h.left, ?_⟩
  have hright := h.right
  rw [hafter] at hright
  exact hright

/-- **After the first declaration of a name has been renamed**, it is the first declaration of the
new name, if that was declared nowhere. -/
theorem search_at?_renamed (hname : name.IsSolid) (hnew : newName.IsSolid)
    (h : Text.search (at? name) t = some (before, head, after))
    (hnone : Text.search (at? newName) t = none) :
    Text.search (at? newName) (before ++ (head ++ (newName ++ after))) =
      some (before, head, after) := by
  obtain ⟨hdecl, -⟩ := (search_at?_eq_some_iff hname).1 h
  rw [search_at?_eq_none_iff hnew] at hnone
  obtain ⟨top, c, hc, hhead⟩ := hdecl.isHead.exists_concat
  have hsplit : before ++ head = before ++ top ++ [c] := by rw [hhead, List.append_assoc]
  have htext : ∀ n, before ++ (head ++ (n ++ after)) = before ++ top ++ [c] ++ (n ++ after) := by
    intro n
    rw [← List.append_assoc, hsplit]
  refine (search_at?_eq_some_iff hnew).2
    ⟨⟨rfl, hdecl.isHead, hdecl.left, hdecl.right⟩, fun b h a hd => ?_⟩
  rw [htext] at hd
  rcases hd.cases hnew hc hnew.ne_nil hnew.blank hdecl.right with
    ⟨w, hw, hfront, ha⟩ | ⟨hfront, -⟩ | ⟨w, -, hb, -⟩ | ⟨y₀, -, -, -, -, -, -, hb, -⟩
  · -- It was a declaration of the new name before.
    have hold := hd.exchange_front (x := name) hw hfront ha
    rw [← htext, ← hdecl.text] at hold
    exact absurd hold (hnone b h _)
  · rw [← hsplit] at hfront
    have hsame := (hdecl.isHead.append_inj hd.isHead hfront).1
    exact Nat.le_of_eq (congrArg List.length hsame)
  · rw [hb]
    simp only [List.length_append]
    omega
  · rw [hb]
    simp only [List.length_append]
    omega

end Declaration

end SourceRecovery
