import SourceRecovery.Proofs.Text.Splitting
import SourceRecovery.Source.Declaration

/-! # Where a declaration is found

The name that is looked for may be any text: it may be empty, begin with blanks or be no word at
all. A **site** of a name (**`IsSite`**) is a place where a keyword, blanks and the name stand one
behind the other, between two word boundaries. Several runs of blanks can fit at one place, and the
search takes the longest.

* **`blanksThenName?_eq_some`**, **`exists_blanksThenName?`** — the name is found behind blanks
  where it follows them, and no longer run of blanks has it behind it.
* **`search_at?_eq_some_iff_isFirst`**, **`search_at?_eq_none_iff_isSite`** — the search stops at
  the first site, with the most blanks, if there is a site.
* **`rename_splices`** — renaming exchanges the name at the first site and nothing else. -/

namespace SourceRecovery

namespace Declaration

variable {name newName t before keyword keyword' blanks blanks' after after' head : Text}
  {left : Char}

/-! ## Keywords -/

/-- Keywords are words. -/
theorem isWord_of_mem_keywords (h : keyword ∈ keywords) : Text.IsWord keyword := by
  have hall : ∀ k ∈ keywords, k ≠ [] ∧ (k.all Text.isWordCharacter) = true := by decide +kernel
  obtain ⟨hne, hword⟩ := hall keyword h
  exact ⟨hne, List.all_eq_true.1 hword⟩

/-- A keyword is known by its first character. -/
theorem keyword_eq_of_head (h : keyword ∈ keywords) (h' : keyword' ∈ keywords)
    (hhead : keyword.head? = keyword'.head?) : keyword = keyword' := by
  have hall : ∀ k ∈ keywords, ∀ k' ∈ keywords, k.head? = k'.head? → k = k' := by decide
  exact hall keyword h keyword' h' hhead

/-- At most one keyword stands at the front of a text. -/
theorem keyword_append_inj {u v : Text} (h : keyword ∈ keywords) (h' : keyword' ∈ keywords)
    (heq : keyword ++ u = keyword' ++ v) : keyword = keyword' ∧ u = v := by
  obtain ⟨c, cs, rfl⟩ := List.exists_cons_of_ne_nil (isWord_of_mem_keywords h).1
  obtain ⟨d, ds, rfl⟩ := List.exists_cons_of_ne_nil (isWord_of_mem_keywords h').1
  have hkeyword := keyword_eq_of_head h h' (by simpa using congrArg List.head? heq)
  rw [hkeyword] at heq
  exact ⟨hkeyword, List.append_cancel_left heq⟩

/-- In front of a keyword there is a word boundary exactly if no word character stands there. -/
theorem boundaryBetween_keyword (h : keyword ∈ keywords) (c : Option Char) :
    Text.boundaryBetween c keyword.head? = true ↔ c.any Text.isWordCharacter = false := by
  rw [Text.boundaryBetween_comm]
  exact Text.boundaryBetween_of_any (isWord_of_mem_keywords h).any_head?

/-! ## A name behind blanks -/

/-- **A name behind blanks** at the front of a text, with a word boundary behind the name. The
character in front of the text is `left`. -/
structure Follows (name : Text) (left : Char) (t blanks after : Text) : Prop where
  /-- The text is the blanks, the name, and what follows. -/
  text : t = blanks ++ (name ++ after)
  /-- The blanks are blank. -/
  blank : ∀ c ∈ blanks, Text.isBlank c = true
  /-- A word boundary stands behind the name. -/
  boundary : Text.boundaryBetween (some ((blanks ++ name).getLast?.getD left)) after.head? = true

/-- One blank more in front. -/
theorem follows_cons_iff {c : Char} :
    Follows name left t (c :: blanks) after ↔
      Text.isBlank c = true ∧ ∃ rest, t = c :: rest ∧ Follows name c rest blanks after := by
  have hlast : (c :: blanks ++ name).getLast?.getD left = (blanks ++ name).getLast?.getD c := by
    rw [List.cons_append, List.getLast?_cons]
    rfl
  constructor
  · rintro ⟨rfl, hblank, hbound⟩
    rw [hlast] at hbound
    exact ⟨hblank c (by simp), _, rfl, rfl, fun d hd => hblank d (by simp [hd]), hbound⟩
  · rintro ⟨hc, rest, rfl, rfl, hblank, hbound⟩
    rw [← hlast] at hbound
    refine ⟨rfl, ?_, hbound⟩
    intro d hd
    rcases List.mem_cons.1 hd with rfl | hd
    · exact hc
    · exact hblank d hd

/-- The name is found without blanks in front exactly if it follows without any. -/
theorem behindName?_eq_some_iff :
    behindName? name left t = some after ↔ Follows name left t [] after := by
  unfold behindName?
  constructor
  · intro h
    split at h
    · next rest hp =>
      split_ifs at h with hbound
      obtain rfl := Option.some.inj h
      have htext : t = name ++ rest := Text.isPrefixOf?_eq_some_iff.1 hp
      exact ⟨htext, by simp, hbound⟩
    · cases h
  · rintro ⟨htext, -, hbound⟩
    have hp : name.isPrefixOf? t = some after := Text.isPrefixOf?_eq_some_iff.2 htext
    rw [hp]
    exact if_pos hbound

/-- The name is found behind blanks only where it follows them. -/
theorem blanksThenName?_eq_some (h : blanksThenName? name left t = some (blanks, after)) :
    Follows name left t blanks after := by
  induction t generalizing left blanks with
  | nil =>
    obtain ⟨rest, hrest, hpair⟩ := Option.map_eq_some_iff.1 h
    obtain ⟨rfl, rfl⟩ := Prod.mk.inj hpair
    exact behindName?_eq_some_iff.1 hrest
  | cons c t ih =>
    rw [blanksThenName?] at h
    split at h
    · next blanks₁ after₁ hmore =>
      obtain ⟨rfl, rfl⟩ := Prod.mk.inj (Option.some.inj h)
      split_ifs at hmore with hc
      exact follows_cons_iff.2 ⟨hc, t, rfl, ih hmore⟩
    · obtain ⟨rest, hrest, hpair⟩ := Option.map_eq_some_iff.1 h
      obtain ⟨rfl, rfl⟩ := Prod.mk.inj hpair
      exact behindName?_eq_some_iff.1 hrest

/-- Where the name follows blanks, it is found behind at least as many. -/
theorem exists_blanksThenName? (h : Follows name left t blanks after) :
    ∃ blanks' after', blanksThenName? name left t = some (blanks', after') ∧
      blanks.length ≤ blanks'.length := by
  induction t generalizing left blanks with
  | nil =>
    obtain rfl : blanks = [] := (List.append_eq_nil_iff.1 h.text.symm).1
    refine ⟨[], after, ?_, Nat.le_refl _⟩
    rw [blanksThenName?, behindName?_eq_some_iff.2 h]
    rfl
  | cons c t ih =>
    rw [blanksThenName?]
    cases hmore : if Text.isBlank c = true then blanksThenName? name c t else none with
    | some found =>
      refine ⟨c :: found.1, found.2, rfl, ?_⟩
      cases blanks with
      | nil => simp
      | cons d blanks =>
        obtain ⟨hd, rest, heq, hrest⟩ := follows_cons_iff.1 h
        obtain ⟨rfl, rfl⟩ := List.cons.inj heq
        obtain ⟨blanks₁, after₁, hfound, hle⟩ := ih hrest
        rw [if_pos hd, hfound] at hmore
        obtain rfl := Option.some.inj hmore
        exact Nat.succ_le_succ hle
    | none =>
      cases blanks with
      | nil =>
        refine ⟨[], after, ?_, Nat.le_refl _⟩
        rw [behindName?_eq_some_iff.2 h]
        rfl
      | cons d blanks =>
        -- A longer run of blanks has the name behind it, so the search behind `c` succeeds.
        obtain ⟨hd, rest, heq, hrest⟩ := follows_cons_iff.1 h
        obtain ⟨rfl, rfl⟩ := List.cons.inj heq
        obtain ⟨blanks₁, after₁, hfound, -⟩ := ih hrest
        rw [if_pos hd, hfound] at hmore
        cases hmore

/-! ## Sites -/

/-- **A site** of a name in a text: a keyword, blanks and the name, between two word
boundaries. -/
structure IsSite (name t before keyword blanks after : Text) : Prop where
  /-- The keyword is one that declares a name. -/
  mem_keywords : keyword ∈ keywords
  /-- At least one character is between the keyword and the name. -/
  nonempty : blanks ≠ []
  /-- Only blanks are between the keyword and the name. -/
  blank : ∀ c ∈ blanks, Text.isBlank c = true
  /-- The text is what is in front, the keyword, the blanks, the name, and what follows. -/
  text : t = before ++ (keyword ++ (blanks ++ (name ++ after)))
  /-- A word boundary stands in front of the keyword. -/
  front : Text.boundaryBetween before.getLast? keyword.head? = true
  /-- A word boundary stands behind the name. -/
  behind : Text.boundaryBetween (blanks ++ name).getLast? after.head? = true

/-- A site begins with no word character in front of it and a keyword, with one blank and the name
behind blanks following. -/
theorem isSite_iff :
    IsSite name (before ++ t) before keyword blanks after ↔
      keyword ∈ keywords ∧ before.getLast?.any Text.isWordCharacter = false ∧
        ∃ c rest more, Text.isBlank c = true ∧ t = keyword ++ c :: rest ∧ blanks = c :: more ∧
          Follows name c rest more after := by
  have hlast : ∀ (c : Char) (more : Text),
      (c :: more ++ name).getLast? = some ((more ++ name).getLast?.getD c) := by
    intro c more
    rw [List.cons_append, List.getLast?_cons]
  constructor
  · rintro ⟨hmem, hne, hblank, htext, hfront, hbehind⟩
    obtain ⟨c, more, rfl⟩ := List.exists_cons_of_ne_nil hne
    rw [hlast] at hbehind
    refine ⟨hmem, (boundaryBetween_keyword hmem _).1 hfront, c, more ++ (name ++ after), more,
      hblank c (by simp), List.append_cancel_left htext, rfl, rfl, ?_, hbehind⟩
    intro d hd
    exact hblank d (by simp [hd])
  · rintro ⟨hmem, hfront, c, rest, more, hc, rfl, rfl, rfl, hblank, hbehind⟩
    rw [← hlast] at hbehind
    refine ⟨hmem, by simp, ?_, rfl, (boundaryBetween_keyword hmem _).2 hfront, hbehind⟩
    intro d hd
    rcases List.mem_cons.1 hd with rfl | hd
    · exact hc
    · exact hblank d hd

/-- Two sites at one place have the same keyword. -/
theorem IsSite.keyword_eq (h : IsSite name t before keyword blanks after)
    (h' : IsSite name t before keyword' blanks' after') :
    keyword = keyword' ∧ blanks ++ (name ++ after) = blanks' ++ (name ++ after') :=
  keyword_append_inj h.mem_keywords h'.mem_keywords
    (List.append_cancel_left (h.text.symm.trans h'.text))

/-- Only one run of blanks has a name behind it that begins with no blank. -/
theorem IsSite.blanks_eq (hne : name ≠ []) (hname : ∀ d ∈ name, Text.isBlank d = false)
    (h : IsSite name t before keyword blanks after)
    (h' : IsSite name t before keyword' blanks' after') : blanks = blanks' := by
  obtain ⟨-, heq⟩ := h.keyword_eq h'
  obtain ⟨d, ds, rfl⟩ := List.exists_cons_of_ne_nil hne
  -- The name begins where the blanks end.
  have hd : ¬ Text.isBlank d = true := by simp [hname d (by simp)]
  have htake : ∀ w a : Text, (∀ c ∈ w, Text.isBlank c = true) →
      (w ++ (d :: ds ++ a)).takeWhile Text.isBlank = w := by
    intro w a hw
    rw [List.takeWhile_append_of_pos hw, List.cons_append, List.takeWhile_cons_of_neg hd,
      List.append_nil]
  rw [← htake blanks after h.blank, heq, htake blanks' after' h'.blank]

/-- A declaration begins with the keyword, a blank, and then blanks and the name as they are
searched for. -/
theorem withKeyword?_eq_some_iff :
    withKeyword? name t keyword = some (head, after) ↔
      ∃ c rest more, Text.isBlank c = true ∧ t = keyword ++ c :: rest ∧
        blanksThenName? name c rest = some (more, after) ∧ head = keyword ++ c :: more := by
  unfold withKeyword?
  constructor
  · intro h
    split at h
    · next c rest hp =>
      split_ifs at h with hc
      obtain ⟨⟨more, after'⟩, hmore, hpair⟩ := Option.map_eq_some_iff.1 h
      obtain ⟨rfl, rfl⟩ := Prod.mk.inj hpair
      exact ⟨c, rest, more, hc, Text.isPrefixOf?_eq_some_iff.1 hp, hmore, rfl⟩
    · cases h
  · rintro ⟨c, rest, more, hc, htext, hmore, rfl⟩
    simp only [Text.isPrefixOf?_eq_some_iff.2 htext, hc, if_true, hmore, Option.map_some]

/-- What is found at a place is a site there, with the most blanks. -/
theorem isSite_of_at? (h : at? name before.getLast? t = some (head, after)) :
    ∃ keyword blanks, head = keyword ++ blanks ∧
      IsSite name (before ++ t) before keyword blanks after ∧
        ∀ k w a, IsSite name (before ++ t) before k w a → w.length ≤ blanks.length := by
  unfold at? at h
  split_ifs at h with hleft
  obtain ⟨keyword, hmem, hk⟩ := List.exists_of_findSome?_eq_some h
  obtain ⟨c, rest, more, hc, htext, hmore, hhead⟩ := withKeyword?_eq_some_iff.1 hk
  have hsite : IsSite name (before ++ t) before keyword (c :: more) after :=
    isSite_iff.2 ⟨hmem, by simpa using hleft, c, rest, more, hc, htext, rfl,
      blanksThenName?_eq_some hmore⟩
  refine ⟨keyword, c :: more, hhead, hsite, ?_⟩
  intro k w a hother
  -- The other site has the same keyword and the same first blank.
  obtain ⟨rfl, -⟩ := hsite.keyword_eq hother
  obtain ⟨-, -, d, rest', w, -, htext', rfl, hfollows⟩ := isSite_iff.1 hother
  obtain ⟨rfl, rfl⟩ := List.cons.inj (List.append_cancel_left (htext.symm.trans htext'))
  obtain ⟨blanks₁, after₁, hfound, hle⟩ := exists_blanksThenName? hfollows
  rw [hmore] at hfound
  obtain ⟨rfl, -⟩ := Prod.mk.inj (Option.some.inj hfound)
  exact Nat.succ_le_succ hle

/-- Something is found where a site is. -/
theorem IsSite.at?_ne_none (h : IsSite name t before keyword blanks after) :
    at? name before.getLast? (keyword ++ (blanks ++ (name ++ after))) ≠ none := by
  obtain rfl := h.text
  obtain ⟨hmem, hleft, c, rest, more, hc, htext, -, hfollows⟩ := isSite_iff.1 h
  obtain ⟨blanks₁, after₁, hfound, -⟩ := exists_blanksThenName? hfollows
  have hk := withKeyword?_eq_some_iff.2 ⟨c, rest, blanks₁, hc, htext, hfound, rfl⟩
  intro hnone
  unfold at? at hnone
  rw [hleft, if_neg (by simp)] at hnone
  rw [List.findSome?_eq_none_iff.1 hnone keyword hmem] at hk
  cases hk

/-! ## The first site -/

/-- **The first site** of a name in a text, with the most blanks that fit there. -/
structure IsFirst (name t before keyword blanks after : Text) : Prop where
  /-- It is a site. -/
  isSite : IsSite name t before keyword blanks after
  /-- No site begins earlier. -/
  first : ∀ b k w a, IsSite name t b k w a → before.length ≤ b.length
  /-- No site at this place has more blanks. -/
  longest : ∀ k w a, IsSite name t before k w a → w.length ≤ blanks.length

/-- The search finds nothing exactly if there is no site. -/
theorem search_at?_eq_none_iff_isSite :
    Text.search (at? name) t = none ↔ ∀ b k w a, ¬ IsSite name t b k w a := by
  rw [Text.search_eq_none_iff]
  constructor
  · intro hnone b k w a hsite
    exact hsite.at?_ne_none (hnone b _ hsite.text)
  · intro hnone b rest ht
    rw [Option.eq_none_iff_forall_ne_some]
    rintro ⟨h, a⟩ hat
    obtain ⟨k, w, -, hsite, -⟩ := isSite_of_at? hat
    rw [← ht] at hsite
    exact hnone b k w a hsite

/-- What the search finds is the first site. -/
theorem isFirst_of_search (h : Text.search (at? name) t = some (before, head, after)) :
    ∃ keyword blanks, head = keyword ++ blanks ∧ IsFirst name t before keyword blanks after := by
  obtain ⟨rest, rfl, hat, hearlier⟩ := Text.search_eq_some_iff.1 h
  obtain ⟨keyword, blanks, hhead, hsite, hlongest⟩ := isSite_of_at? hat
  refine ⟨keyword, blanks, hhead, hsite, ?_, hlongest⟩
  intro b k w a hother
  by_contra hlt
  exact hother.at?_ne_none (hearlier b _ hother.text (by omega))

/-- There is one first site at most. -/
theorem IsFirst.eq {before' : Text} (h : IsFirst name t before keyword blanks after)
    (h' : IsFirst name t before' keyword' blanks' after') :
    before = before' ∧ keyword = keyword' ∧ blanks = blanks' ∧ after = after' := by
  have hle := h.first _ _ _ _ h'.isSite
  have hle' := h'.first _ _ _ _ h.isSite
  obtain ⟨rfl, -⟩ := List.append_inj (h.isSite.text.symm.trans h'.isSite.text) (by omega)
  obtain ⟨rfl, heq⟩ := h.isSite.keyword_eq h'.isSite
  have hmore := h.longest _ _ _ h'.isSite
  have hmore' := h'.longest _ _ _ h.isSite
  obtain ⟨rfl, hrest⟩ := List.append_inj heq (by omega)
  exact ⟨rfl, rfl, rfl, List.append_cancel_left hrest⟩

/-- **The search finds the first site.** -/
theorem search_at?_eq_some_iff_isFirst :
    Text.search (at? name) t = some (before, head, after) ↔
      ∃ keyword blanks, head = keyword ++ blanks ∧
        IsFirst name t before keyword blanks after := by
  constructor
  · intro h
    exact isFirst_of_search h
  · rintro ⟨keyword, blanks, rfl, hfirst⟩
    cases h : Text.search (at? name) t with
    | none => exact absurd hfirst.isSite (search_at?_eq_none_iff_isSite.1 h _ _ _ _)
    | some found =>
      obtain ⟨b, head, a⟩ := found
      obtain ⟨k, w, rfl, hfound⟩ := isFirst_of_search h
      obtain ⟨rfl, rfl, rfl, rfl⟩ := hfirst.eq hfound
      rfl

/-! ## Renaming -/

/-- A name within the limit can be looked for. -/
theorem tryRenameWithin?_of_isLongerThan {limit : Nat} (hshort : isLongerThan limit name = false)
    (newName t : Text) :
    tryRenameWithin? limit name newName t = .ok (rename? name newName t) := by
  rw [tryRenameWithin?, hshort]
  rfl

/-- The text of a renaming that may be refused, and what is made of it. -/
theorem map_tryRenameWithin? (limit : Nat) (f : Text → Text) (name newName t : Text) :
    (tryRenameWithin? limit name newName t).map (fun found => f (found.getD t)) =
      if isLongerThan limit name then .error .nameTooLong else .ok (f (rename name newName t)) := by
  rw [tryRenameWithin?]
  split_ifs <;> rfl

/-- The name that the search finds is replaced, and the text around it kept. -/
theorem rename?_of_search_eq_some (h : Text.search (at? name) t = some (before, head, after)) :
    rename? name newName t = some (before ++ (head ++ (newName ++ after))) := by
  rw [rename?, h]
  rfl

/-- Nothing is renamed where the search finds no declaration. -/
theorem rename?_of_search_eq_none (h : Text.search (at? name) t = none) :
    rename? name newName t = none := by
  rw [rename?, h]
  rfl

/-- Renaming exchanges the name in the first declaration. -/
theorem rename_of_search_eq_some (h : Text.search (at? name) t = some (before, head, after)) :
    rename name newName t = before ++ (head ++ (newName ++ after)) := by
  rw [rename, rename?_of_search_eq_some h]
  rfl

/-- Without a declaration the text stays. -/
theorem rename_of_search_eq_none (h : Text.search (at? name) t = none) :
    rename name newName t = t := by
  rw [rename, rename?_of_search_eq_none h]
  rfl

/-- **Renaming is a splice at the first site.** Without a site nothing is matched and the text
stays. With one, the name at the first site, behind the most blanks, is exchanged for the new name
as it is written, and every other character stays. All of this for any limit on the length of a
name, that of `tryRename?` among them, and a name within it. -/
theorem rename_splices {limit : Nat} (hshort : isLongerThan limit name = false) :
    ((∀ b k w a, ¬ IsSite name t b k w a) →
      tryRenameWithin? limit name newName t = .ok none ∧ rename name newName t = t) ∧
    ((∃ b k w a, IsSite name t b k w a) →
      ∃ before keyword blanks after, IsFirst name t before keyword blanks after ∧
        tryRenameWithin? limit name newName t =
          .ok (some (before ++ (keyword ++ (blanks ++ (newName ++ after))))) ∧
        rename name newName t = before ++ (keyword ++ (blanks ++ (newName ++ after)))) := by
  have htry := tryRenameWithin?_of_isLongerThan hshort newName t
  constructor
  · intro hnone
    have hsearch := search_at?_eq_none_iff_isSite.2 hnone
    rw [htry, rename?_of_search_eq_none hsearch]
    exact ⟨rfl, rename_of_search_eq_none hsearch⟩
  · rintro ⟨b, k, w, a, hsite⟩
    cases hsearch : Text.search (at? name) t with
    | none => exact absurd hsite (search_at?_eq_none_iff_isSite.1 hsearch b k w a)
    | some found =>
      obtain ⟨before, head, after⟩ := found
      obtain ⟨keyword, blanks, rfl, hfirst⟩ := isFirst_of_search hsearch
      refine ⟨before, keyword, blanks, after, hfirst, ?_⟩
      rw [htry, rename?_of_search_eq_some hsearch, rename_of_search_eq_some hsearch,
        List.append_assoc]
      exact ⟨rfl, rfl⟩

/-- A name that begins with a blank and ends in a dot, and a new name with a dollar sign. Two blanks
are the most in front of the name, and the later declaration stays. -/
theorem rename_splices_blankInFront :
    isLongerThan nameLimit " a.".toList = false ∧
      IsSite " a.".toList "enum   a.b class  a.c".toList [] "enum".toList [' ', ' ']
        "b class  a.c".toList ∧
      ∃ before keyword blanks after,
        IsFirst " a.".toList "enum   a.b class  a.c".toList before keyword blanks after ∧
          before ++ (keyword ++ (blanks ++ ("$1".toList ++ after))) =
            "enum  $1b class  a.c".toList := by
  have hshort : isLongerThan nameLimit " a.".toList = false := by decide
  have hsite : IsSite " a.".toList "enum   a.b class  a.c".toList [] "enum".toList [' ', ' ']
      "b class  a.c".toList :=
    ⟨by decide, by decide, by simp, by decide, by decide +kernel, by decide +kernel⟩
  obtain ⟨before, keyword, blanks, after, hfirst, htry, -⟩ :=
    (@rename_splices _ "$1".toList _ nameLimit hshort).2 ⟨_, _, _, _, hsite⟩
  refine ⟨hshort, hsite, before, keyword, blanks, after, hfirst, ?_⟩
  have hrun : tryRename? " a.".toList "$1".toList "enum   a.b class  a.c".toList =
      .ok (some "enum  $1b class  a.c".toList) := by decide +kernel
  rw [tryRename?, htry] at hrun
  exact Option.some.inj (Except.ok.inj hrun)

end Declaration

end SourceRecovery
