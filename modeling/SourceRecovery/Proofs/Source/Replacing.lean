import SourceRecovery.Proofs.Source.Statement

/-! # Replacing a statement again, and statements inside of words

A replacement leaves the first statement where it was, if neither the old one nor the new one has a
line feed in it. So the next replacement finds it there.

* **`search_behind?_replace`** — the search finds the replaced statement in the place of the old
  one.
* **`replace_replace`** — of two packages that are written one after the other, the last one stays.

The search asks for no word boundary, so the keyword of the statement that it finds need not be a
word of its own (**`StandsAlone`**).

* **`IsFirst.standsAlone_iff`** — it is one exactly if no statement begins inside of a word in front
  of it.
* **`replace_standsAlone`** — which statement is exchanged, and when only a keyword is.
* **`replace_tailOfWord`** — the tail of a longer word is exchanged like a keyword. -/

namespace SourceRecovery

namespace PackageStatement

variable {package t before blanks inner after : Text}

/-! ## Replacing again -/

/-- **The replaced statement is found in the place of the old one**, if that had no line feed. -/
theorem search_behind?_replace (hinner : ∀ c ∈ package, IsInner c)
    (hline : ∀ before blanks inner after, IsFirst t before blanks inner after →
      '\n' ∉ keyword ++ (blanks ++ (inner ++ [';']))) :
    Text.search (fun _ rest => behind? rest) (replace package t) =
      Text.search (fun _ rest => behind? rest) t := by
  cases hfound : Text.search (fun _ rest => behind? rest) t with
  | none => rw [replace_of_search_eq_none hfound, hfound]
  | some found =>
    obtain ⟨before, after⟩ := found
    obtain ⟨blanks, inner, hfirst⟩ := search_behind?_eq_some_iff_isFirst.1 hfound
    rw [replace_of_search_eq_some hfound]
    -- The old statement is a stretch without line feed, so what begins in front of it and ended in
    -- it would end in the new one, and the other way round.
    rw [hfirst.isStatement.text_eq] at hfound
    exact search_behind?_exchange_line (hline _ _ _ _ hfirst) hinner hfound

/-- **The last package wins.** Let the first statement of a text, if there is one, have no line
feed in it, and a package neither a semicolon nor a line feed. Then replacing with that package
first does not matter for a later replacement: the text is the same, and so is whether a statement
is found. In particular replacing twice with that package is replacing once. -/
theorem replace_replace (hinner : ∀ c ∈ package, IsInner c)
    (hline : ∀ before blanks inner after, IsFirst t before blanks inner after →
      '\n' ∉ keyword ++ (blanks ++ (inner ++ [';']))) :
    (∀ last, replace? last (replace package t) = replace? last t ∧
        replace last (replace package t) = replace last t) ∧
      replace package (replace package t) = replace package t := by
  have hsearch := search_behind?_replace hinner hline
  have hlast : ∀ last, replace? last (replace package t) = replace? last t ∧
      replace last (replace package t) = replace last t := by
    intro last
    cases hfound : Text.search (fun _ rest => behind? rest) t with
    | none =>
      have hstays : replace package t = t := replace_of_search_eq_none hfound
      rw [hstays]
      exact ⟨rfl, rfl⟩
    | some found =>
      rw [hfound] at hsearch
      rw [replace?_of_search_eq_some hsearch, replace?_of_search_eq_some hfound,
        replace_of_search_eq_some hsearch, replace_of_search_eq_some hfound]
      exact ⟨rfl, rfl⟩
  exact ⟨hlast, (hlast package).2⟩

/-- Behind a keyword that fails on a line feed, and with a package that holds a keyword itself. -/
theorem replace_replace_behindFailure :
    (∀ c ∈ "a package b".toList, IsInner c) ∧
      (∀ before blanks inner after,
        IsFirst "package x\n; package  y;".toList before blanks inner after →
          '\n' ∉ keyword ++ (blanks ++ (inner ++ [';']))) ∧
      replace "a package b".toList "package x\n; package  y;".toList =
        "package x\n; package a package b;".toList ∧
      replace "z".toList
          (replace "a package b".toList "package x\n; package  y;".toList) =
        "package x\n; package z;".toList := by
  have hinner : ∀ c ∈ "a package b".toList, IsInner c := by simp [IsInner]
  have hline : ∀ before blanks inner after,
      IsFirst "package x\n; package  y;".toList before blanks inner after →
        '\n' ∉ keyword ++ (blanks ++ (inner ++ [';'])) := by
    intro before blanks inner after hfirst
    -- What is in front of the statement tells what it consists of.
    have hfound := search_behind?_eq_some_iff_isFirst.2 ⟨blanks, inner, hfirst⟩
    have hrun : Text.search (fun _ rest => behind? rest) "package x\n; package  y;".toList =
        some ("package x\n; ".toList, []) := by decide +kernel
    rw [hrun] at hfound
    obtain ⟨rfl, rfl⟩ := Prod.mk.inj (Option.some.inj hfound)
    have htext : "package x\n; ".toList ++ "package  y;".toList =
        "package x\n; ".toList ++ (keyword ++ (blanks ++ (inner ++ [';']))) :=
      hfirst.isStatement.text
    rw [← List.append_cancel_left htext]
    decide
  refine ⟨hinner, hline, by decide +kernel, ?_⟩
  rw [((replace_replace hinner hline).1 "z".toList).2]
  decide +kernel

/-- With a line feed in the first statement the law fails: the statement in front of it failed on
that line feed, and has none in it any more. -/
example :
    replace "b".toList "package package\n a;".toList = "package package b;".toList ∧
      replace "b".toList "package package b;".toList = "package b;".toList := by decide +kernel

/-! ## Statements inside of words -/

/-- Whether the keyword behind `before` is a word of its own: a word boundary stands in front of
it. -/
def StandsAlone (before : Text) : Prop :=
  Text.boundaryBetween before.getLast? keyword.head? = true

instance (before : Text) : Decidable (StandsAlone before) :=
  inferInstanceAs (Decidable (_ = true))

/-- Behind the keyword of a statement there is always a word boundary. -/
theorem IsStatement.boundaryBetween_blanks (h : IsStatement t before blanks inner after) :
    Text.boundaryBetween keyword.getLast? blanks.head? = true := by
  obtain ⟨c, rest, rfl⟩ := List.exists_cons_of_ne_nil h.nonempty
  have hblank := h.blank c (by simp)
  exact (Text.boundaryBetween_of_any isWord_keyword.any_getLast?).2
    (Text.isWordCharacter_eq_false hblank)

/-- Two statements of a text that begin at one distance begin behind the same text. -/
theorem IsStatement.before_eq {b w i a : Text} (h : IsStatement t before blanks inner after)
    (h' : IsStatement t b w i a) (hlen : before.length = b.length) : before = b :=
  (List.append_inj (h.text.symm.trans h'.text) hlen).1

/-- **The first statement's keyword stands alone** exactly if every statement that begins inside of
a word begins behind it. -/
theorem IsFirst.standsAlone_iff (h : IsFirst t before blanks inner after) :
    StandsAlone before ↔
      ∀ b w i a, IsStatement t b w i a → ¬ StandsAlone b → before.length < b.length := by
  constructor
  · intro halone b w i a hother hinside
    refine lt_of_le_of_ne (h.first b w i a hother) fun hlen => hinside ?_
    rw [← h.isStatement.before_eq hother hlen]
    exact halone
  · intro hbehind
    by_contra hinside
    exact lt_irrefl _ (hbehind _ _ _ _ h.isStatement hinside)

/-- What holds in front of every place of a text where something is found, place by place. -/
theorem forall_place {p : Text → Prop} (q : Text → Prop)
    (h : ∀ n ≤ t.length, q (t.drop n) → p (t.take n)) {b r : Text} (ht : t = b ++ r) (hr : q r) :
    p b := by
  subst ht
  have hp := h b.length (by simp)
  rw [List.drop_left, List.take_left] at hp
  exact hp hr

/-- What holds in front of every occurrence of the keyword. -/
theorem forall_occurrence {p : Text → Prop}
    (h : ∀ n ≤ t.length, keyword <+: t.drop n → p (t.take n)) :
    ∀ b r, t = b ++ (keyword ++ r) → p b :=
  fun _ _ ht => forall_place (fun r => keyword <+: r) h ht (List.prefix_append _ _)

/-- What holds in front of every statement. -/
theorem forall_isStatement {p : Text → Prop}
    (h : ∀ n ≤ t.length, (behind? (t.drop n)).isSome → p (t.take n)) :
    ∀ b w i a, IsStatement t b w i a → p b := by
  intro b w i a hstatement
  have ht := hstatement.text
  refine forall_place (fun r => (behind? r).isSome) h ht ?_
  rw [ht] at hstatement
  exact Option.isSome_of_eq_some
    (behind?_eq_some_iff.2 ((begins_iff_isStatement b).2 ⟨w, i, hstatement⟩))

/-- **Which statement is exchanged.** It is the first one, whatever is in front of its keyword, so
the keyword is a word of its own exactly if every statement that begins inside of a word begins
behind it. In a text in which no statement begins inside of a word, the keyword that is exchanged is
a word of its own; and if besides the keyword occurs in such a text as the tail of longer words
only, nothing is found and the text stays. -/
theorem replace_standsAlone (package t : Text) :
    (∀ before blanks inner after, IsFirst t before blanks inner after →
      replace? package t = some (before ++ ("package ".toList ++ (package ++ ';' :: after))) ∧
        (StandsAlone before ↔
          ∀ b w i a, IsStatement t b w i a → ¬ StandsAlone b → before.length < b.length)) ∧
    ((∀ b w i a, IsStatement t b w i a → StandsAlone b) →
      (∀ before blanks inner after, IsFirst t before blanks inner after →
        StandsAlone before ∧ Text.boundaryBetween keyword.getLast? blanks.head? = true) ∧
      ((∀ b r, t = b ++ (keyword ++ r) → ¬ StandsAlone b) →
        replace? package t = none ∧ replace package t = t)) := by
  refine ⟨fun before blanks inner after hfirst => ⟨?_, hfirst.standsAlone_iff⟩,
    fun halone => ⟨fun before blanks inner after hfirst => ?_, fun htails => ?_⟩⟩
  · have hfound := search_behind?_eq_some_iff_isFirst.2 ⟨blanks, inner, hfirst⟩
    rw [replace?_of_search_eq_some hfound, render_append]
  · exact ⟨halone _ _ _ _ hfirst.isStatement, hfirst.isStatement.boundaryBetween_blanks⟩
  · -- A statement would stand alone and be the tail of a word.
    have hnone := search_behind?_eq_none_iff_isStatement.2 fun b w i a hstatement =>
      htails b _ hstatement.text (halone b w i a hstatement)
    exact ⟨replace?_of_search_eq_none hnone, replace_of_search_eq_none hnone⟩

/-- A longer word that does not end in the keyword in front of a statement, and one that does, with
a line feed in front of the semicolon. -/
theorem replace_standsAlone_longerWords :
    (∀ b w i a, IsStatement "Subpackages a; package b;".toList b w i a → StandsAlone b) ∧
      (∃ before blanks inner after,
        IsFirst "Subpackages a; package b;".toList before blanks inner after ∧
          StandsAlone before ∧
          before ++ ("package ".toList ++ ("x".toList ++ ';' :: after)) =
            "Subpackages a; package x;".toList) ∧
      (∀ b w i a, IsStatement "Subpackage a\n;".toList b w i a → StandsAlone b) ∧
      (∀ b r, "Subpackage a\n;".toList = b ++ (keyword ++ r) → ¬ StandsAlone b) ∧
      replace "x".toList "Subpackage a\n;".toList = "Subpackage a\n;".toList := by
  have halone : ∀ b w i a,
      IsStatement "Subpackages a; package b;".toList b w i a → StandsAlone b :=
    forall_isStatement (by decide +kernel)
  have hfound : Text.search (fun _ rest => behind? rest) "Subpackages a; package b;".toList =
      some ("Subpackages a; ".toList, []) := by decide +kernel
  have hnone : ∀ b w i a, ¬ IsStatement "Subpackage a\n;".toList b w i a :=
    search_behind?_eq_none_iff_isStatement.1 (by decide +kernel)
  have hnone' : ∀ b w i a, IsStatement "Subpackage a\n;".toList b w i a → StandsAlone b :=
    fun b w i a hstatement => absurd hstatement (hnone b w i a)
  have htails : ∀ b r, "Subpackage a\n;".toList = b ++ (keyword ++ r) → ¬ StandsAlone b :=
    forall_occurrence (by decide +kernel)
  obtain ⟨blanks, inner, hfirst⟩ := search_behind?_eq_some_iff_isFirst.1 hfound
  obtain ⟨hexchanged, hkeyword⟩ := replace_standsAlone "x".toList "Subpackages a; package b;".toList
  obtain ⟨hreplace, -⟩ := hexchanged _ _ _ _ hfirst
  refine ⟨halone, ⟨_, blanks, inner, _, hfirst, ((hkeyword halone).1 _ _ _ _ hfirst).1, ?_⟩, hnone',
    htails, (((replace_standsAlone "x".toList _).2 hnone').2 htails).2⟩
  have hrun : replace? "x".toList "Subpackages a; package b;".toList =
      some "Subpackages a; package x;".toList := by decide +kernel
  rw [hreplace] at hrun
  exact Option.some.inj hrun

/-- **The tail of a longer word is exchanged like a keyword.** -/
theorem replace_tailOfWord :
    (∀ b r, "Subpackage field;".toList = b ++ (keyword ++ r) → ¬ StandsAlone b) ∧
      (∃ blanks inner, IsFirst "Subpackage field;".toList "Sub".toList blanks inner []) ∧
      ¬ StandsAlone "Sub".toList ∧
      replace? "x.y".toList "Subpackage field;".toList = some "Subpackage x.y;".toList ∧
      replace "x.y".toList "Subpackage field;".toList ≠ "Subpackage field;".toList := by
  refine ⟨forall_occurrence (by decide +kernel), ?_, by decide +kernel, by decide +kernel,
    by decide +kernel⟩
  exact search_behind?_eq_some_iff_isFirst.1 (by decide +kernel)

end PackageStatement

end SourceRecovery
