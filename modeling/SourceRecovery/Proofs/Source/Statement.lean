import SourceRecovery.Proofs.Source.Package

/-! # Where a package statement is found

The pattern of a package statement — the keyword, blanks, anything on one line, a semicolon — can
fit at one place in several ways (**`Fits`**), since the blanks may go on behind the ones that are
taken for them, and more than one semicolon may follow. Of these the search prefers the most blanks,
and then the least text up to a semicolon (**`IsPreferred`**). Read as a description, a
**statement** is the keyword with all the blanks behind it and what follows up to the first
semicolon (**`IsStatement`**).

* **`Fits.exists_isStatement`** — where the pattern fits there is a statement.
* **`isFirst_iff_isPreferred`** — the first statement is the fit that the search prefers.
* **`search_behind?_eq_some_iff_isFirst`**, **`search_behind?_eq_none_iff_isStatement`** — the
  search stops at the first statement, if there is one.
* **`replace_splices`** — replacing exchanges the first statement and nothing else. -/

namespace SourceRecovery

namespace PackageStatement

variable {package t before blanks blanks' inner inner' after after' : Text}

/-- The pattern of a statement **fits** at a place of a text: the keyword, blanks, a stretch on one
line, and a semicolon. -/
structure Fits (t before blanks inner after : Text) : Prop where
  /-- At least one character is behind the keyword. -/
  nonempty : blanks ≠ []
  /-- Only blanks are. -/
  blank : ∀ c ∈ blanks, Text.isBlank c = true
  /-- The stretch is on one line. -/
  line : '\n' ∉ inner
  /-- The text is what is in front, the keyword, the blanks, the stretch, a semicolon, and what
  follows. -/
  text : t = before ++ (keyword ++ (blanks ++ (inner ++ ';' :: after)))

/-- The **preferred** fit: the first place, there the most blanks, and with them the shortest
stretch. -/
structure IsPreferred (t before blanks inner after : Text) : Prop where
  /-- The pattern fits. -/
  fits : Fits t before blanks inner after
  /-- It fits nowhere earlier. -/
  first : ∀ b w i a, Fits t b w i a → before.length ≤ b.length
  /-- It fits here with no more blanks. -/
  most : ∀ w i a, Fits t before w i a → w.length ≤ blanks.length
  /-- It fits with these blanks and no shorter stretch. -/
  least : ∀ i a, Fits t before blanks i a → inner.length ≤ i.length

/-- **A statement** in a text: the keyword, all the blanks behind it, and what follows them up to
the first semicolon, on one line. -/
structure IsStatement (t before blanks inner after : Text) : Prop where
  /-- At least one character is behind the keyword. -/
  nonempty : blanks ≠ []
  /-- Only blanks are. -/
  blank : ∀ c ∈ blanks, Text.isBlank c = true
  /-- No further blank follows. -/
  maximal : inner.head?.any Text.isBlank = false
  /-- Neither a semicolon nor a line feed stands in front of the semicolon. -/
  isInner : ∀ c ∈ inner, IsInner c
  /-- The text is what is in front, the keyword, the blanks, what the statement holds, the
  semicolon, and what follows. -/
  text : t = before ++ (keyword ++ (blanks ++ (inner ++ ';' :: after)))

/-- **The first statement** in a text. -/
structure IsFirst (t before blanks inner after : Text) : Prop where
  /-- It is a statement. -/
  isStatement : IsStatement t before blanks inner after
  /-- No statement begins earlier. -/
  first : ∀ b w i a, IsStatement t b w i a → before.length ≤ b.length

/-! ## Statements and fits -/

/-- At a statement the pattern fits. -/
theorem IsStatement.fits (h : IsStatement t before blanks inner after) :
    Fits t before blanks inner after :=
  ⟨h.nonempty, h.blank, fun hmem => (h.isInner _ hmem).2 rfl, h.text⟩

/-- A text with the statement in one piece. -/
theorem IsStatement.text_eq (h : IsStatement t before blanks inner after) :
    t = before ++ (keyword ++ (blanks ++ (inner ++ [';'])) ++ after) := by
  rw [h.text]
  simp

/-- Where the pattern fits up to the first semicolon, there is a statement with as many blanks or
more. -/
theorem Fits.exists_append (h : Fits t before blanks inner after) (hinner : ';' ∉ inner) :
    ∃ more rest, IsStatement t before (blanks ++ more) rest after := by
  -- The blanks at the front of the stretch belong to the statement's blanks.
  have hsplit := List.takeWhile_append_dropWhile (p := Text.isBlank) (l := inner)
  have hhead := List.head?_dropWhile_not Text.isBlank inner
  refine ⟨inner.takeWhile Text.isBlank, inner.dropWhile Text.isBlank, by simp [h.nonempty],
    fun c hc => ?_, ?_, fun c hc => ?_, ?_⟩
  · rcases List.mem_append.1 hc with hc | hc
    · exact h.blank c hc
    · exact List.mem_takeWhile_imp hc
  · cases hrest : (inner.dropWhile Text.isBlank).head? with
    | none => rfl
    | some c =>
      rw [hrest] at hhead
      simpa using hhead
  · have hmem := List.dropWhile_subset _ hc
    constructor
    · rintro rfl
      exact hinner hmem
    · rintro rfl
      exact h.line hmem
  · rw [h.text, List.append_assoc, ← List.append_assoc (inner.takeWhile _), hsplit]

/-- **Where the pattern fits there is a statement**, with as many blanks or more. -/
theorem Fits.exists_isStatement (h : Fits t before blanks inner after) :
    ∃ w i a, IsStatement t before w i a ∧ blanks.length ≤ w.length := by
  -- A shorter stretch will do, up to the first semicolon.
  obtain ⟨i, a, hfits, hi⟩ : ∃ i a, Fits t before blanks i a ∧ ';' ∉ i := by
    by_cases hmem : ';' ∈ inner
    · obtain ⟨x, y, rfl, hx⟩ := List.eq_append_cons_of_mem hmem
      refine ⟨x, y ++ ';' :: after, ⟨h.nonempty, h.blank, fun hline => h.line ?_, ?_⟩, hx⟩
      · exact List.mem_append_left _ hline
      · rw [h.text, List.append_assoc x, List.cons_append]
    · exact ⟨inner, after, h, hmem⟩
  obtain ⟨more, rest, hstatement⟩ := hfits.exists_append hi
  exact ⟨blanks ++ more, rest, a, hstatement, by simp⟩

/-- The blanks of a statement are all that there are. -/
theorem IsStatement.takeWhile_isBlank (h : IsStatement t before blanks inner after) :
    (blanks ++ (inner ++ ';' :: after)).takeWhile Text.isBlank = blanks := by
  have hnext : (inner ++ ';' :: after).takeWhile Text.isBlank = [] := by
    cases hinner : inner with
    | nil => exact List.takeWhile_cons_of_neg (by decide)
    | cons c rest =>
      have hc := h.maximal
      rw [hinner, List.head?_cons, Option.any_some] at hc
      exact List.takeWhile_cons_of_neg (by simp [hc])
  rw [List.takeWhile_append_of_pos h.blank, hnext, List.append_nil]

/-- What a statement holds is no longer than any stretch with which the pattern fits behind the same
blanks. -/
theorem IsStatement.length_le (h : IsStatement t before blanks inner after)
    (hfits : Fits t before blanks inner' after') : inner.length ≤ inner'.length := by
  have hrest := List.append_cancel_left (List.append_cancel_left (List.append_cancel_left
    (h.text.symm.trans hfits.text)))
  obtain ⟨w, rfl, -⟩ := Text.exists_of_append_cons (p := fun c => c ≠ ';')
    (fun c hc => (h.isInner c hc).1) (fun hne => hne rfl) hrest
  simp

/-- **At most one statement begins at a place.** -/
theorem IsStatement.eq (h : IsStatement t before blanks inner after)
    (h' : IsStatement t before blanks' inner' after') :
    blanks = blanks' ∧ inner = inner' ∧ after = after' := by
  have hrest := List.append_cancel_left (List.append_cancel_left (h.text.symm.trans h'.text))
  -- Both have all the blanks, and then neither stretch is the shorter one.
  obtain rfl : blanks = blanks' := by
    rw [← h.takeWhile_isBlank, hrest, h'.takeWhile_isBlank]
  have hle := h.length_le h'.fits
  have hle' := h'.length_le h.fits
  obtain ⟨rfl, hafter⟩ := List.append_inj (List.append_cancel_left hrest) (by omega)
  exact ⟨rfl, rfl, (List.cons.inj hafter).2⟩

/-- **The first statement is the preferred fit** of the pattern. -/
theorem isFirst_iff_isPreferred :
    IsFirst t before blanks inner after ↔ IsPreferred t before blanks inner after := by
  constructor
  · intro h
    refine ⟨h.isStatement.fits, fun b w i a hfits => ?_, fun w i a hfits => ?_,
      fun i a hfits => h.isStatement.length_le hfits⟩
    · -- Whatever fits, a statement begins at the same place.
      obtain ⟨w', i', a', hother, -⟩ := hfits.exists_isStatement
      exact h.first b w' i' a' hother
    · obtain ⟨w', i', a', hother, hle⟩ := hfits.exists_isStatement
      obtain ⟨rfl, -⟩ := h.isStatement.eq hother
      exact hle
  · intro h
    obtain ⟨w, i, a, hstatement, hle⟩ := h.fits.exists_isStatement
    have hrest := List.append_cancel_left (List.append_cancel_left
      (h.fits.text.symm.trans hstatement.text))
    -- The statement has as many blanks as the preferred fit, and then as long a stretch.
    have hmost := h.most _ _ _ hstatement.fits
    obtain ⟨rfl, hstretch⟩ := List.append_inj hrest (by omega)
    have hleast := h.least _ _ hstatement.fits
    have hle := hstatement.length_le h.fits
    obtain ⟨rfl, hafter⟩ := List.append_inj hstretch (by omega)
    obtain rfl := (List.cons.inj hafter).2
    exact ⟨hstatement, fun b w i a hother => h.first b w i a hother.fits⟩

/-! ## The first statement -/

/-- What begins at a place of a text is the statement there. -/
theorem begins_iff_isStatement (before : Text) :
    Begins t after ↔ ∃ blanks inner, IsStatement (before ++ t) before blanks inner after := by
  constructor
  · rintro ⟨c, blanks, inner, hblank, hinner, rfl⟩
    have hfits : Fits (before ++ (keyword ++ (c :: blanks ++ (inner ++ ';' :: after)))) before
        (c :: blanks) inner after :=
      ⟨by simp, hblank, fun hmem => (hinner _ hmem).2 rfl, rfl⟩
    obtain ⟨more, rest, hstatement⟩ := hfits.exists_append fun hmem => (hinner _ hmem).1 rfl
    exact ⟨_, rest, hstatement⟩
  · rintro ⟨blanks, inner, h⟩
    obtain ⟨c, blanks, rfl⟩ := List.exists_cons_of_ne_nil h.nonempty
    exact ⟨c, blanks, inner, h.blank, h.isInner, List.append_cancel_left h.text⟩

/-- **The search finds the first statement.** -/
theorem search_behind?_eq_some_iff_isFirst :
    Text.search (fun _ rest => behind? rest) t = some (before, after) ↔
      ∃ blanks inner, IsFirst t before blanks inner after := by
  rw [search_behind?_eq_some_iff]
  constructor
  · rintro ⟨rest, rfl, hbegins, hfirst⟩
    obtain ⟨blanks, inner, hstatement⟩ := (begins_iff_isStatement before).1 hbegins
    refine ⟨blanks, inner, hstatement, fun b w i a hother => ?_⟩
    have hother' := hother
    rw [hother.text] at hother'
    exact hfirst b _ a hother.text ((begins_iff_isStatement b).2 ⟨w, i, hother'⟩)
  · rintro ⟨blanks, inner, hstatement, hfirst⟩
    have hbegins := hstatement
    rw [hstatement.text] at hbegins
    refine ⟨_, hstatement.text, (begins_iff_isStatement before).2 ⟨blanks, inner, hbegins⟩,
      fun b r a hb hr => ?_⟩
    obtain ⟨w, i, hother⟩ := (begins_iff_isStatement b).1 hr
    rw [← hb] at hother
    exact hfirst b w i a hother

/-- The search finds nothing exactly if there is no statement. -/
theorem search_behind?_eq_none_iff_isStatement :
    Text.search (fun _ rest => behind? rest) t = none ↔ ∀ b w i a, ¬ IsStatement t b w i a := by
  rw [search_behind?_eq_none_iff]
  constructor
  · intro hnone b w i a h
    have h' := h
    rw [h.text] at h'
    exact hnone b _ a h.text ((begins_iff_isStatement b).2 ⟨w, i, h'⟩)
  · rintro hnone b r a rfl hr
    obtain ⟨w, i, h⟩ := (begins_iff_isStatement b).1 hr
    exact hnone b w i a h

/-! ## Replacing -/

/-- The text of a statement with what follows it. -/
theorem render_append (package after : Text) :
    render package ++ after = "package ".toList ++ (package ++ ';' :: after) := by
  have hkeyword : "package ".toList = keyword ++ [' '] := rfl
  rw [hkeyword, render]
  simp only [List.append_assoc, List.cons_append, List.nil_append]

/-- **Replacing is a splice at the first statement**, and the first statement is the fit of the
pattern that the search prefers. Without a statement nothing is matched and the text stays. With
one, everything from its keyword up to its semicolon is exchanged for the keyword, a space, the
package as it is written, and a semicolon, and every other character stays. -/
theorem replace_splices (package t : Text) :
    (∀ before blanks inner after,
      IsFirst t before blanks inner after ↔ IsPreferred t before blanks inner after) ∧
    ((∀ b w i a, ¬ IsStatement t b w i a) →
      replace? package t = none ∧ replace package t = t) ∧
    ((∃ b w i a, IsStatement t b w i a) →
      ∃ before blanks inner after, IsFirst t before blanks inner after ∧
        replace? package t = some (before ++ ("package ".toList ++ (package ++ ';' :: after))) ∧
        replace package t = before ++ ("package ".toList ++ (package ++ ';' :: after))) := by
  refine ⟨fun before blanks inner after => isFirst_iff_isPreferred, fun hnone => ?_, ?_⟩
  · have hsearch := search_behind?_eq_none_iff_isStatement.2 hnone
    exact ⟨replace?_of_search_eq_none hsearch, replace_of_search_eq_none hsearch⟩
  · rintro ⟨b, w, i, a, hstatement⟩
    cases hsearch : Text.search (fun _ rest => behind? rest) t with
    | none => exact absurd hstatement (search_behind?_eq_none_iff_isStatement.1 hsearch b w i a)
    | some found =>
      obtain ⟨before, after⟩ := found
      obtain ⟨blanks, inner, hfirst⟩ := search_behind?_eq_some_iff_isFirst.1 hsearch
      refine ⟨before, blanks, inner, after, hfirst, ?_⟩
      rw [replace?_of_search_eq_some hsearch, replace_of_search_eq_some hsearch, render_append]
      exact ⟨rfl, rfl⟩

/-- A place where the statement fails on the line feed, with the first statement inside of what it
has read, and a package that is no pattern. Where the line ends in front of every semicolon there is
no statement. -/
theorem replace_splices_insideFailure :
    (∀ b w i a, ¬ IsStatement "package a\n;".toList b w i a) ∧
      replace "$1".toList "package a\n;".toList = "package a\n;".toList ∧
      IsStatement "package package\n a b;c;".toList "package ".toList "\n ".toList "a b".toList
        "c;".toList ∧
      ∃ before blanks inner after,
        IsFirst "package package\n a b;c;".toList before blanks inner after ∧
          before ++ ("package ".toList ++ ("$1".toList ++ ';' :: after)) =
            "package package $1;c;".toList := by
  have hnone : ∀ b w i a, ¬ IsStatement "package a\n;".toList b w i a :=
    search_behind?_eq_none_iff_isStatement.1 (by decide +kernel)
  have hstatement : IsStatement "package package\n a b;c;".toList "package ".toList "\n ".toList
      "a b".toList "c;".toList :=
    ⟨by decide, by simp, by decide, by simp [IsInner], by decide⟩
  obtain ⟨-, hstays⟩ := (replace_splices "$1".toList _).2.1 hnone
  obtain ⟨before, blanks, inner, after, hfirst, hreplace, -⟩ :=
    (replace_splices "$1".toList _).2.2 ⟨_, _, _, _, hstatement⟩
  refine ⟨hnone, hstays, hstatement, before, blanks, inner, after, hfirst, ?_⟩
  have hrun : replace? "$1".toList "package package\n a b;c;".toList =
      some "package package $1;c;".toList := by decide +kernel
  rw [hreplace] at hrun
  exact Option.some.inj hrun

end PackageStatement

end SourceRecovery
