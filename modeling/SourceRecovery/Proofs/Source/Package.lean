import Mathlib.Data.List.TakeWhile
import SourceRecovery.Proofs.Text.Splitting
import SourceRecovery.Source.Package

/-! # What a package statement is

A **package statement** (`PackageStatement.Begins`) is the keyword, blanks, and a stretch without
semicolon and line feed, up to a semicolon.

* **`behind?_eq_some_iff`** — what is found at a place is a statement that stands there.
* **`search_behind?_eq_some_iff`**, **`search_behind?_eq_none_iff`** — the search finds the first
  statement, if there is one.
* **`Begins.exchange`** — where a stretch is exchanged that a statement may hold, the statements
  that begin in front of it stay.
* **`search_behind?_exchange_rest`**, **`search_behind?_exchange_line`** — so the first statement
  stays the first one whatever follows it, and so does another one that is put in its place.
* **`search_behind?_exchange_word`** — no name brings in a statement. -/

namespace SourceRecovery

namespace PackageStatement

variable {package t before after u v x y : Text} {c : Char}

/-- Whether a character may stand between the blanks of a statement and its semicolon. -/
def IsInner (c : Char) : Prop := c ≠ ';' ∧ c ≠ '\n'

instance (c : Char) : Decidable (IsInner c) := inferInstanceAs (Decidable (_ ∧ _))

/-- A text begins with a **package statement**, behind which `after` follows. -/
def Begins (t after : Text) : Prop :=
  ∃ c blanks inner, (∀ d ∈ c :: blanks, Text.isBlank d = true) ∧ (∀ d ∈ inner, IsInner d) ∧
    t = keyword ++ (c :: blanks ++ (inner ++ ';' :: after))

/-- The keyword is a word. -/
theorem isWord_keyword : Text.IsWord keyword := by decide +kernel

/-- A word character neither ends a statement nor breaks the line. -/
theorem isInner_of_isWordCharacter (h : Text.isWordCharacter c = true) : IsInner c := by
  constructor
  · rintro rfl
    revert h
    decide +kernel
  · rintro rfl
    revert h
    decide +kernel

/-- The keyword neither ends a statement nor breaks the line. -/
theorem isInner_of_mem_keyword (h : c ∈ keyword) : IsInner c :=
  isInner_of_isWordCharacter (isWord_keyword.2 c h)

/-! ## A statement at a place -/

/-- Dropping stops at the latest in front of an element that is kept. -/
theorem dropWhile_append_cons {α : Type} {p : α → Bool} {x y : List α} {d : α} (hd : p d = false) :
    (x ++ d :: y).dropWhile p = x.dropWhile p ++ d :: y := by
  induction x with
  | nil => simp [hd]
  | cons a x ih =>
    rw [List.cons_append, List.dropWhile_cons, List.dropWhile_cons]
    split_ifs
    · exact ih
    · rfl

/-- **A statement at a place** of a text is what the reader finds there. -/
theorem behind?_eq_some_iff : behind? t = some after ↔ Begins t after := by
  unfold behind?
  constructor
  · intro h
    split at h
    · next c r hp =>
      obtain rfl := Text.isPrefixOf?_eq_some_iff.1 hp
      split_ifs at h with hc
      split at h
      · next rest hrest =>
        obtain rfl := Option.some.inj h
        refine ⟨c, r.takeWhile Text.isBlank, (r.dropWhile Text.isBlank).takeWhile
          (fun d => d ≠ ';' ∧ d ≠ '\n'), ?_, ?_, ?_⟩
        · intro d hd
          rcases List.mem_cons.1 hd with rfl | hd
          · exact hc
          · exact List.mem_takeWhile_imp hd
        · intro d hd
          have hpass := List.mem_takeWhile_imp hd
          exact of_decide_eq_true hpass
        · rw [← hrest, List.takeWhile_append_dropWhile, List.cons_append,
            List.takeWhile_append_dropWhile]
      · cases h
    · cases h
  · rintro ⟨c, blanks, inner, hblank, hinner, rfl⟩
    have hp : keyword.isPrefixOf? (keyword ++ (c :: blanks ++ (inner ++ ';' :: after))) =
        some (c :: (blanks ++ (inner ++ ';' :: after))) := Text.isPrefixOf?_eq_some_iff.2 rfl
    -- Blanks at the front of the inner part are skipped with the others.
    have hfront : (blanks ++ (inner ++ ';' :: after)).dropWhile Text.isBlank =
        inner.dropWhile Text.isBlank ++ ';' :: after := by
      rw [List.dropWhile_append_of_pos fun d hd => hblank d (by simp [hd])]
      exact dropWhile_append_cons (by decide)
    have hrest : (inner.dropWhile Text.isBlank).dropWhile (fun d => d ≠ ';' ∧ d ≠ '\n') = [] := by
      rw [List.dropWhile_eq_nil_iff]
      intro d hd
      exact decide_eq_true (hinner d (List.dropWhile_subset _ hd))
    simp only [hp, hblank c (by simp), if_true, hfront]
    rw [dropWhile_append_cons (by decide), hrest]
    rfl

/-- **The search finds the first statement.** -/
theorem search_behind?_eq_some_iff :
    Text.search (fun _ rest => behind? rest) t = some (before, after) ↔
      ∃ rest, t = before ++ rest ∧ Begins rest after ∧
        ∀ b r a, t = b ++ r → Begins r a → before.length ≤ b.length := by
  rw [Text.search_eq_some_iff]
  constructor
  · rintro ⟨rest, ht, hrest, hfirst⟩
    refine ⟨rest, ht, behind?_eq_some_iff.1 hrest, fun b r a hb hr => ?_⟩
    by_contra hlt
    have hr' := behind?_eq_some_iff.2 hr
    rw [hfirst b r hb (by omega)] at hr'
    cases hr'
  · rintro ⟨rest, ht, hrest, hfirst⟩
    refine ⟨rest, ht, behind?_eq_some_iff.2 hrest, fun b r hb hlt => ?_⟩
    rw [Option.eq_none_iff_forall_ne_some]
    intro a ha
    have hle := hfirst b r a hb (behind?_eq_some_iff.1 ha)
    omega

/-- The search finds nothing exactly if no statement begins anywhere. -/
theorem search_behind?_eq_none_iff :
    Text.search (fun _ rest => behind? rest) t = none ↔ ∀ b r a, t = b ++ r → ¬ Begins r a := by
  rw [Text.search_eq_none_iff]
  constructor
  · intro hnone b r a hb hr
    have hr' := behind?_eq_some_iff.2 hr
    rw [hnone b r hb] at hr'
    cases hr'
  · intro hnone b r hb
    rw [Option.eq_none_iff_forall_ne_some]
    exact fun a ha => hnone b r a hb (behind?_eq_some_iff.1 ha)

/-- The statement that the search finds is replaced, and the text around it kept. -/
theorem replace?_of_search_eq_some
    (h : Text.search (fun _ rest => behind? rest) t = some (before, after)) :
    replace? package t = some (before ++ (render package ++ after)) := by
  rw [replace?, h]
  rfl

/-- Nothing is replaced where the search finds no statement. -/
theorem replace?_of_search_eq_none (h : Text.search (fun _ rest => behind? rest) t = none) :
    replace? package t = none := by
  rw [replace?, h]
  rfl

/-- Replacing exchanges the first statement. -/
theorem replace_of_search_eq_some
    (h : Text.search (fun _ rest => behind? rest) t = some (before, after)) :
    replace package t = before ++ (render package ++ after) := by
  rw [replace, replace?_of_search_eq_some h]
  rfl

/-- Without a statement there is nothing to replace. -/
theorem replace_of_search_eq_none (h : Text.search (fun _ rest => behind? rest) t = none) :
    replace package t = t := by
  rw [replace, replace?_of_search_eq_none h]
  rfl

/-! ## Statements around an exchange -/

/-- What follows a statement does not matter to it. -/
theorem Begins.append (h : Begins x after) (y : Text) : Begins (x ++ y) (after ++ y) := by
  obtain ⟨c, blanks, inner, hblank, hinner, rfl⟩ := h
  exact ⟨c, blanks, inner, hblank, hinner, by simp⟩

/-- No semicolon is in front of the end of a statement. -/
theorem ne_semicolon {blanks inner : Text} (hblank : ∀ d ∈ blanks, Text.isBlank d = true)
    (hinner : ∀ d ∈ inner, d ≠ ';') (hc : c ∈ keyword ++ (blanks ++ inner)) : c ≠ ';' := by
  rcases List.mem_append.1 hc with hc | hc
  · exact (isInner_of_mem_keyword hc).1
  rcases List.mem_append.1 hc with hc | hc
  · rintro rfl
    have hcontra := hblank ';' hc
    revert hcontra
    decide
  · exact hinner c hc

/-- A statement at the front of a text ends at the first semicolon. -/
theorem Begins.of_append (h : Begins (x ++ y) after) (hx : ';' ∈ x) : ∃ a, Begins x a := by
  obtain ⟨c, blanks, inner, hblank, hinner, heq⟩ := h
  have hbefore : ∀ d ∈ keyword ++ (c :: blanks ++ inner), d ≠ ';' :=
    fun d => ne_semicolon hblank fun d hd => (hinner d hd).1
  obtain ⟨x₁, x₂, rfl⟩ := List.append_of_mem hx
  have hsplit : (keyword ++ (c :: blanks ++ inner)) ++ ';' :: after = x₁ ++ ';' :: (x₂ ++ y) := by
    simpa using heq.symm
  obtain ⟨w, rfl, hw⟩ := Text.exists_of_append_cons hbefore (fun hne => hne rfl) hsplit
  cases w with
  | nil => exact ⟨x₂, c, blanks, inner, hblank, hinner, by simp⟩
  | cons d w =>
    obtain ⟨rfl, -⟩ := List.cons.inj hw
    exact ⟨w ++ ';' :: x₂, c, blanks, inner, hblank, hinner, by simp⟩

/-- **A statement that begins in front of a stretch** stays when the stretch is exchanged, if both
stretches may stand inside a statement and the old one does not begin with a blank. -/
theorem Begins.exchange {e : Char} (h : Begins (keyword ++ u ++ (e :: y ++ v)) after)
    (he : Text.isBlank e = false) (hy : ∀ d ∈ e :: y, IsInner d) (hx : ∀ d ∈ x, IsInner d) :
    ∃ a, Begins (keyword ++ u ++ (x ++ v)) a := by
  obtain ⟨c, blanks, inner, hblank, hinner, heq⟩ := h
  have he' : ¬ Text.isBlank e = true := by simp [he]
  have hcons : c :: blanks ++ (inner ++ ';' :: after) = u ++ e :: (y ++ v) := by
    rw [List.append_assoc] at heq
    exact (List.append_cancel_left heq).symm
  obtain ⟨w, rfl, hw⟩ := Text.exists_of_append_cons hblank he' hcons
  rcases List.append_eq_append_iff.1 hw with ⟨z, rfl, hz⟩ | ⟨z, rfl, hz⟩
  · cases z with
    | nil =>
      obtain ⟨rfl, -⟩ := List.cons.inj hz
      exact absurd rfl (hy ';' (by simp)).1
    | cons d z =>
      -- The statement ends in front of the stretch.
      obtain ⟨rfl, -⟩ := List.cons.inj hz
      exact ⟨z ++ (x ++ v), c, blanks, inner, hblank, hinner, by simp⟩
  · have hne : ∀ d ∈ e :: y, d ≠ ';' := fun d hd => (hy d hd).1
    have hsplit : (e :: y) ++ v = z ++ ';' :: after := hz
    obtain ⟨z', rfl, rfl⟩ := Text.exists_of_append_cons hne (fun hne => hne rfl) hsplit
    refine ⟨after, c, blanks, w ++ (x ++ z'), hblank, fun d hd => ?_, by simp⟩
    rcases List.mem_append.1 hd with hd | hd
    · exact hinner d (by simp [hd])
    · rcases List.mem_append.1 hd with hd | hd
      · exact hx d hd
      · exact hinner d (by simp [hd])

/-- The keyword does not overlap with itself. -/
theorem exists_append_of_keyword (hu : u ≠ []) (h : u ++ (keyword ++ v) = keyword ++ t) :
    ∃ u', u = keyword ++ u' := by
  rcases List.append_eq_append_iff.1 h with ⟨w, hw, hv⟩ | ⟨w, hw, -⟩
  · cases w with
    | nil => exact ⟨[], by rw [hw]; simp⟩
    | cons d w =>
      exfalso
      obtain ⟨a, u, rfl⟩ := List.exists_cons_of_ne_nil hu
      have hp : d = 'p' := (List.cons.inj hv).1.symm
      have htail : "ackage".toList = u ++ d :: w := (List.cons.inj hw).2
      have hmem : d ∈ "ackage".toList := by rw [htail]; simp
      rw [hp] at hmem
      revert hmem
      decide
  · exact ⟨w, hw⟩

/-- A statement stands where one has been written. -/
theorem begins_render (hx : ∀ d ∈ x, IsInner d) (v : Text) : Begins (render x ++ v) v :=
  ⟨' ', [], x, by simp, hx, by simp [render]⟩

/-- The statement of a package is on one line. -/
theorem newline_notMem_render (hx : ∀ d ∈ x, IsInner d) : '\n' ∉ render x := by
  intro hmem
  rcases List.mem_append.1 hmem with hmem | hmem
  · exact (isInner_of_mem_keyword hmem).2 rfl
  · have hmem : '\n' ∈ x := by simpa using hmem
    exact (hx _ hmem).2 rfl

/-- What a statement consists of. -/
theorem Begins.exists_eq (h : Begins (x ++ v) v) :
    ∃ c blanks inner, (∀ d ∈ c :: blanks, Text.isBlank d = true) ∧ (∀ d ∈ inner, IsInner d) ∧
      x = keyword ++ (c :: blanks ++ inner) ++ [';'] := by
  obtain ⟨c, blanks, inner, hblank, hinner, heq⟩ := h
  have htext : x ++ v = keyword ++ (c :: blanks ++ inner) ++ [';'] ++ v := by
    rw [heq]
    simp
  exact ⟨c, blanks, inner, hblank, hinner, List.append_cancel_right htext⟩

/-- A statement without a line end is a stretch that may stand inside a statement, and a
semicolon. -/
theorem Begins.exists_stretch (h : Begins (x ++ v) v) (hx : '\n' ∉ x) :
    ∃ e y, x = (e :: y) ++ [';'] ∧ Text.isBlank e = false ∧ ∀ d ∈ e :: y, IsInner d := by
  obtain ⟨c, blanks, inner, hblank, hinner, rfl⟩ := h.exists_eq
  refine ⟨'p', "ackage".toList ++ (c :: blanks ++ inner), rfl, by decide, fun d hd => ?_⟩
  refine ⟨ne_semicolon hblank (fun d hd => (hinner d hd).1) hd, fun hline => hx ?_⟩
  rw [← hline]
  exact List.mem_append_left _ hd

/-- **Another statement in the place of the first one** is the first one, if what begins in front of
it and ends in it would have ended in the old one. What follows does not matter. -/
theorem search_behind?_exchange_of_keep {z : Text} (hy : ';' ∈ y) (hyz : Begins (y ++ z) z)
    (hkeep : ∀ w a, w ≠ [] → Begins (w ++ y) a → ∃ a, Begins (w ++ x) a)
    (h : Text.search (fun _ rest => behind? rest) (u ++ (x ++ v)) = some (u, v)) :
    Text.search (fun _ rest => behind? rest) (u ++ (y ++ z)) = some (u, z) := by
  obtain ⟨-, -, -, hfirst⟩ := search_behind?_eq_some_iff.1 h
  refine search_behind?_eq_some_iff.2 ⟨y ++ z, rfl, hyz, fun b r a hb hr => ?_⟩
  by_contra hlt
  -- A statement in front of the first one would have been there before.
  obtain ⟨w, rfl, rfl⟩ : ∃ w, u = b ++ w ∧ r = w ++ (y ++ z) := by
    rcases List.append_eq_append_iff.1 hb with ⟨w, rfl, -⟩ | ⟨w, hu, hr⟩
    · exact absurd (by simp) hlt
    · exact ⟨w, hu, hr⟩
  have hwne : w ≠ [] := by
    rintro rfl
    simp at hlt
  rw [← List.append_assoc] at hr
  obtain ⟨a', hr'⟩ := hr.of_append (by simp [hy])
  obtain ⟨a'', hold⟩ := hkeep w a' hwne hr'
  have hle := hfirst b (w ++ x ++ v) _ (by simp) (hold.append v)
  omega

/-- **The first statement stays the first one**, whatever follows it. -/
theorem search_behind?_exchange_rest {z : Text}
    (h : Text.search (fun _ rest => behind? rest) (u ++ (x ++ v)) = some (u, v)) :
    Text.search (fun _ rest => behind? rest) (u ++ (x ++ z)) = some (u, z) := by
  obtain ⟨rest, hrest, hbegins, -⟩ := search_behind?_eq_some_iff.1 h
  obtain rfl := List.append_cancel_left hrest
  obtain ⟨c, blanks, inner, hblank, hinner, hx⟩ := hbegins.exists_eq
  refine search_behind?_exchange_of_keep (by simp [hx]) ?_ (fun w a _ hold => ⟨a, hold⟩) h
  exact ⟨c, blanks, inner, hblank, hinner, by simp [hx]⟩

/-- **The first statement stays the first one** when another one is put in the place of it, if it
has no line end. -/
theorem search_behind?_exchange_line {z : Text} (hx : '\n' ∉ x) (hy : ∀ d ∈ y, IsInner d)
    (h : Text.search (fun _ rest => behind? rest) (u ++ (x ++ v)) = some (u, v)) :
    Text.search (fun _ rest => behind? rest) (u ++ (render y ++ z)) = some (u, z) := by
  obtain ⟨rest, hrest, hbegins, -⟩ := search_behind?_eq_some_iff.1 h
  obtain rfl := List.append_cancel_left hrest
  obtain ⟨e, stretch, rfl, -, hinner⟩ := hbegins.exists_stretch hx
  obtain ⟨e', stretch', hrender, hblank', hinner'⟩ :=
    (begins_render hy z).exists_stretch (newline_notMem_render hy)
  refine search_behind?_exchange_of_keep (by simp [render]) (begins_render hy z)
    (fun w a hw hnew => ?_) h
  -- The keyword of a statement in front lies in front of the new one.
  obtain ⟨c, blanks, inner, -, -, heq⟩ := id hnew
  have hsplit : w ++ (keyword ++ (' ' :: y ++ [';'])) =
      keyword ++ (c :: blanks ++ (inner ++ ';' :: a)) := heq
  obtain ⟨w', rfl⟩ := exists_append_of_keyword hw hsplit
  rw [hrender] at hnew
  exact hnew.exchange hblank' hinner' hinner

/-- **The first statement stays the first one** when the package in it is exchanged, and what
follows it. -/
theorem search_behind?_exchange (hx : ∀ d ∈ x, IsInner d) (hy : ∀ d ∈ y, IsInner d)
    {z : Text} (h : Text.search (fun _ rest => behind? rest) (u ++ (render x ++ v)) = some (u, v)) :
    Text.search (fun _ rest => behind? rest) (u ++ (render y ++ z)) = some (u, z) :=
  search_behind?_exchange_line (newline_notMem_render hx) hy h

/-- **No statement is brought in** when a word behind a blank is exchanged for another word, unless
the new word ends in the keyword. -/
theorem search_behind?_exchange_word (hc : Text.isBlank c = true) (hx : Text.IsWord x)
    (hy : Text.IsWord y) (hend : ¬ keyword <:+ y) (hv : v.head?.any Text.isWordCharacter = false)
    (h : Text.search (fun _ rest => behind? rest) (u ++ [c] ++ (x ++ v)) = none) :
    Text.search (fun _ rest => behind? rest) (u ++ [c] ++ (y ++ v)) = none := by
  rw [search_behind?_eq_none_iff] at h ⊢
  have hinner : ∀ z : Text, Text.IsWord z → ∀ d ∈ z, IsInner d := fun z hz d hd =>
    isInner_of_isWordCharacter (hz.2 d hd)
  have hyblank := hy.isBlank_eq_false
  have hkblank := isWord_keyword.isBlank_eq_false
  have hc' : ¬ Text.isBlank c = false := by simp [hc]
  intro b r a hb hr
  obtain ⟨d, blanks, inner, hblank, -, hrest⟩ := id hr
  have hd' : ¬ Text.isBlank d = false := by simp [hblank d (by simp)]
  have hsplit : (b ++ keyword) ++ (d :: blanks ++ (inner ++ ';' :: a)) =
      (u ++ [c]) ++ (y ++ v) := by
    rw [List.append_assoc, ← hrest, ← hb]
  rcases List.append_eq_append_iff.1 hsplit with ⟨w, huc, hw⟩ | ⟨w, hbk, hw⟩
  · -- The keyword stands in front of the word.
    obtain ⟨e, y', rfl⟩ := List.exists_cons_of_ne_nil hy.1
    have hr' : Begins (keyword ++ w ++ (e :: y' ++ v)) a := by
      rw [List.append_assoc, ← hw, ← hrest]
      exact hr
    obtain ⟨a', hold⟩ := hr'.exchange (hyblank e (by simp)) (hinner _ hy) (hinner _ hx)
    exact h b _ a' (by rw [huc]; simp) hold
  · -- The keyword ends in the word or behind it, and a blank follows.
    obtain ⟨w', rfl, rfl⟩ := Text.exists_of_append_cons hyblank hd' hw
    have hbk' : b ++ keyword = (u ++ [c] ++ y) ++ w' := by rw [hbk]; simp
    rcases List.append_eq_append_iff.1 hbk' with ⟨z, huy, hkz⟩ | ⟨z, rfl, rfl⟩
    · rcases eq_or_ne w' [] with rfl | hne
      · rw [List.append_nil] at hkz
        have hcons : b ++ z = u ++ c :: y := by rw [← huy]; simp
        rw [← hkz] at hcons
        obtain ⟨y₀, rfl, -⟩ := Text.exists_of_append_append hkblank hc' hcons
        exact hend ⟨y₀, rfl⟩
      · obtain ⟨e, w', rfl⟩ := List.exists_cons_of_ne_nil hne
        have hword : Text.isWordCharacter e = true := isWord_keyword.2 e (by rw [hkz]; simp)
        rw [List.cons_append, List.head?_cons, Option.any_some, hword] at hv
        cases hv
    · refine h (u ++ [c] ++ x ++ z) r a ?_ hr
      rw [hrest]
      simp

end PackageStatement

end SourceRecovery
