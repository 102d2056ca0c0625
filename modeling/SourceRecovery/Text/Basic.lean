/-! # Texts and literal search

A **text** is a list of characters: class names, source files, mapping files and paths are all
texts, and every statement about them is a statement about lists. This file holds the two
searches everything else is built on:

* **`Text.search m t`** — the first place of `t` at which the matcher `m` succeeds, with the text
  before it and what `m` returned. The matcher also sees the character in front of the place.
* **`Text.cut? sep t`** — `t` around the first occurrence of the literal `sep`, and with it
  `Text.replaceAll`, which exchanges every occurrence of a literal. -/

namespace SourceRecovery

/-- A **text**: a list of Unicode characters. -/
abbrev Text := List Char

namespace Text

/-- The number of bytes of a text in UTF-8. -/
def utf8Length (t : Text) : Nat := t.foldl (fun n c => n + c.utf8Size) 0

@[simp] theorem utf8Length_nil : utf8Length [] = 0 := rfl

/-- The sizes of the characters may be added up from the front. -/
theorem foldl_utf8Size (t : Text) (n : Nat) :
    t.foldl (fun n c => n + c.utf8Size) n = n + utf8Length t := by
  rw [utf8Length]
  induction t generalizing n with
  | nil => rfl
  | cons c t ih =>
    rw [List.foldl_cons, List.foldl_cons, ih, ih (0 + _), Nat.zero_add, Nat.add_assoc]

@[simp] theorem utf8Length_cons (c : Char) (t : Text) :
    utf8Length (c :: t) = c.utf8Size + utf8Length t := by
  rw [utf8Length, List.foldl_cons, foldl_utf8Size, Nat.zero_add]

@[simp] theorem utf8Length_append (s t : Text) :
    utf8Length (s ++ t) = utf8Length s + utf8Length t := by
  rw [utf8Length, List.foldl_append, foldl_utf8Size, ← utf8Length]

/-- The decimal digits of a number. -/
def ofNat (n : Nat) : Text := Nat.toDigits 10 n

/-! ## Searching with a matcher -/

/-- Searches on from a place of a text whose earlier part is `seen`, read backwards. -/
def searchFrom {α : Type} (m : Option Char → Text → Option α) (seen : Text) :
    Text → Option (Text × α)
  | [] => (m seen.head? []).map (seen.reverse, ·)
  | c :: t =>
    match m seen.head? (c :: t) with
    | some a => some (seen.reverse, a)
    | none => searchFrom m (c :: seen) t

/-- **First match.** Tries the matcher at every place of the text, from the left, and returns the
text in front of the first success with its result. The matcher is given the character in front
of the place, if any, and the text from the place on. -/
def search {α : Type} (m : Option Char → Text → Option α) (t : Text) : Option (Text × α) :=
  searchFrom m [] t

/-- The law of `search_eq_some_iff` for a search that goes on from a place. -/
theorem searchFrom_eq_some_iff {α : Type} {m : Option Char → Text → Option α}
    {seen t before : Text} {a : α} :
    searchFrom m seen t = some (before, a) ↔
      ∃ skipped rest, t = skipped ++ rest ∧ before = seen.reverse ++ skipped ∧
        m before.getLast? rest = some a ∧
        ∀ s r, t = s ++ r → s.length < skipped.length →
          m (seen.reverse ++ s).getLast? r = none := by
  induction t generalizing seen with
  | nil =>
    simp only [searchFrom, Option.map_eq_some_iff, Prod.mk.injEq]
    constructor
    · rintro ⟨b, hb, rfl, rfl⟩
      exact ⟨[], [], rfl, by simp, by simpa using hb, by simp⟩
    · rintro ⟨skipped, rest, ht, rfl, hm, -⟩
      obtain ⟨rfl, rfl⟩ := List.append_eq_nil_iff.1 ht.symm
      exact ⟨a, by simpa using hm, by simp, rfl⟩
  | cons c t ih =>
    rw [searchFrom]
    cases h : m seen.head? (c :: t) with
    | some b =>
      simp only [Option.some.injEq, Prod.mk.injEq]
      constructor
      · rintro ⟨rfl, rfl⟩
        exact ⟨[], c :: t, rfl, by simp, by simpa using h, by simp⟩
      · rintro ⟨skipped, rest, ht, rfl, hm, first⟩
        cases skipped with
        | nil =>
          rw [List.nil_append] at ht
          simpa [← ht, h] using hm
        | cons d skipped =>
          -- The place passed over is one where the matcher succeeds.
          have := first [] (c :: t) rfl (by simp)
          simp [h] at this
    | none =>
      simp only [ih]
      constructor
      · rintro ⟨skipped, rest, ht, rfl, hm, first⟩
        refine ⟨c :: skipped, rest, by rw [ht, List.cons_append], by simp, hm, ?_⟩
        intro s r hs hl
        cases s with
        | nil =>
          rw [List.nil_append] at hs
          simpa [← hs] using h
        | cons d s =>
          simp only [List.cons_append, List.cons.injEq] at hs
          rw [← hs.1]
          simpa using first s r hs.2 (by simpa using hl)
      · rintro ⟨skipped, rest, ht, rfl, hm, first⟩
        cases skipped with
        | nil =>
          rw [List.nil_append] at ht
          simp [← ht, h] at hm
        | cons d skipped =>
          simp only [List.cons_append, List.cons.injEq] at ht
          refine ⟨skipped, rest, ht.2, by simp [ht.1], hm, ?_⟩
          intro s r hs hl
          simpa using first (c :: s) r (by rw [hs, List.cons_append]) (by simpa using hl)

/-- **The first match.** A search stops at the place of the text where the matcher succeeds and in
front of which it fails at every place. -/
theorem search_eq_some_iff {α : Type} {m : Option Char → Text → Option α} {t before : Text}
    {a : α} :
    search m t = some (before, a) ↔
      ∃ rest, t = before ++ rest ∧ m before.getLast? rest = some a ∧
        ∀ s r, t = s ++ r → s.length < before.length → m s.getLast? r = none := by
  simp only [search, searchFrom_eq_some_iff, List.reverse_nil, List.nil_append]
  constructor
  · rintro ⟨skipped, rest, rfl, rfl, h⟩
    exact ⟨rest, rfl, h⟩
  · rintro ⟨rest, rfl, h⟩
    exact ⟨before, rest, rfl, rfl, h⟩

/-- The law of `search_eq_none_iff` for a search that goes on from a place. -/
theorem searchFrom_eq_none_iff {α : Type} {m : Option Char → Text → Option α} {seen t : Text} :
    searchFrom m seen t = none ↔ ∀ s r, t = s ++ r → m (seen.reverse ++ s).getLast? r = none := by
  -- The place at the front is the split with nothing before it, the others are those of the rest.
  induction t generalizing seen with
  | nil => simp [searchFrom]
  | cons c t ih =>
    rw [searchFrom]
    cases h : m seen.head? (c :: t) with
    | some b =>
      simp only [reduceCtorEq, false_iff]
      intro fails
      have := fails [] (c :: t) rfl
      simp [h] at this
    | none =>
      simp only [ih]
      constructor
      · intro fails s r hs
        cases s with
        | nil =>
          rw [List.nil_append] at hs
          simpa [← hs] using h
        | cons d s =>
          simp only [List.cons_append, List.cons.injEq] at hs
          rw [← hs.1]
          simpa using fails s r hs.2
      · intro fails s r hs
        simpa using fails (c :: s) r (by rw [hs, List.cons_append])

/-- **No match.** A search finds nothing exactly if the matcher fails at every place. -/
theorem search_eq_none_iff {α : Type} {m : Option Char → Text → Option α} {t : Text} :
    search m t = none ↔ ∀ s r, t = s ++ r → m s.getLast? r = none := by
  simp [search, searchFrom_eq_none_iff]

/-- A match is found at a place of the text where the matcher succeeds. -/
theorem search_eq_some {α : Type} {m : Option Char → Text → Option α} {t before : Text} {a : α}
    (h : search m t = some (before, a)) :
    ∃ rest, t = before ++ rest ∧ m before.getLast? rest = some a := by
  obtain ⟨rest, ht, hm, -⟩ := search_eq_some_iff.1 h
  exact ⟨rest, ht, hm⟩

/-! ## Literals -/

/-- Whether the literal occurs in the text. -/
def occursIn (literal t : Text) : Bool :=
  (search (fun _ rest => literal.isPrefixOf? rest) t).isSome

/-- What stands behind a literal at the front of a text, or of any list. -/
theorem isPrefixOf?_eq_some_iff {α : Type} [BEq α] [LawfulBEq α] {literal t after : List α} :
    literal.isPrefixOf? t = some after ↔ t = literal ++ after := by
  induction literal generalizing t with
  | nil =>
    have : ([] : List α).isPrefixOf? t = some t := by cases t <;> rfl
    simp [this]
  | cons c literal ih =>
    cases t with
    | nil =>
      have : (c :: literal).isPrefixOf? ([] : List α) = none := rfl
      simp [this]
    | cons d t =>
      have : (c :: literal).isPrefixOf? (d :: t) =
          if c == d then literal.isPrefixOf? t else none := rfl
      rw [this]
      simp only [beq_iff_eq, Option.ite_none_right_eq_some, ih, List.cons_append, List.cons.injEq,
        eq_comm (a := c)]

/-- No rest is left exactly if the literal is no prefix. -/
theorem isPrefixOf?_eq_none_iff {α : Type} [BEq α] [LawfulBEq α] {literal t : List α} :
    literal.isPrefixOf? t = none ↔ ¬ literal <+: t := by
  rw [Option.eq_none_iff_forall_ne_some]
  constructor
  · rintro h ⟨after, rfl⟩
    exact h after (isPrefixOf?_eq_some_iff.2 rfl)
  · rintro h after ha
    exact h ⟨after, (isPrefixOf?_eq_some_iff.1 ha).symm⟩

/-- A literal occurs in a text if it stands between two parts of the text. -/
theorem occursIn_iff {literal t : Text} : occursIn literal t = true ↔ literal <:+: t := by
  constructor
  · intro h
    obtain ⟨⟨before, after⟩, h⟩ := Option.isSome_iff_exists.1 h
    obtain ⟨rest, rfl, hm⟩ := search_eq_some h
    exact ⟨before, after, by rw [isPrefixOf?_eq_some_iff.1 hm, List.append_assoc]⟩
  · rintro ⟨before, after, rfl⟩
    rw [occursIn, Option.isSome_iff_ne_none, Ne, search_eq_none_iff]
    intro fails
    have := fails before (literal ++ after) (List.append_assoc ..)
    rw [isPrefixOf?_eq_some_iff.2 rfl] at this
    exact absurd this (by simp)

/-- The text before and the text behind the first occurrence of `sep`. -/
def cut? (sep t : Text) : Option (Text × Text) :=
  search (fun _ rest => sep.isPrefixOf? rest) t

/-- Cutting takes out one occurrence of the literal and nothing else. -/
theorem eq_append_of_cut? {sep t before after : Text} (h : cut? sep t = some (before, after)) :
    t = before ++ (sep ++ after) := by
  obtain ⟨rest, rfl, hm⟩ := search_eq_some h
  rw [isPrefixOf?_eq_some_iff.1 hm]

/-- There is nothing to cut at where the literal does not occur. -/
theorem cut?_eq_none_iff {sep t : Text} : cut? sep t = none ↔ ¬ sep <:+: t := by
  rw [← occursIn_iff, occursIn, cut?]
  simp

/-- The pieces of a text between the occurrences of a literal, found one after another from the
left. An empty literal separates nothing. -/
def pieces (literal t : Text) : List Text :=
  match cut? literal t with
  | none => [t]
  | some (before, after) =>
    -- Behind an empty literal nothing has become shorter.
    if after.length < t.length then before :: pieces literal after else [t]
termination_by t.length

/-- Every text has a piece. -/
theorem pieces_ne_nil (literal t : Text) : pieces literal t ≠ [] := by
  rw [pieces]
  split
  · simp
  · split <;> simp

/-- The pieces with the literal between them are the text again. -/
theorem intercalate_pieces (literal t : Text) : literal.intercalate (pieces literal t) = t := by
  fun_induction pieces literal t with
  | case1 => simp [List.intercalate]
  | case2 t before after h hlt ih =>
    obtain ⟨p, ps, hp⟩ := List.exists_cons_of_ne_nil (pieces_ne_nil literal after)
    rw [hp] at ih ⊢
    rw [eq_append_of_cut? h, ← ih]
    simp [List.intercalate]
  | case3 => simp [List.intercalate]

/-- Every occurrence of `literal`, taken from the left without overlap, is exchanged for
`replacement`. -/
def replaceAll (literal replacement t : Text) : Text :=
  replacement.intercalate (pieces literal t)

/-- Exchanging a literal for itself changes nothing. -/
@[simp] theorem replaceAll_self (literal t : Text) : replaceAll literal literal t = t :=
  intercalate_pieces literal t

/-! ## Lists of texts -/

/-- The texts one after another with a separator between neighbours. -/
def join (sep : Text) (ts : List Text) : Text := sep.intercalate ts

/-- Whether all characters are ASCII letters equal up to case to those of `literal`, which is
written in lower case. -/
def equalsIgnoringCase (literal t : Text) : Bool := t.map Char.toLower == literal

end Text

end SourceRecovery
