import SourceRecovery.Proofs.Source.Declaration

/-! # The name that a keyword declares

In a source file a name is an **identifier** (**`IsIdentifier`**): word characters and dollar signs.
The name that a keyword declares (**`Names`**) is the longest stretch of these behind its blanks. A
dollar sign is no word character, so a word boundary can stand inside a declared name, and renaming
does not tell where the declared name ends: it takes a declared name for `name` exactly if it begins
with `name` and a word boundary stands behind that part (**`TakenFor`**).

* **`takenFor_iff`** — a name that ends in a word character is also found in front of a dollar sign.
* **`IsSite.names`**, **`Names.exists_isSite`** — the sites of an identifier are the declared names
  that are taken for it.
* **`rename_declaredName`** — renaming exchanges the front part of the first declared name that is
  taken for the name. Where no dollar sign is in the way, that is the first declaration of the name.
* **`rename_nestedName`** — a nested class is renamed for its outer class, and a name that ends in a
  dollar sign is not found. -/

namespace SourceRecovery

namespace Declaration

variable {name newName t before keyword blanks head declared after rest : Text} {p : Text → Prop}

/-! ## Identifiers -/

/-- Whether a character may be in an identifier. -/
def isNameCharacter (c : Char) : Bool := Text.isWordCharacter c || c == '$'

/-- An **identifier** is not empty and made of word characters and dollar signs. -/
def IsIdentifier (name : Text) : Prop := name ≠ [] ∧ ∀ c ∈ name, isNameCharacter c = true

instance (name : Text) : Decidable (IsIdentifier name) :=
  decidable_of_iff (name ≠ [] ∧ name.all isNameCharacter = true) (and_congr_right' List.all_eq_true)

/-- No character of an identifier is blank. -/
theorem isBlank_eq_false_of_isNameCharacter {c : Char} (hc : isNameCharacter c = true) :
    Text.isBlank c = false := by
  rcases Bool.or_eq_true _ _ ▸ hc with hword | hdollar
  · exact Text.isBlank_eq_false hword
  · obtain rfl : c = '$' := by simpa using hdollar
    decide

/-- Whether a word boundary stands in front of the last part of a declared name does not depend on
what follows the name. -/
theorem boundaryBetween_append (hright : rest.head?.any isNameCharacter = false)
    (left : Option Char) (more : Text) :
    Text.boundaryBetween left (more ++ rest).head? = Text.boundaryBetween left more.head? := by
  cases more with
  | cons c more => rfl
  | nil =>
    have hword : rest.head?.any Text.isWordCharacter = false := by
      cases rest with
      | nil => rfl
      | cons c rest => exact (Bool.or_eq_false_iff.1 hright).1
    rw [List.nil_append, Text.boundaryBetween, hword]
    rfl

/-! ## Declared names -/

/-- **The name that a keyword declares** in a text: the longest stretch of word characters and
dollar signs behind the keyword and its blanks. It is empty where no such character stands. -/
structure Names (t before head name after : Text) : Prop where
  /-- The text is what is in front, the head, the name, and what follows. -/
  text : t = before ++ (head ++ (name ++ after))
  /-- The head is a keyword and blanks. -/
  isHead : IsHead head
  /-- No word character is in front of the keyword. -/
  left : before.getLast?.any Text.isWordCharacter = false
  /-- All blanks behind the keyword are in the head. -/
  front : (name ++ after).head?.any Text.isBlank = false
  /-- The name is made of word characters and dollar signs. -/
  characters : ∀ c ∈ name, isNameCharacter c = true
  /-- No such character follows. -/
  right : after.head?.any isNameCharacter = false

/-- Whether renaming takes a declared name for `name`: it begins with `name`, and a word boundary
stands behind that part, be it inside the declared name or at its end. -/
def TakenFor (name declared : Text) : Prop :=
  ∃ more, declared = name ++ more ∧ Text.boundaryBetween name.getLast? more.head? = true

/-- **The first declared name** in a text that has a property. -/
structure FirstNamed (p : Text → Prop) (t before head name after : Text) : Prop where
  /-- It is a declared name. -/
  names : Names t before head name after
  /-- It has the property. -/
  holds : p name
  /-- No declared name in front of it has the property. -/
  first : ∀ b h n a, Names t b h n a → p n → before.length ≤ b.length

/-- **A name that ends in a word character** is taken for itself and for the declared names that go
on with a dollar sign. -/
theorem takenFor_iff (hend : name.getLast?.any Text.isWordCharacter = true)
    (hchars : ∀ c ∈ declared, isNameCharacter c = true) :
    TakenFor name declared ↔ declared = name ∨ name ++ ['$'] <+: declared := by
  have hdollar : Text.isWordCharacter '$' = false := by decide +kernel
  constructor
  · rintro ⟨more, rfl, hbound⟩
    rw [Text.boundaryBetween_of_any hend] at hbound
    cases more with
    | nil => exact .inl (List.append_nil name)
    | cons c more =>
      -- The character behind `name` is no word character, so it is a dollar sign.
      have hc : isNameCharacter c = true := hchars c (by simp)
      rw [List.head?_cons, Option.any_some] at hbound
      rw [isNameCharacter, hbound, Bool.false_or, beq_iff_eq] at hc
      rw [hc]
      exact .inr ⟨more, by simp⟩
  · rintro (rfl | ⟨more, rfl⟩)
    · exact ⟨[], (List.append_nil _).symm, (Text.boundaryBetween_of_any hend).2 rfl⟩
    · refine ⟨'$' :: more, by simp, (Text.boundaryBetween_of_any hend).2 ?_⟩
      rw [List.head?_cons, Option.any_some, hdollar]

/-- A site of an identifier lies at the front of a declared name that is taken for it. -/
theorem IsSite.names (hname : IsIdentifier name) (h : IsSite name t before keyword blanks after) :
    ∃ more rest, after = more ++ rest ∧ TakenFor name (name ++ more) ∧
      Names t before (keyword ++ blanks) (name ++ more) rest := by
  obtain ⟨hne, hchars⟩ := hname
  obtain ⟨hmem, hnonempty, hblank, rfl, hfront, hbehind⟩ := h
  rw [List.getLast?_append_of_ne_nil _ hne] at hbehind
  have hsplit : after.takeWhile isNameCharacter ++ after.dropWhile isNameCharacter = after :=
    List.takeWhile_append_dropWhile
  have hright : (after.dropWhile isNameCharacter).head?.any isNameCharacter = false := by
    have hstop := List.head?_dropWhile_not isNameCharacter after
    cases hhead : (after.dropWhile isNameCharacter).head? with
    | none => rfl
    | some c => simpa [hhead] using hstop
  rw [← hsplit, boundaryBetween_append hright] at hbehind
  refine ⟨_, _, hsplit.symm, ⟨_, rfl, hbehind⟩, ?_, ⟨keyword, hmem, blanks, hnonempty, hblank, rfl⟩,
    (boundaryBetween_keyword hmem _).1 hfront, ?_, ?_, hright⟩
  · rw [List.append_assoc keyword, List.append_assoc name, hsplit]
  · obtain ⟨d, ds, rfl⟩ := List.exists_cons_of_ne_nil hne
    exact isBlank_eq_false_of_isNameCharacter (hchars d (by simp))
  · intro c hc
    rcases List.mem_append.1 hc with hc | hc
    · exact hchars c hc
    · exact List.all_eq_true.1 List.all_takeWhile c hc

/-- A declared name that is taken for an identifier begins with a site of it. -/
theorem Names.exists_isSite (hname : IsIdentifier name) (h : Names t before head declared after)
    (htaken : TakenFor name declared) : ∃ k w a, IsSite name t before k w a := by
  obtain ⟨hne, -⟩ := hname
  obtain ⟨more, rfl, hbound⟩ := htaken
  obtain ⟨rfl, ⟨keyword, hmem, blanks, hnonempty, hblank, rfl⟩, hleft, -, -, hright⟩ := h
  refine ⟨keyword, blanks, more ++ after, hmem, hnonempty, hblank, by simp,
    (boundaryBetween_keyword hmem _).2 hleft, ?_⟩
  rw [List.getLast?_append_of_ne_nil _ hne, boundaryBetween_append hright]
  exact hbound

/-! ## Renaming by declared names -/

/-- Where no declared name is taken for the name, nothing is renamed. -/
theorem rename?_of_not_takenFor (hname : IsIdentifier name)
    (h : ∀ b h n a, Names t b h n a → ¬ TakenFor name n) : rename? name newName t = none := by
  apply rename?_of_search_eq_none
  rw [search_at?_eq_none_iff_isSite]
  intro b k w a hsite
  obtain ⟨more, rest, -, htaken, hnames⟩ := hsite.names hname
  exact h b (k ++ w) (name ++ more) rest hnames htaken

/-- **The front part of the first declared name that is taken for the name is exchanged.** -/
theorem exists_firstNamed (hname : IsIdentifier name) (newName : Text)
    (h : ∃ b h n a, Names t b h n a ∧ TakenFor name n) :
    ∃ before head more after, FirstNamed (TakenFor name) t before head (name ++ more) after ∧
      rename? name newName t = some (before ++ (head ++ (newName ++ (more ++ after)))) := by
  obtain ⟨b, h, n, a, hnames, htaken⟩ := h
  cases hsearch : Text.search (at? name) t with
  | none =>
    obtain ⟨k, w, a', hsite⟩ := hnames.exists_isSite hname htaken
    exact absurd hsite (search_at?_eq_none_iff_isSite.1 hsearch b k w a')
  | some found =>
    obtain ⟨before, head, after⟩ := found
    obtain ⟨keyword, blanks, rfl, hfirst⟩ := isFirst_of_search hsearch
    obtain ⟨more, rest, rfl, htakenFirst, hnamesFirst⟩ := hfirst.isSite.names hname
    refine ⟨before, keyword ++ blanks, more, rest, ⟨hnamesFirst, htakenFirst, ?_⟩,
      rename?_of_search_eq_some hsearch⟩
    intro b h n a hother htakenOther
    obtain ⟨k, w, a', hsite⟩ := hother.exists_isSite hname htakenOther
    exact hfirst.first b k w a' hsite

/-! ### Where no dollar sign is in the way -/

section Exact

variable (hexact : ∀ b h n a, Names t b h n a → (TakenFor name n ↔ n = name))

include hexact

/-- If only the name itself is taken for the name, the first declaration of the name gets the new
name. -/
theorem exists_firstNamed_eq (hname : IsIdentifier name) (newName : Text)
    (h : ∃ b h a, Names t b h name a) :
    ∃ before head after, FirstNamed (· = name) t before head name after ∧
      rename? name newName t = some (before ++ (head ++ (newName ++ after))) := by
  obtain ⟨b, h, a, hnames⟩ := h
  have htaken := (hexact b h name a hnames).2 rfl
  obtain ⟨before, head, more, after, hfirst, hrename⟩ :=
    exists_firstNamed hname newName ⟨b, h, name, a, hnames, htaken⟩
  -- The first declared name that is taken for the name has nothing behind it.
  obtain rfl : more = [] := by
    simpa using (hexact _ _ _ _ hfirst.names).1 hfirst.holds
  rw [List.append_nil] at hfirst
  refine ⟨before, head, after, ⟨hfirst.names, rfl, ?_⟩, hrename⟩
  intro b h n a hother heq
  exact hfirst.first b h n a hother ((hexact b h n a hother).2 heq)

/-- If only the name itself is taken for the name, a new name changes the text exactly if a keyword
declares the name. -/
theorem rename_ne_self_iff (hname : IsIdentifier name) (hnew : name ≠ newName) :
    rename name newName t ≠ t ↔ ∃ b h a, Names t b h name a := by
  constructor
  · intro hchanged
    by_contra hnone
    apply hchanged
    have hnot : ∀ b h n a, Names t b h n a → ¬ TakenFor name n := by
      intro b h n a hnames htaken
      obtain rfl := (hexact b h n a hnames).1 htaken
      exact hnone ⟨b, h, a, hnames⟩
    rw [rename, rename?_of_not_takenFor hname hnot]
    rfl
  · intro hsome heq
    obtain ⟨before, head, after, hfirst, hrename⟩ :=
      exists_firstNamed_eq hexact hname newName hsome
    rw [rename, hrename, Option.getD_some, hfirst.names.text] at heq
    have hpart := List.append_cancel_left (List.append_cancel_left heq)
    exact hnew (List.append_cancel_right hpart).symm

end Exact

/-- **Which declaration is renamed.** If no declared name is taken for the name, nothing is matched.
Otherwise the part of the first such declared name that is `name` is exchanged and the rest of it
stays. If the name ends in a word character and no declared name goes on behind it with a dollar
sign, then a new name changes the text exactly if a keyword declares the name, and the first
declared name that is the name is exchanged as a whole. All of this for any limit on the length of a
name, that of `tryRename?` among them, and a name within it. -/
theorem rename_declaredName {limit : Nat} (hname : IsIdentifier name)
    (hshort : isLongerThan limit name = false) :
    ((∀ b h n a, Names t b h n a → ¬ TakenFor name n) →
      tryRenameWithin? limit name newName t = .ok none ∧ rename name newName t = t) ∧
    ((∃ b h n a, Names t b h n a ∧ TakenFor name n) →
      ∃ before head more after, FirstNamed (TakenFor name) t before head (name ++ more) after ∧
        tryRenameWithin? limit name newName t =
          .ok (some (before ++ (head ++ (newName ++ (more ++ after))))) ∧
        rename name newName t = before ++ (head ++ (newName ++ (more ++ after)))) ∧
    (name.getLast?.any Text.isWordCharacter = true →
      (∀ b h n a, Names t b h n a → ¬ name ++ ['$'] <+: n) →
      (name ≠ newName → (rename name newName t ≠ t ↔ ∃ b h a, Names t b h name a)) ∧
      ((∃ b h a, Names t b h name a) →
        ∃ before head after, FirstNamed (· = name) t before head name after ∧
          tryRenameWithin? limit name newName t =
            .ok (some (before ++ (head ++ (newName ++ after)))) ∧
          rename name newName t = before ++ (head ++ (newName ++ after)))) := by
  have htry := tryRenameWithin?_of_isLongerThan hshort newName t
  refine ⟨?_, ?_, ?_⟩
  · intro hnone
    rw [htry, rename, rename?_of_not_takenFor hname hnone]
    exact ⟨rfl, rfl⟩
  · intro hsome
    obtain ⟨before, head, more, after, hfirst, hrename⟩ := exists_firstNamed hname newName hsome
    refine ⟨before, head, more, after, hfirst, ?_⟩
    rw [htry, rename, hrename]
    exact ⟨rfl, rfl⟩
  · intro hend hplain
    -- A name that goes on behind a word boundary goes on with the dollar sign, and none does.
    have hexact : ∀ b h n a, Names t b h n a → (TakenFor name n ↔ n = name) := by
      intro b h n a hnames
      rw [takenFor_iff hend hnames.characters]
      exact or_iff_left (hplain b h n a hnames)
    refine ⟨rename_ne_self_iff hexact hname, ?_⟩
    intro hsome
    obtain ⟨before, head, after, hfirst, hrename⟩ :=
      exists_firstNamed_eq hexact hname newName hsome
    refine ⟨before, head, after, hfirst, ?_⟩
    rw [htry, rename, hrename]
    exact ⟨rfl, rfl⟩

/-- A longer name is another name, and the declaration behind it gets the new name. Without a dollar
sign in the text no declared name goes on with one. -/
theorem rename_declaredName_behindLonger :
    IsIdentifier "a".toList ∧ isLongerThan nameLimit "a".toList = false ∧
      "a".toList.getLast?.any Text.isWordCharacter = true ∧
      (∀ b h n a, Names "class ab {} enum a {}".toList b h n a → ¬ "a".toList ++ ['$'] <+: n) ∧
      Names "class ab {} enum a {}".toList "class ab {} ".toList "enum ".toList "a".toList
        " {}".toList ∧
      rename "a".toList "Z$1".toList "class ab {} enum a {}".toList ≠
        "class ab {} enum a {}".toList ∧
      ∃ before head after,
        FirstNamed (· = "a".toList) "class ab {} enum a {}".toList before head "a".toList after ∧
          before ++ (head ++ ("Z$1".toList ++ after)) = "class ab {} enum Z$1 {}".toList := by
  have hname : IsIdentifier "a".toList := by decide +kernel
  have hshort : isLongerThan nameLimit "a".toList = false := by decide
  have hend : "a".toList.getLast?.any Text.isWordCharacter = true := by decide +kernel
  have hplain : ∀ b h n a, Names "class ab {} enum a {}".toList b h n a →
      ¬ "a".toList ++ ['$'] <+: n := by
    rintro b h n a hnames ⟨more, rfl⟩
    -- Such a name would bring a dollar sign into the text.
    have hmem : '$' ∈ "class ab {} enum a {}".toList := by
      rw [hnames.text]
      simp
    revert hmem
    decide
  have hnames : Names "class ab {} enum a {}".toList "class ab {} ".toList "enum ".toList
      "a".toList " {}".toList :=
    ⟨by decide, ⟨"enum".toList, by decide, [' '], by decide, by simp, rfl⟩, by decide +kernel,
      by decide, List.all_eq_true.1 (by decide +kernel), by decide +kernel⟩
  obtain ⟨-, -, hplainly⟩ :=
    @rename_declaredName _ "Z$1".toList "class ab {} enum a {}".toList nameLimit hname hshort
  obtain ⟨hchanged, hfirst⟩ := hplainly hend hplain
  obtain ⟨before, head, after, hfirst, htry, -⟩ := hfirst ⟨_, _, _, hnames⟩
  refine ⟨hname, hshort, hend, hplain, hnames, (hchanged (by decide)).2 ⟨_, _, _, hnames⟩, before,
    head, after, hfirst, ?_⟩
  have hrun : tryRename? "a".toList "Z$1".toList "class ab {} enum a {}".toList =
      .ok (some "class ab {} enum Z$1 {}".toList) := by decide +kernel
  rw [tryRename?, htry] at hrun
  exact Option.some.inj (Except.ok.inj hrun)

/-- **A nested class is renamed for its outer class.** In `class a$b` no keyword declares `a`, and
still the front part of the declared name is exchanged. The other way round, `class a$` declares
`a$`, and renaming does not find it. -/
theorem rename_nestedName :
    ((∀ b h a, ¬ Names "class a$b {}".toList b h "a".toList a) ∧
      Names "class a$b {}".toList [] "class ".toList "a$b".toList " {}".toList ∧
      rename "a".toList "Z".toList "class a$b {}".toList = "class Z$b {}".toList) ∧
    (Names "class a$ {}".toList [] "class ".toList "a$".toList " {}".toList ∧
      rename "a$".toList "Z".toList "class a$ {}".toList = "class a$ {}".toList) := by
  have hhead : IsHead "class ".toList :=
    ⟨"class".toList, by decide, [' '], by decide, by simp, rfl⟩
  refine ⟨⟨?_, ?_, by decide +kernel⟩, ?_, by decide +kernel⟩
  · intro b h a hnames
    -- Behind every `a` of the text stands a character that may be in a name.
    have hnext : ∀ i < 13, ("class a$b {}".toList.drop i).head? = some 'a' →
        ("class a$b {}".toList.drop i).tail.head?.any isNameCharacter = true := by
      decide +kernel
    have hdrop : "class a$b {}".toList.drop (b ++ h).length = 'a' :: a := by
      rw [hnames.text, ← List.append_assoc, List.drop_left]
      rfl
    have hbound : (b ++ h).length < 13 := by
      by_contra hge
      rw [List.drop_eq_nil_of_le (Nat.le_trans (by decide) (Nat.le_of_not_lt hge))] at hdrop
      cases hdrop
    have hright := hnext _ hbound
    rw [hdrop, List.tail_cons, hnames.right] at hright
    exact Bool.noConfusion (hright rfl)
  · exact ⟨by decide, hhead, by decide, by decide, List.all_eq_true.1 (by decide +kernel),
      by decide +kernel⟩
  · exact ⟨by decide, hhead, by decide, by decide, List.all_eq_true.1 (by decide +kernel),
      by decide +kernel⟩

end Declaration

end SourceRecovery
