import Mathlib.Data.List.Infix
import SourceRecovery.Text.Basic

/-! # Cutting and replacing at a literal

A text is cut at the first occurrence of a literal, and falls into pieces by cutting what is behind
it again. If no occurrence of the literal overlaps another (**`IsUnbordered`**), the pieces are
those around all its occurrences, and not only around those that were cut at. What is inserted
between the pieces makes no new occurrence if it is apart from the literal (**`IsApart`**).

* **`cut?_eq_some_iff`** — where a text is cut.
* **`pieces_append`** — the pieces before and behind an occurrence.
* **`fallsInto_pieces`** — the pieces are what is between the occurrences (**`FallsInto`**).
* **`IsApart.not_infix_replaceAll`** — a literal that has been replaced does not occur any more. -/

namespace SourceRecovery

namespace Text

variable {literal inserted t u before after p : Text} {ps : List Text} {c : Char}

/-! ## Cutting -/

/-- **Cutting** takes out the first occurrence of the literal. -/
theorem cut?_eq_some_iff {sep t before after : Text} :
    cut? sep t = some (before, after) ↔
      t = before ++ (sep ++ after) ∧ ∀ b a, t = b ++ (sep ++ a) → before.length ≤ b.length := by
  rw [cut?, search_eq_some_iff]
  constructor
  · rintro ⟨rest, rfl, hrest, hfirst⟩
    obtain rfl := isPrefixOf?_eq_some_iff.1 hrest
    refine ⟨rfl, fun b a hb => ?_⟩
    by_contra hlt
    have hnone := hfirst b (sep ++ a) hb (by omega)
    rw [isPrefixOf?_eq_some_iff.2 rfl] at hnone
    cases hnone
  · rintro ⟨rfl, hfirst⟩
    refine ⟨sep ++ after, rfl, isPrefixOf?_eq_some_iff.2 rfl, fun b r hb hlt => ?_⟩
    rw [isPrefixOf?_eq_none_iff]
    rintro ⟨a, rfl⟩
    have hle := hfirst b a hb
    omega

/-- The literal does not occur in front of the place of the cut. -/
theorem not_infix_of_cut? (hne : literal ≠ [])
    (h : cut? literal t = some (before, after)) : ¬ literal <:+: before := by
  rintro ⟨x, y, rfl⟩
  obtain ⟨rfl, hfirst⟩ := cut?_eq_some_iff.1 h
  have hle := hfirst x (y ++ (literal ++ after)) (by simp)
  have hpos := List.length_pos_iff.2 hne
  rw [List.length_append, List.length_append] at hle
  omega

/-- What is behind the place of a cut is shorter. -/
theorem length_lt_of_cut? (hne : literal ≠ []) (h : cut? literal t = some (before, after)) :
    after.length < t.length := by
  have hpos := List.length_pos_iff.2 hne
  rw [eq_append_of_cut? h, List.length_append, List.length_append]
  omega

/-- A text that goes on is cut at the same place. -/
theorem cut?_append (h : cut? literal t = some (before, after)) (v : Text) :
    cut? literal (t ++ v) = some (before, after ++ v) := by
  obtain ⟨rfl, hfirst⟩ := cut?_eq_some_iff.1 h
  refine cut?_eq_some_iff.2 ⟨by simp, fun b a heq => ?_⟩
  by_contra hlt
  -- An earlier occurrence would end before the text goes on.
  have hb : b ++ literal <+: before ++ (literal ++ after) := by
    refine List.prefix_of_prefix_length_le ⟨a, ?_⟩ ⟨v, rfl⟩ ?_
    · rw [heq, List.append_assoc]
    · rw [List.length_append, List.length_append, List.length_append]
      omega
  obtain ⟨a', ha'⟩ := hb
  have hle := hfirst b a' (by rw [← ha', List.append_assoc])
  exact hlt hle

/-- A text is **unbordered** if no proper part of it is both its beginning and its end. Two
occurrences of it do not overlap. -/
def IsUnbordered (s : Text) : Prop := ∀ x, x <:+ s → x <+: s → x = [] ∨ x = s

instance (s : Text) : Decidable s.IsUnbordered :=
  decidable_of_iff (∀ x ∈ s.tails, x <+: s → x = [] ∨ x = s)
    (forall_congr' fun x => by rw [List.mem_tails])

/-- The first occurrence of an unbordered literal is where it has been put. -/
theorem cut?_append_literal (h : literal.IsUnbordered) (hu : ¬ literal <:+: u) (v : Text) :
    cut? literal (u ++ (literal ++ v)) = some (u, v) := by
  refine cut?_eq_some_iff.2 ⟨rfl, fun b a heq => ?_⟩
  rcases List.append_eq_append_iff.1 heq with ⟨w, rfl, -⟩ | ⟨w, rfl, hw⟩
  · simp
  -- The occurrence begins in `u`, so it ends in the literal behind it, if not in `u` itself.
  rcases List.append_eq_append_iff.1 hw with ⟨x, rfl, -⟩ | ⟨x, hx, hx'⟩
  · exact absurd ⟨b, x, by simp⟩ hu
  · have hprefix : x <+: literal := by
      refine List.prefix_of_prefix_length_le ⟨a, hx'.symm⟩ ⟨v, rfl⟩ ?_
      rw [hx, List.length_append]
      omega
    rcases h x ⟨w, hx.symm⟩ hprefix with rfl | rfl
    · rw [List.append_nil] at hx
      exact absurd (hx ▸ (List.suffix_append b w).isInfix) hu
    · obtain rfl : w = [] := by simpa using hx
      simp

/-! ## Pieces -/

/-- A text without the literal is a single piece. -/
theorem pieces_of_not_infix (h : ¬ literal <:+: t) : pieces literal t = [t] := by
  rw [pieces, cut?_eq_none_iff.2 h]

/-- The first piece ends in front of the literal, and the others are those behind it. -/
theorem pieces_of_cut? (hne : literal ≠ []) (h : cut? literal t = some (before, after)) :
    pieces literal t = before :: pieces literal after := by
  rw [pieces, h]
  exact if_pos (length_lt_of_cut? hne h)

/-- **The pieces on both sides of an occurrence** are those of what is before it and of what is
behind it. -/
theorem pieces_append (h : literal.IsUnbordered) (hne : literal ≠ []) (u v : Text) :
    pieces literal (u ++ (literal ++ v)) = pieces literal u ++ pieces literal v := by
  -- All cuts in `u` stay, and the next one is at the literal behind it.
  fun_induction pieces literal u with
  | case1 u hnone =>
    rw [pieces_of_cut? hne (cut?_append_literal h (cut?_eq_none_iff.1 hnone) v)]
    rfl
  | case2 u before after hcut _ ih =>
    rw [pieces_of_cut? hne (cut?_append hcut _), ih]
    rfl
  | case3 u before after hcut hlt => exact absurd (length_lt_of_cut? hne hcut) hlt

/-- The literal occurs in none of the pieces. -/
theorem not_infix_of_mem_pieces (hne : literal ≠ []) (hp : p ∈ pieces literal t) :
    ¬ literal <:+: p := by
  fun_induction pieces literal t with
  | case1 t hnone =>
    rw [List.mem_singleton.1 hp]
    exact cut?_eq_none_iff.1 hnone
  | case2 t before after hcut _ ih =>
    rcases List.mem_cons.1 hp with rfl | hp
    · exact not_infix_of_cut? hne hcut
    · exact ih hp
  | case3 t before after hcut hlt => exact absurd (length_lt_of_cut? hne hcut) hlt

/-- A text **falls into pieces** around a literal. -/
structure FallsInto (literal t : Text) (ps : List Text) : Prop where
  /-- The pieces with the literal between them are the text. -/
  intercalate : literal.intercalate ps = t
  /-- The literal does not occur in a piece. -/
  not_infix : ∀ p ∈ ps, ¬ literal <:+: p
  /-- Wherever it occurs in the text, it stands between pieces. -/
  exists_of_eq : ∀ before after, t = before ++ (literal ++ after) →
    ∃ front back, ps = front ++ back ∧ before = literal.intercalate front ∧
      after = literal.intercalate back

/-- **A text falls into its pieces.** -/
theorem fallsInto_pieces (h : literal.IsUnbordered) (hne : literal ≠ []) (t : Text) :
    FallsInto literal t (pieces literal t) where
  intercalate := intercalate_pieces literal t
  not_infix := fun _ hp => not_infix_of_mem_pieces hne hp
  exists_of_eq := by
    rintro before after rfl
    exact ⟨pieces literal before, pieces literal after, pieces_append h hne before after,
      (intercalate_pieces literal before).symm, (intercalate_pieces literal after).symm⟩

/-! ## Texts with something between them -/

/-- The first text stands in front. -/
theorem prefix_intercalate (sep p : Text) (ps : List Text) : p <+: sep.intercalate (p :: ps) := by
  cases ps with
  | nil => rw [List.intercalate_singleton]
  | cons q ps =>
    rw [List.intercalate_cons_cons, List.append_assoc]
    exact List.prefix_append p _

/-- Each of the texts occurs. -/
theorem infix_intercalate_of_mem (sep : Text) (hp : p ∈ ps) : p <:+: sep.intercalate ps := by
  induction ps with
  | nil => cases hp
  | cons q ps ih =>
    rcases List.mem_cons.1 hp with rfl | hp
    · exact (prefix_intercalate sep p ps).isInfix
    · cases ps with
      | nil => cases hp
      | cons r ps =>
        rw [List.intercalate_cons_cons]
        exact (ih hp).trans (List.suffix_append _ _).isInfix

/-- Every character is one of what is between the texts or one of theirs. -/
theorem mem_intercalate {sep : Text} (hc : c ∈ sep.intercalate ps) :
    c ∈ sep ∨ ∃ p ∈ ps, c ∈ p := by
  induction ps with
  | nil => simp at hc
  | cons p ps ih =>
    cases ps with
    | nil =>
      rw [List.intercalate_singleton] at hc
      exact .inr ⟨p, by simp, hc⟩
    | cons q ps =>
      rw [List.intercalate_cons_cons, List.mem_append, List.mem_append] at hc
      rcases hc with (hc | hc) | hc
      · exact .inr ⟨p, by simp, hc⟩
      · exact .inl hc
      · exact (ih hc).imp_right fun ⟨r, hr, hcr⟩ => ⟨r, by simp [hr], hcr⟩

/-! ## Replacing -/

/-- Nothing is replaced in a text without the literal. -/
theorem replaceAll_of_not_infix (h : ¬ literal <:+: t) : replaceAll literal inserted t = t := by
  rw [replaceAll, pieces_of_not_infix h, List.intercalate_singleton]

/-- Where the literal occurs, the text is inserted. -/
theorem infix_replaceAll (hne : literal ≠ []) (h : literal <:+: t) :
    inserted <:+: replaceAll literal inserted t := by
  obtain ⟨⟨before, after⟩, hcut⟩ : ∃ found, cut? literal t = some found :=
    Option.ne_none_iff_exists'.1 fun hnone => cut?_eq_none_iff.1 hnone h
  obtain ⟨q, ps, hps⟩ := List.exists_cons_of_ne_nil (pieces_ne_nil literal after)
  rw [replaceAll, pieces_of_cut? hne hcut, hps, List.intercalate_cons_cons]
  exact ⟨before, _, rfl⟩

/-- A text that is inserted is **apart** from a literal if no occurrence of the literal can touch
it. -/
structure IsApart (literal inserted : Text) : Prop where
  /-- The literal does not occur in the inserted text. -/
  not_infix : ¬ literal <:+: inserted
  /-- The literal does not hold the inserted text. -/
  not_infix_literal : ¬ inserted <:+: literal
  /-- It does not begin at the end of the inserted text. -/
  eq_nil_of_prefix : ∀ x, x <:+ inserted → x <+: literal → x = []
  /-- It does not end at the beginning of the inserted text. -/
  eq_nil_of_suffix : ∀ x, x <+: inserted → x <:+ literal → x = []

/-- A text is apart from a literal if it does not have the first character of the literal, the
literal does not end in the first character of the text, and does not have the second one. -/
theorem isApart_of_notMem {first second : Char} {rest : Text} (hc : c ∉ inserted)
    (hbegins : literal.head? = some c) (hinserted : inserted = first :: second :: rest)
    (hends : literal.getLast? ≠ some first) (hsecond : second ∉ literal) :
    IsApart literal inserted where
  not_infix h := hc (h.subset (List.mem_of_head? hbegins))
  not_infix_literal h := hsecond (h.subset (by simp [hinserted]))
  eq_nil_of_prefix x hx hx' := by
    cases x with
    | nil => rfl
    | cons d x =>
      obtain ⟨behind, rfl⟩ := hx'
      obtain rfl := Option.some.inj hbegins
      exact absurd (hx.subset (by simp)) hc
  eq_nil_of_suffix x hx hx' := by
    obtain ⟨behind, hx⟩ := hx
    rw [hinserted] at hx
    cases x with
    | nil => rfl
    | cons d x =>
      -- Such an end of the literal is its last character alone, or has the second one of the text.
      obtain ⟨rfl, htail⟩ := List.cons.inj hx
      cases x with
      | nil =>
        obtain ⟨front, rfl⟩ := hx'
        simp at hends
      | cons e x =>
        obtain ⟨rfl, -⟩ := List.cons.inj htail
        exact absurd (hx'.subset (by simp)) hsecond

/-- A literal that is apart from a text is not empty. -/
theorem IsApart.ne_nil (h : IsApart literal inserted) : literal ≠ [] := by
  rintro rfl
  exact h.not_infix List.nil_infix

/-- **No occurrence arises** where a text that is apart from the literal is inserted between
pieces. -/
theorem IsApart.not_infix_intercalate (h : IsApart literal inserted)
    (hps : ∀ p ∈ ps, ¬ literal <:+: p) : ¬ literal <:+: inserted.intercalate ps := by
  induction ps with
  | nil => simpa using h.ne_nil
  | cons p ps ih =>
    have hp := hps p (by simp)
    have ih := ih fun q hq => hps q (by simp [hq])
    cases ps with
    | nil => rwa [List.intercalate_singleton]
    | cons q ps =>
      generalize hrest : inserted.intercalate (q :: ps) = rest at ih
      rw [List.intercalate_cons_cons, hrest, List.append_assoc]
      -- The occurrence lies on one side of a seam or across it.
      intro hinfix
      rcases List.infix_append_iff.1 hinfix with hp' | hbehind | ⟨x, y, hxy, hx, hy⟩
      · exact hp hp'
      · rcases List.infix_append_iff.1 hbehind with hin | hrest' | ⟨x, y, rfl, hx, hy⟩
        · exact h.not_infix hin
        · exact ih hrest'
        · obtain rfl := h.eq_nil_of_prefix x hx (List.prefix_append x y)
          exact ih hy.isInfix
      · have hsuffix : y <:+ literal := hxy ▸ List.suffix_append x y
        rcases List.prefix_or_prefix_of_prefix hy (List.prefix_append inserted rest) with hy' | hy'
        · obtain rfl := h.eq_nil_of_suffix y hy' hsuffix
          rw [List.append_nil] at hxy
          exact hp (hxy ▸ hx.isInfix)
        · exact h.not_infix_literal (hy'.isInfix.trans hsuffix.isInfix)

/-- **A literal that has been replaced does not occur any more.** -/
theorem IsApart.not_infix_replaceAll (h : IsApart literal inserted) (t : Text) :
    ¬ literal <:+: replaceAll literal inserted t :=
  h.not_infix_intercalate fun _ hp => not_infix_of_mem_pieces h.ne_nil hp

end Text

end SourceRecovery
