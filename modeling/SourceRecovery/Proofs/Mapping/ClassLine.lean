import SourceRecovery.Proofs.Mapping.LineByLine
import SourceRecovery.Proofs.Text.Pieces
import SourceRecovery.Proofs.Text.Splitting

/-! # What a class line is

A class line has two names, an arrow between them and a colon behind them. One line can be taken for
that in several ways (**`HasNames`**), since arrows and colons may stand in the names as well; what
is meant are the shortest names, first in front of the arrow and then behind it
(**`IsShortest`**). The reader looks at the first arrow only, and behind it at the first colon that
leaves room for a name (**`IsClassLine`**).

* **`names?_eq_some_iff`** — the reader finds the names of a class line.
* **`HasNames.exists_isClassLine`** — a later arrow has no names where the first one has none.
* **`isClassLine_iff_isShortest`** — so the reader finds the shortest names.
* **`parse?_classifies`** — which record a line is. -/

namespace SourceRecovery

namespace Record

variable {t left right name trailing l r : Text}

/-- A text **holds the names** of a class line: the two names with an arrow between them and a colon
behind them. Neither name is empty, and neither goes on behind the end of a line. -/
structure HasNames (t left right : Text) : Prop where
  /-- There is a name in front of the arrow. -/
  left_ne : left ≠ []
  /-- It is on one line. -/
  left_line : '\n' ∉ left
  /-- There is a name behind the arrow. -/
  right_ne : right ≠ []
  /-- It is on one line. -/
  right_line : '\n' ∉ right
  /-- The text is the names with the arrow and the colon, and what follows. -/
  text : ∃ trailing, t = left ++ (arrow ++ (right ++ ':' :: trailing))

/-- The **shortest names** of a class line: the shortest one in front of an arrow, and for this one
the shortest one in front of a colon. -/
structure IsShortest (t left right : Text) : Prop where
  /-- They are names of the class line. -/
  hasNames : HasNames t left right
  /-- No name in front of an arrow is shorter. -/
  left_le : ∀ l r, HasNames t l r → left.length ≤ l.length
  /-- No name behind this arrow is shorter. -/
  right_le : ∀ r, HasNames t left r → right.length ≤ r.length

/-- A text is a **class line** with the given names: what is in front of its first arrow, and what
is behind it up to the first colon that is not right behind the arrow. -/
structure IsClassLine (t left right : Text) : Prop where
  /-- What is in front of the arrow is on one line. -/
  left_line : '\n' ∉ left
  /-- The colon is not right behind the arrow. -/
  right_ne : right ≠ []
  /-- No line ends in front of the colon. -/
  right_line : '\n' ∉ right
  /-- A colon in front of the colon can only be right behind the arrow. -/
  colon : ':' ∉ right.tail
  /-- The text is the names with the arrow and the colon, and what follows. -/
  text : ∃ trailing, t = left ++ (arrow ++ (right ++ ':' :: trailing))
  /-- No arrow begins earlier. -/
  first : ∀ l r, t = l ++ (arrow ++ r) → left.length ≤ l.length

/-! ## The name before the colon -/

/-- The stretch of a text up to a character at which it ends. -/
theorem eq_takeWhile_append_of_getElem? {p : Char → Bool} {c : Char}
    (h : t[(t.takeWhile p).length]? = some c) : ∃ rest, t = t.takeWhile p ++ c :: rest := by
  obtain ⟨rest, hrest⟩ := List.takeWhile_prefix (l := t) p
  have hget : (t.takeWhile p ++ rest)[(t.takeWhile p).length]? = some c := by rw [hrest, h]
  rw [List.getElem?_append_right (Nat.le_refl _), Nat.sub_self, ← List.head?_eq_getElem?] at hget
  obtain ⟨rest', rfl⟩ := List.head?_eq_some_iff.1 hget
  exact ⟨rest', hrest.symm⟩

/-- **The name before the colon** is what is in front of the first colon behind its first
character. -/
theorem nameBeforeColon?_eq_some_iff :
    nameBeforeColon? t = some name ↔
      name ≠ [] ∧ '\n' ∉ name ∧ ':' ∉ name.tail ∧ ∃ trailing, t = name ++ ':' :: trailing := by
  constructor
  · intro h
    cases t with
    | nil => cases h
    | cons c t =>
      rw [nameBeforeColon?] at h
      split_ifs at h with hread
      obtain ⟨hc, hcolon⟩ := hread
      obtain rfl := Option.some.inj h
      -- The first character may be a colon, and the others are taken up to one on the same line.
      have hpass : ∀ d ∈ t.takeWhile (fun d => decide (d ≠ ':' ∧ d ≠ '\n')),
          d ≠ ':' ∧ d ≠ '\n' := by
        intro d hd
        have hread := List.mem_takeWhile_imp hd
        exact of_decide_eq_true hread
      obtain ⟨rest, hrest⟩ := eq_takeWhile_append_of_getElem? hcolon
      refine ⟨by simp, ?_, fun hmem => (hpass _ hmem).1 rfl, rest, ?_⟩
      · rw [List.mem_cons, not_or]
        exact ⟨Ne.symm hc, fun hmem => (hpass _ hmem).2 rfl⟩
      · rw [List.cons_append, ← hrest]
  · rintro ⟨hne, hline, hcolon, trailing, rfl⟩
    obtain ⟨c, name, rfl⟩ := List.exists_cons_of_ne_nil hne
    rw [List.mem_cons, not_or] at hline
    -- What is taken ends in front of that colon, since nothing before stops it.
    have hname : (name ++ ':' :: trailing).takeWhile (fun d => decide (d ≠ ':' ∧ d ≠ '\n')) =
        name := by
      rw [List.takeWhile_append_of_pos, List.takeWhile_cons_of_neg (by simp), List.append_nil]
      intro d hd
      refine decide_eq_true ⟨?_, ?_⟩
      · rintro rfl
        exact hcolon hd
      · rintro rfl
        exact hline.2 hd
    rw [List.cons_append, nameBeforeColon?]
    simp only [hname]
    rw [if_pos ⟨Ne.symm hline.1, by simp⟩]

/-- A stretch on one line in front of a colon begins with a name before a colon. -/
theorem exists_name (hne : name ≠ []) (hline : '\n' ∉ name) (trailing : Text) :
    ∃ name' trailing', name ++ ':' :: trailing = name' ++ ':' :: trailing' ∧ name' ≠ [] ∧
      '\n' ∉ name' ∧ ':' ∉ name'.tail := by
  obtain ⟨c, name, rfl⟩ := List.exists_cons_of_ne_nil hne
  by_cases hcolon : ':' ∈ name
  · obtain ⟨x, y, rfl, hx⟩ := List.eq_append_cons_of_mem hcolon
    refine ⟨c :: x, y ++ ':' :: trailing, by simp, by simp, fun hmem => hline ?_, hx⟩
    rw [← List.cons_append]
    exact List.mem_append_left _ hmem
  · exact ⟨c :: name, trailing, rfl, hne, hline, hcolon⟩

/-! ## The first arrow -/

/-- **The reader finds the names** of a class line. -/
theorem names?_eq_some_iff : names? t = some (left, right) ↔ IsClassLine t left right := by
  rw [names?]
  constructor
  · intro h
    split at h
    · cases h
    · next before after hcut =>
      obtain ⟨htext, hfirst⟩ := Text.cut?_eq_some_iff.1 hcut
      split_ifs at h with hline
      obtain ⟨name, hname, hpair⟩ := Option.map_eq_some_iff.1 h
      obtain ⟨rfl, rfl⟩ := Prod.mk.inj hpair
      obtain ⟨hne, hright, hcolon, trailing, rfl⟩ := nameBeforeColon?_eq_some_iff.1 hname
      exact ⟨hline, hne, hright, hcolon, ⟨trailing, htext⟩, hfirst⟩
  · rintro ⟨hline, hne, hright, hcolon, ⟨trailing, htext⟩, hfirst⟩
    have hname := nameBeforeColon?_eq_some_iff.2 ⟨hne, hright, hcolon, trailing, rfl⟩
    simp only [Text.cut?_eq_some_iff.2 ⟨htext, hfirst⟩, if_neg hline, hname, Option.map_some]

/-- The names of a class line are names that it holds, if there is one in front of the arrow. -/
theorem IsClassLine.hasNames (h : IsClassLine t left right) (hne : left ≠ []) :
    HasNames t left right :=
  ⟨hne, h.left_line, h.right_ne, h.right_line, h.text⟩

/-- **A later arrow has no names where the first one has none**: what is between the two arrows goes
to the name behind the first one. -/
theorem HasNames.exists_isClassLine (h : HasNames t l r) :
    ∃ left right, IsClassLine t left right := by
  obtain ⟨trailing, htext⟩ := h.text
  cases hcut : Text.cut? arrow t with
  | none => exact absurd ⟨l, _, by rw [htext, List.append_assoc]⟩ (Text.cut?_eq_none_iff.1 hcut)
  | some found =>
    obtain ⟨left, tail⟩ := found
    obtain ⟨hleft, hfirst⟩ := Text.cut?_eq_some_iff.1 hcut
    have hle := hfirst _ _ htext
    -- The later arrow and its names are in what follows the first one.
    obtain ⟨m, rfl, hm⟩ := Text.exists_of_append_of_length_le (hleft.symm.trans htext) hle
    have hlong : arrow.length ≤ (m ++ arrow).length := by simp
    rw [← List.append_assoc] at hm
    obtain ⟨m', hm', htail⟩ := Text.exists_of_append_of_length_le hm hlong
    -- Neither the part between the arrows nor the second arrow ends the line.
    have hline : '\n' ∉ m' ++ r := by
      have hmem : '\n' ∉ m ++ arrow := by
        rw [List.mem_append, not_or]
        exact ⟨fun hmem => h.left_line (List.mem_append_right _ hmem), by decide⟩
      rw [List.mem_append, not_or]
      exact ⟨fun hmem' => hmem (by rw [hm']; exact List.mem_append_right _ hmem'), h.right_line⟩
    obtain ⟨right, trailing', hsplit, hne, hright, hcolon⟩ :=
      exists_name (by simp [h.right_ne]) hline trailing
    refine ⟨left, right, fun hmem => h.left_line (List.mem_append_left _ hmem), hne, hright, hcolon,
      ⟨trailing', ?_⟩, hfirst⟩
    rw [hleft, htail, ← hsplit, List.append_assoc]

/-- No name behind the first arrow is shorter. -/
theorem IsClassLine.right_le (h : IsClassLine t left right) (hr : HasNames t left r) :
    right.length ≤ r.length := by
  obtain ⟨trailing, htext⟩ := h.text
  obtain ⟨trailing', htext'⟩ := hr.text
  have hsplit := List.append_cancel_left (List.append_cancel_left (htext.symm.trans htext'))
  obtain ⟨c, right, rfl⟩ := List.exists_cons_of_ne_nil h.right_ne
  obtain ⟨d, r, rfl⟩ := List.exists_cons_of_ne_nil hr.right_ne
  have hcolon : ∀ e ∈ right, e ≠ ':' := by
    rintro e he rfl
    exact h.colon he
  obtain ⟨w, rfl, -⟩ := Text.exists_of_append_cons hcolon (fun hne => hne rfl)
    (List.cons.inj hsplit).2
  simp

/-- **The names of a class line are the shortest ones**, unless the line begins with its arrow. -/
theorem isClassLine_iff_isShortest (ht : t.head? ≠ some ' ') :
    IsClassLine t left right ↔ IsShortest t left right := by
  -- With no name in front of it, the text would begin with the space of the arrow.
  have hne : ∀ l r, IsClassLine t l r → l ≠ [] := by
    rintro l r h rfl
    obtain ⟨trailing, rfl⟩ := h.text
    exact ht rfl
  constructor
  · intro h
    refine ⟨h.hasNames (hne _ _ h), fun l r hnames => ?_, fun r hnames => h.right_le hnames⟩
    obtain ⟨trailing, htext⟩ := hnames.text
    exact h.first _ _ htext
  · intro h
    obtain ⟨l, r, hline⟩ := h.hasNames.exists_isClassLine
    have hnames := hline.hasNames (hne _ _ hline)
    obtain ⟨trailing, htext⟩ := h.hasNames.text
    obtain ⟨trailing', htext'⟩ := hline.text
    -- The names are as long as those of the class line, so they are the same.
    have hle := h.left_le _ _ hnames
    have hle' := hline.first _ _ htext
    obtain ⟨rfl, hrest⟩ := List.append_inj (htext.symm.trans htext') (by omega)
    have hle := h.right_le _ hnames
    have hle' := hline.right_le h.hasNames
    obtain ⟨rfl, -⟩ := List.append_inj (List.append_cancel_left hrest) (by omega)
    exact hline

/-! ## Records -/

/-- No class line is empty. -/
theorem not_isClassLine_nil : ¬ IsClassLine [] left right := by
  intro h
  obtain ⟨trailing, htext⟩ := h.text
  have hnil := (List.append_eq_nil_iff.1 htext.symm).2
  cases hnil

/-- A line is a comment exactly if its first character that is not blank is a `#`. -/
theorem parse?_eq_comment_iff {line : Text} :
    parse? line = some .comment ↔ (Text.trim line).head? = some '#' := by
  rw [parse?]
  split_ifs with hnil hhash
  · simp [hnil]
  · simp [hhash]
  · split <;> simp [hhash]

/-- A line names two classes exactly if it is no comment and a class line, blanks around it aside.
-/
theorem parse?_eq_classes_iff {line : Text} :
    parse? line = some (.classes left right) ↔
      (Text.trim line).head? ≠ some '#' ∧ IsClassLine (Text.trim line) left right := by
  rw [parse?]
  split_ifs with hnil hhash
  · simp [hnil, not_isClassLine_nil]
  · simp [hhash]
  · rw [← names?_eq_some_iff]
    split <;> simp [*]

/-- Any other line that is not blank is a member. -/
theorem parse?_eq_member_iff {line text : Text} :
    parse? line = some (.member text) ↔
      text = Text.trim line ∧ Text.trim line ≠ [] ∧ (Text.trim line).head? ≠ some '#' ∧
        ∀ left right, ¬ IsClassLine (Text.trim line) left right := by
  simp only [← names?_eq_some_iff]
  rw [parse?]
  split_ifs with hnil hhash
  · simp +contextual [hnil]
  · simp +contextual [hhash]
  · split
    · next left right hnames =>
      simp only [Option.some.injEq, reduceCtorEq, false_iff]
      rintro ⟨rfl, -, -, hnone⟩
      exact hnone _ _ hnames
    · next hnames =>
      simp only [Option.some.injEq, Record.member.injEq]
      constructor
      · rintro rfl
        exact ⟨rfl, hnil, hhash, by simp [hnames]⟩
      · rintro ⟨rfl, -⟩
        rfl

/-- **Which record a line is.** Trimmed, it is no record if nothing is left, and a comment if it
begins with a number sign. Else it is a class line if what is in front of its first arrow is on one
line and a colon follows on that line, not right behind the arrow; its names are what is in front
of the arrow and what is between the arrow and the first such colon, and these are the shortest
names that it holds. Any other line is a member. -/
theorem parse?_classifies (line : Text) :
    let t := Text.trim line
    (parse? line = none ↔ t = []) ∧
      (parse? line = some .comment ↔ t.head? = some '#') ∧
      (∀ left right, parse? line = some (.classes left right) ↔
        t.head? ≠ some '#' ∧ IsClassLine t left right) ∧
      (∀ text, parse? line = some (.member text) ↔
        text = t ∧ t ≠ [] ∧ t.head? ≠ some '#' ∧ ∀ left right, ¬ IsClassLine t left right) ∧
      ∀ left right, IsClassLine t left right ↔ IsShortest t left right := by
  intro t
  have htrimmed : t.IsTrimmed := Text.isTrimmed_trim line
  have hspace : t.head? ≠ some ' ' := by
    intro hhead
    have hblank := htrimmed.head ' ' hhead
    simp at hblank
  refine ⟨?_, parse?_eq_comment_iff, fun left right => parse?_eq_classes_iff,
    fun text => parse?_eq_member_iff, fun left right => isClassLine_iff_isShortest hspace⟩
  rw [parse?_eq_none_iff, ← Text.trim_eq_nil_iff]

/-- A later arrow goes to the name behind the first one, and so does a colon right behind that. -/
example : parse? "a -> :b -> c:d:".toList = some (classes ['a'] ":b -> c".toList) := by decide

end Record

end SourceRecovery
