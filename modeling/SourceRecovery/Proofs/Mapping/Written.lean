import SourceRecovery.Proofs.Mapping.ClassLine

/-! # Writing a mapping file

A mapping file is **written** item by item: class lines, members, comments and blank lines, each
indented at will and ended with or without a carriage return in front of the line feed.

* **`MappingFile.Item`**, **`MappingFile.Line`** — what is written, and how each item is laid out.
* **`MappingFile.Item.parse?_text`** — a line is read as the record that was written.
* **`MappingFile.parseAll_render`** — reading a written file gives back its records. -/

namespace SourceRecovery

namespace Record

variable {left right before after text : Text}

/-- The arrow as it is written. -/
theorem arrow_eq : arrow = [' ', '-', '>', ' '] := rfl

/-- No arrow begins in a stretch without spaces. -/
theorem length_le_of_arrow (h : ' ' ∉ before) {s r : Text}
    (hsplit : before ++ after = s ++ (arrow ++ r)) : before.length ≤ s.length := by
  rw [arrow_eq, List.cons_append] at hsplit
  obtain ⟨w, rfl, -⟩ := Text.exists_of_append_cons (p := fun c => c ≠ ' ')
    (fun c hc hspace => h (hspace ▸ hc)) (fun hne => hne rfl) hsplit
  simp

/-- **The names of a class line.** -/
theorem names?_classes (hleft : ∀ c ∈ left, Text.isBlank c = false) (hne : right ≠ [])
    (hright : ∀ c ∈ right, c ≠ ':' ∧ c ≠ '\n') (trailing : Text) :
    names? (left ++ (arrow ++ (right ++ ':' :: trailing))) = some (left, right) := by
  have hspace : ' ' ∉ left := fun hmem => absurd (hleft _ hmem) (by simp)
  exact names?_eq_some_iff.2
    { left_line := fun hmem => absurd (hleft _ hmem) (by simp)
      right_ne := hne
      right_line := fun hmem => (hright _ hmem).2 rfl
      colon := fun hmem => (hright _ (List.mem_of_mem_tail hmem)).1 rfl
      text := ⟨trailing, rfl⟩
      first := fun _ _ hsplit => length_le_of_arrow hspace hsplit }

/-- **A member has no names**: its first arrow lies at the end of its text or behind it, and no
colon follows. -/
theorem names?_member (htext : ¬ arrow <:+: text) (hright : ':' ∉ right) :
    names? (text ++ (arrow ++ right)) = none := by
  rw [Option.eq_none_iff_forall_ne_some]
  rintro ⟨l, r⟩ hnames
  obtain ⟨trailing, hsplit⟩ := (names?_eq_some_iff.1 hnames).text
  rw [← List.append_assoc l] at hsplit
  rcases List.append_eq_append_iff.1 hsplit with ⟨w, -, hw⟩ | ⟨w, htext', -⟩
  · have hmem : ':' ∈ arrow ++ right := by
      rw [hw]
      simp
    rcases List.mem_append.1 hmem with harrow | hmem
    · simp [arrow_eq] at harrow
    · exact hright hmem
  · exact htext ⟨l, w, htext'.symm⟩

end Record

namespace MappingFile

/-! ## Items and lines -/

/-- A **name** as it stands in a mapping file: without blanks and colons, and not empty. -/
def IsName (name : Text) : Prop := name ≠ [] ∧ ∀ c ∈ name, Text.isBlank c = false ∧ c ≠ ':'

instance (name : Text) : Decidable (IsName name) :=
  @instDecidableAnd _ _ inferInstance (List.decidableBAll _ name)

/-- An **item** of a mapping file. -/
inductive Item where
  /-- A class with its two names, and what follows the colon. -/
  | classes (left right trailing : Text)
  /-- A member with its description and its new name. -/
  | member (description newName : Text)
  /-- A comment, with what follows the number sign. -/
  | comment (text : Text)
  /-- A blank line. -/
  | blank
deriving Repr, DecidableEq

/-- The text of an item. -/
def Item.text : Item → Text
  | classes left right trailing => left ++ (Record.arrow ++ (right ++ ':' :: trailing))
  | member description newName => description ++ (Record.arrow ++ newName)
  | comment text => '#' :: text
  | blank => []

/-- The record that an item stands for. -/
def Item.record? : Item → Option Record
  | classes left right _ => some (.classes left right)
  | member description newName => some (.member (description ++ (Record.arrow ++ newName)))
  | comment _ => some .comment
  | blank => none

/-- The items that can be **written** and read again. A name at the front of a line must not look
like a comment, and the description of a member must not hold an arrow. -/
def Item.IsWritable : Item → Prop
  | classes left right trailing =>
    IsName left ∧ left.head? ≠ some '#' ∧ IsName right ∧ '\n' ∉ trailing
  | member description newName =>
    description ≠ [] ∧ '\n' ∉ description ∧ description.IsTrimmed ∧
      description.head? ≠ some '#' ∧ ¬ Record.arrow <:+: description ∧ IsName newName
  | comment text => '\n' ∉ text
  | blank => True

instance : (item : Item) → Decidable item.IsWritable
  | .classes .. => inferInstanceAs (Decidable (_ ∧ _ ∧ _ ∧ _))
  | .member .. => inferInstanceAs (Decidable (_ ∧ _ ∧ _ ∧ _ ∧ _ ∧ _))
  | .comment _ => inferInstanceAs (Decidable (_ ∉ _))
  | .blank => inferInstanceAs (Decidable True)

/-- A **line** of a mapping file. -/
structure Line where
  /-- The blanks in front of the item. -/
  indent : Text
  /-- The item. -/
  item : Item
  /-- Whether a carriage return stands in front of the line feed. -/
  hasReturn : Bool
deriving Repr, DecidableEq

/-- The lines that can be **written** and read again. -/
structure Line.IsWritable (line : Line) : Prop where
  indent : ∀ c ∈ line.indent, Text.isBlank c = true ∧ c ≠ '\n'
  item : line.item.IsWritable

instance (line : Line) : Decidable line.IsWritable :=
  @decidable_of_iff _
    ((∀ c ∈ line.indent, Text.isBlank c = true ∧ c ≠ '\n') ∧ line.item.IsWritable)
    ⟨fun h => ⟨h.1, h.2⟩, fun h => ⟨h.indent, h.item⟩⟩
    (@instDecidableAnd _ _ (List.decidableBAll _ line.indent) inferInstance)

/-- The text of a line, with its ending. -/
def Line.render (line : Line) : Text :=
  line.indent ++ (line.item.text ++ if line.hasReturn then ['\r', '\n'] else ['\n'])

/-- The text of a mapping file. -/
def render (lines : List Line) : Text := lines.flatMap Line.render

/-! ## Reading what was written -/

variable {name indent description newName left right : Text} {item : Item} {line : Line}

/-- A name has no blanks around it. -/
theorem IsName.isTrimmed (h : IsName name) : name.IsTrimmed :=
  ⟨fun c hc => (h.2 c (List.mem_of_mem_head? hc)).1,
    fun c hc => (h.2 c (List.mem_of_mem_getLast? hc)).1⟩

/-- A name stays within its line. -/
theorem IsName.ne_newline (h : IsName name) {c : Char} (hc : c ∈ name) : c ≠ '\n' := by
  rintro rfl
  exact absurd (h.2 _ hc).1 (by simp)

/-- No written item holds a line feed. -/
theorem Item.newline_notMem_text (h : item.IsWritable) : '\n' ∉ item.text := by
  cases item with
  | classes left right trailing =>
    obtain ⟨hleft, -, hright, htrailing⟩ := h
    simp only [Item.text, List.mem_append, List.mem_cons, not_or]
    exact ⟨fun hmem => hleft.ne_newline hmem rfl, by simp [Record.arrow_eq],
      fun hmem => hright.ne_newline hmem rfl, by decide, htrailing⟩
  | member description newName =>
    obtain ⟨-, hline, -, -, -, hname⟩ := h
    simp only [Item.text, List.mem_append, not_or]
    exact ⟨hline, by simp [Record.arrow_eq], fun hmem => hname.ne_newline hmem rfl⟩
  | comment text =>
    rw [Item.text, List.mem_cons, not_or]
    exact ⟨by decide, h⟩
  | blank => exact List.not_mem_nil

/-- A class line is read as its two names. -/
theorem parse?_classes (hindent : ∀ c ∈ indent, Text.isBlank c = true) (hleft : IsName left)
    (hhash : left.head? ≠ some '#') (hright : IsName right) (trailing : Text) :
    Record.parse? (indent ++ (left ++ (Record.arrow ++ (right ++ ':' :: trailing)))) =
      some (.classes left right) := by
  have hbody : (left ++ (Record.arrow ++ right ++ [':'])).IsTrimmed :=
    hleft.isTrimmed.append_append hleft.1 (Text.isTrimmed_singleton (by decide)) (by simp) _
  have htrim : Text.trim (indent ++ (left ++ (Record.arrow ++ (right ++ ':' :: trailing)))) =
      left ++ (Record.arrow ++ (right ++ ':' :: Text.trimBack trailing)) := by
    have h := Text.trim_append_append hindent hbody (by simp) trailing
    simpa using h
  obtain ⟨c, rest, rfl⟩ := List.exists_cons_of_ne_nil hleft.1
  rw [Record.parse?, htrim, if_neg (by simp), if_neg (by simpa using hhash),
    Record.names?_classes (fun d hd => (hleft.2 d hd).1) hright.1
      fun d hd => ⟨(hright.2 d hd).2, hright.ne_newline hd⟩]

/-- A member line is read as a member. -/
theorem parse?_member (hindent : ∀ c ∈ indent, Text.isBlank c = true) (hne : description ≠ [])
    (htrimmed : description.IsTrimmed) (hhash : description.head? ≠ some '#')
    (harrow : ¬ Record.arrow <:+: description) (hname : IsName newName) :
    Record.parse? (indent ++ (description ++ (Record.arrow ++ newName))) =
      some (.member (description ++ (Record.arrow ++ newName))) := by
  have htrim : Text.trim (indent ++ (description ++ (Record.arrow ++ newName))) =
      description ++ (Record.arrow ++ newName) := by
    have h := Text.trim_append_append hindent
      (htrimmed.append_append hne hname.isTrimmed hname.1 Record.arrow)
      (by simp [hne]) []
    rwa [List.append_nil, Text.trimBack_nil, List.append_nil] at h
  have hnames : Record.names? (description ++ (Record.arrow ++ newName)) = none :=
    Record.names?_member harrow fun hmem => (hname.2 _ hmem).2 rfl
  obtain ⟨c, rest, rfl⟩ := List.exists_cons_of_ne_nil hne
  rw [Record.parse?, htrim, if_neg (by simp), if_neg (by simpa using hhash), hnames]

/-- A comment is read as a comment. -/
theorem parse?_comment (hindent : ∀ c ∈ indent, Text.isBlank c = true) (text : Text) :
    Record.parse? (indent ++ '#' :: text) = some .comment := by
  have htrim : Text.trim (indent ++ '#' :: text) = '#' :: Text.trimBack text :=
    Text.trim_append_append hindent (Text.isTrimmed_singleton (by decide)) (by simp) text
  rw [Record.parse?, htrim, if_neg (by simp), if_pos (by simp)]

/-- **A written item is read as the record it stands for**, whatever blanks stand in front. -/
theorem Item.parse?_text (h : item.IsWritable) (hindent : ∀ c ∈ indent, Text.isBlank c = true) :
    Record.parse? (indent ++ item.text) = item.record? := by
  cases item with
  | classes left right trailing =>
    obtain ⟨hleft, hhash, hright, -⟩ := h
    exact parse?_classes hindent hleft hhash hright trailing
  | member description newName =>
    obtain ⟨hne, -, htrimmed, hhash, harrow, hname⟩ := h
    exact parse?_member hindent hne htrimmed hhash harrow hname
  | comment text => exact parse?_comment hindent text
  | blank =>
    rw [Item.text, List.append_nil, Record.parse?_eq_none_iff.2 hindent]
    rfl

/-- Reading a written line and then the rest of the text. -/
theorem parseAll_line (h : line.IsWritable) (text : Text) :
    Record.parseAll (line.render ++ text) =
      line.item.record?.toList ++ Record.parseAll text := by
  have hbody : '\n' ∉ line.indent ++ line.item.text := by
    rw [List.mem_append, not_or]
    exact ⟨fun hmem => (h.indent _ hmem).2 rfl, Item.newline_notMem_text h.item⟩
  have hread := Item.parse?_text h.item fun c hc => (h.indent c hc).1
  cases hreturn : line.hasReturn with
  | false =>
    have hsplit : line.render ++ text = line.indent ++ line.item.text ++ '\n' :: text := by
      simp [Line.render, hreturn]
    rw [hsplit, Record.parseAll_append_newline hbody, hread]
  | true =>
    have hsplit : line.render ++ text =
        line.indent ++ line.item.text ++ ['\r'] ++ '\n' :: text := by
      simp [Line.render, hreturn]
    have hbody' : '\n' ∉ line.indent ++ line.item.text ++ ['\r'] := by
      rw [List.mem_append, not_or]
      exact ⟨hbody, by decide⟩
    rw [hsplit, Record.parseAll_append_newline hbody', Record.parse?_concat_return, hread]

/-- **Reading undoes writing.** A mapping file of writable lines, each with its own indentation and
line ending, is read as the records of its items, in their order. -/
theorem parseAll_render {lines : List Line} (h : ∀ line ∈ lines, line.IsWritable) :
    Record.parseAll (render lines) = lines.filterMap fun line => line.item.record? := by
  induction lines with
  | nil => rfl
  | cons line lines ih =>
    rw [render, List.flatMap_cons, ← render, parseAll_line (h line (by simp)),
      ih fun l hl => h l (by simp [hl])]
    cases hrecord : line.item.record? <;> simp [hrecord]

/-- A file with every kind of item. The description of its member ends in what could be the
beginning of an arrow. -/
def sampleLines : List Line :=
  [⟨[], .comment " compiler: R8".toList, true⟩, ⟨"\t".toList, .blank, false⟩,
    ⟨[], .classes "a.B".toList "c.d".toList " # d -> e:".toList, true⟩,
    ⟨"    ".toList, .member "1:4:void f(int):2:5 ->".toList "g".toList, false⟩]

/-- The sample is read as a comment, a class and a member. -/
theorem parseAll_render_sample :
    (∀ line ∈ sampleLines, line.IsWritable) ∧
      Record.parseAll (render sampleLines) =
        [.comment, .classes "a.B".toList "c.d".toList,
          .member "1:4:void f(int):2:5 -> -> g".toList] := by
  have h : ∀ line ∈ sampleLines, line.IsWritable := by decide +kernel
  refine ⟨h, ?_⟩
  rw [parseAll_render h]
  rfl

end MappingFile

end SourceRecovery
