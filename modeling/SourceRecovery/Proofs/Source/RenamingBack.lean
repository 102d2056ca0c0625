import SourceRecovery.Proofs.Source.Exchange

/-! # Renaming back

Renaming exchanges the name in the first declaration. If the new name was declared nowhere, that
declaration is afterwards the first one of the new name, and renaming in the other direction finds
it again.

* **`rename_rename`** — renaming to a name and back leaves the text.
* **`renamed_bind_renamed`** — so do the two calls, one after the other, unless the name that one
  of them looks for is too long: that call is refused. -/

namespace SourceRecovery

namespace Declaration

variable {name newName t : Text}

/-- The text that a renaming within a limit gives back, whether or not it has found a
declaration. -/
def renamed (limit : Nat) (name newName t : Text) : Except Error Text :=
  (tryRenameWithin? limit name newName t).map fun found => found.getD t

/-- Whether a renaming is refused depends on the name it looks for alone. -/
theorem renamed_eq (limit : Nat) (name newName t : Text) :
    renamed limit name newName t =
      if isLongerThan limit name then .error .nameTooLong else .ok (rename name newName t) :=
  map_tryRenameWithin? limit id name newName t

/-- **Renaming to a name that is declared nowhere, and back, leaves the text.** -/
theorem rename_rename (hname : name.IsSolid) (hnew : newName.IsSolid)
    (hnone : Text.search (at? newName) t = none) :
    rename newName name (rename name newName t) = t := by
  cases hfirst : Text.search (at? name) t with
  | none => rw [rename_of_search_eq_none hfirst, rename_of_search_eq_none hnone]
  | some found =>
    obtain ⟨before, head, after⟩ := found
    obtain ⟨hdecl, -⟩ := (search_at?_eq_some_iff hname).1 hfirst
    -- The renamed declaration is the first one of the new name.
    have hagain := search_at?_renamed hname hnew hfirst hnone
    rw [rename_of_search_eq_some hfirst, rename_of_search_eq_some hagain, ← hdecl.text]

/-- Two renamings one after the other: the first one refused, or the second one, or neither. -/
theorem renamed_bind_renamed (limit : Nat) (hname : name.IsSolid) (hnew : newName.IsSolid)
    (hnone : Text.search (at? newName) t = none) :
    (renamed limit name newName t).bind (renamed limit newName name) =
      if isLongerThan limit name || isLongerThan limit newName then .error .nameTooLong
      else .ok t := by
  have hback := rename_rename hname hnew hnone
  rw [renamed_eq]
  cases hlong : isLongerThan limit name with
  | true => rfl
  | false =>
    have hsecond := renamed_eq limit newName name (rename name newName t)
    rw [hback] at hsecond
    exact hsecond

/-- **Renaming can be undone.** Let a name and a new name be solid, and let a text have no site of
the new name. Then renaming to the new name and back to the old one leaves the text, whether or not
it declares the old name. The calls do the same if both names are within the limit on their length,
whatever that is. A name beyond it is refused by the call that looks for it: the old name by the
first one, the new name by the second one. -/
theorem rename_undo (limit : Nat) (hname : name.IsSolid) (hnew : newName.IsSolid)
    (hnone : ∀ b k w a, ¬ IsSite newName t b k w a) :
    rename newName name (rename name newName t) = t ∧
      (renamed limit name newName t).bind (renamed limit newName name) =
        if isLongerThan limit name || isLongerThan limit newName then .error .nameTooLong
        else .ok t := by
  have hsearch := search_at?_eq_none_iff_isSite.2 hnone
  exact ⟨rename_rename hname hnew hsearch, renamed_bind_renamed limit hname hnew hsearch⟩

/-- A name with a dollar sign and a new name with a hyphen, in a text that declares a longer name
which begins with the new one: the renaming changes the text, and the other one restores it. -/
theorem rename_undo_hyphenatedName :
    Text.IsSolid "$a".toList ∧ Text.IsSolid "x-y".toList ∧
      (∀ b k w a, ¬ IsSite "x-y".toList "class x-yz {} enum  $a { $a }".toList b k w a) ∧
      rename "$a".toList "x-y".toList "class x-yz {} enum  $a { $a }".toList =
        "class x-yz {} enum  x-y { $a }".toList ∧
      (renamed nameLimit "$a".toList "x-y".toList "class x-yz {} enum  $a { $a }".toList).bind
          (renamed nameLimit "x-y".toList "$a".toList) =
        .ok "class x-yz {} enum  $a { $a }".toList := by
  have hname : Text.IsSolid "$a".toList := by decide +kernel
  have hnew : Text.IsSolid "x-y".toList := by decide +kernel
  have hnone : ∀ b k w a,
      ¬ IsSite "x-y".toList "class x-yz {} enum  $a { $a }".toList b k w a :=
    search_at?_eq_none_iff_isSite.1 (by decide +kernel)
  exact ⟨hname, hnew, hnone, by decide +kernel, (rename_undo nameLimit hname hnew hnone).2⟩

/-! ## Names that are too long -/

/-- A text shorter than a name has no site of it. -/
theorem not_isSite_of_length_lt (hlt : t.length < name.length) (b k w a : Text) :
    ¬ IsSite name t b k w a := by
  intro h
  have hlen := congrArg List.length h.text
  simp only [List.length_append] at hlen
  omega

/-- A name of more letters than a limit allows. -/
theorem isLongerThan_replicate {limit n : Nat} (hn : limit < n) :
    isLongerThan limit (List.replicate n 'b') = true := by
  have hlen : ∀ n, Text.utf8Length (List.replicate n 'b') = n := by
    intro n
    induction n with
    | zero => rfl
    | succ n ih =>
      rw [List.replicate_succ, Text.utf8Length_cons, ih, Nat.add_comm]
      rfl
  rw [isLongerThan, hlen]
  exact decide_eq_true hn

/-- The names of at least one letter `b` are solid. -/
theorem isSolid_replicate {n : Nat} (hn : 0 < n) : Text.IsSolid (List.replicate n 'b') := by
  refine ⟨fun c hc => ?_, ?_⟩
  · rw [List.eq_of_mem_replicate hc]
    decide
  · rw [List.getLast?_replicate, if_neg (by omega)]
    decide +kernel

/-- **A renaming to a name that is too long cannot be undone**, even where it leaves the text: the
call that looks for the new name is refused. -/
theorem renamed_bind_renamed_tooLong :
    Text.IsSolid "a".toList ∧ Text.IsSolid (List.replicate 400000 'b') ∧
      (∀ b k w a, ¬ IsSite (List.replicate 400000 'b') "class c {}".toList b k w a) ∧
      (renamed nameLimit "a".toList (List.replicate 400000 'b') "class c {}".toList).bind
          (renamed nameLimit (List.replicate 400000 'b') "a".toList) = .error .nameTooLong ∧
      (.error .nameTooLong : Except Error Text) ≠ .ok "class c {}".toList := by
  have hname : Text.IsSolid "a".toList := by decide +kernel
  have hnew : Text.IsSolid (List.replicate 400000 'b') := isSolid_replicate (by decide)
  have hnone : ∀ b k w a,
      ¬ IsSite (List.replicate 400000 'b') "class c {}".toList b k w a :=
    not_isSite_of_length_lt (by rw [List.length_replicate]; decide)
  refine ⟨hname, hnew, hnone, ?_, by simp⟩
  rw [renamed_bind_renamed nameLimit hname hnew (search_at?_eq_none_iff_isSite.2 hnone),
    isLongerThan_replicate (by decide), Bool.or_true, if_pos rfl]

end Declaration

end SourceRecovery
