import Mathlib.Data.List.TakeWhile
import SourceRecovery.Proofs.FileTree.Descent

/-! # Paths that end in a name

Every operation on a file tree enters the directory above the last name of its path and then does
its work at that name. For a path whose segments are a chain and a last name, each operation is
here the same two steps: **`enter`**, and what happens in the directory that was entered. -/

namespace SourceRecovery

namespace FileTree

variable {t : FileTree} {p : Path} {segments : List Text} {s : Text} {l m : Location}

/-- A name is not empty. -/
theorem IsName.ne_nil (h : IsName s) : s ≠ [] := by
  rintro rfl
  exact absurd h.1 (by decide)

/-- A name is neither of the two names made of dots. -/
theorem IsName.isDotName_eq_false (h : IsName s) : isDotName s = false := by
  have hdot : s ≠ ['.'] := by
    rintro rfl
    exact absurd h.1 (by decide)
  simp [isDotName, hdot, h.2]

/-- The last name of a path is told from the segments before it. -/
theorem splitLast?_eq (hp : p.segments = segments ++ [s]) (hs : s ≠ []) :
    p.splitLast? = some (segments, s) := by
  simp [Path.splitLast?, hp, hs]

/-- The last name of any path is followed by empty segments only. -/
theorem segments_of_splitLast? {segments : List Text} (h : p.splitLast? = some (segments, s)) :
    s ≠ [] ∧ ∃ slashes : List Text, (∀ a ∈ slashes, a = []) ∧
      p.segments = segments ++ s :: slashes := by
  rw [Path.splitLast?] at h
  split at h
  · cases h
  · next last up hlast =>
    obtain ⟨rfl, rfl⟩ : up.reverse = segments ∧ last = s := by simpa using h
    -- The slashes are the empty segments behind the last one that is not empty.
    have hne := List.head_dropWhile_not (fun a : Text => decide (a = []))
      (l := p.segments.reverse) (by rw [hlast]; simp)
    simp only [hlast, List.head_cons, decide_eq_false_iff_not] at hne
    refine ⟨hne, (p.segments.reverse.takeWhile (· = [])).reverse, ?_, ?_⟩
    · intro a ha
      rw [List.mem_reverse] at ha
      simpa using List.mem_takeWhile_imp ha
    · have hsplit := List.takeWhile_append_dropWhile (p := fun a : Text => decide (a = []))
        (l := p.segments.reverse)
      rw [hlast] at hsplit
      calc p.segments = p.segments.reverse.reverse := (List.reverse_reverse _).symm
        _ = (p.segments.reverse.takeWhile (· = []) ++ last :: up).reverse := by
            conv_lhs => rw [← hsplit]
        _ = up.reverse ++ last :: (p.segments.reverse.takeWhile (· = [])).reverse := by simp

/-- Following one name from a directory. -/
theorem follow_name (hs : IsName s) (m : Location) :
    t.follow m [s] =
      if t.hasDirectory m then
        if Path.nameIsTooLong s then .error .nameTooLong
        else if (t.node? (m ++ [s])).isSome then .ok (m ++ [s]) else .error .missing
      else .error .notDirectory := by
  by_cases hm : t.hasDirectory m = true
  · rw [follow_cons_of_directory (hasDirectory_iff.1 hm), if_neg (by simp [hs.1]), if_neg hs.2,
      if_pos hm]
    rfl
  · rw [follow, if_pos (by simpa using hm), if_neg hm]

/-- **Resolving** a path enters a directory and looks for the last name there. -/
theorem resolve_eq (hc : p.check = .ok ()) (hp : p.segments = segments ++ [s]) (hs : IsName s) :
    t.resolve p = (t.enter (t.startOf p) segments).bind fun m =>
      if Path.nameIsTooLong s then .error .nameTooLong
      else if (t.node? (m ++ [s])).isSome then .ok (m ++ [s]) else .error .missing := by
  rw [resolve, hc, hp]
  show t.follow _ _ = _
  rw [follow_append, enter]
  cases t.follow (t.startOf p) segments with
  | error e => rfl
  | ok m =>
    show t.follow m [s] = Except.bind (if _ then _ else _) _
    rw [follow_name hs]
    by_cases hm : t.hasDirectory m = true
    · rw [if_pos hm, if_pos hm]
      rfl
    · rw [if_neg hm, if_neg hm]
      rfl

/-- Only a path that is not refused leads anywhere. -/
theorem check_of_resolve (h : t.resolve p = .ok l) : p.check = .ok () := by
  rw [resolve] at h
  cases hc : p.check with
  | error e => rw [hc] at h; cases h
  | ok _ => rfl

/-- **A path leads somewhere** exactly if it is not refused, its last name is short enough, and
something of that name is in the directory that is entered. -/
theorem resolve_eq_ok_iff (hp : p.segments = segments ++ [s]) (hs : IsName s) :
    t.resolve p = .ok l ↔ p.check = .ok () ∧ Path.nameIsTooLong s = false ∧
      ∃ m, t.enter (t.startOf p) segments = .ok m ∧ l = m ++ [s] ∧ (t.node? l).isSome := by
  constructor
  · intro h
    have hc := check_of_resolve h
    rw [resolve_eq hc hp hs] at h
    cases he : t.enter (t.startOf p) segments with
    | error e => rw [he] at h; cases h
    | ok m =>
      rw [he] at h
      simp only [Except.bind] at h
      split_ifs at h with hlong hsome
      obtain rfl := Except.ok.inj h
      exact ⟨hc, by simpa using hlong, m, rfl, rfl, hsome⟩
  · rintro ⟨hc, hlong, m, he, rfl, hsome⟩
    rw [resolve_eq hc hp hs, he]
    show (if _ then _ else if _ then _ else _) = _
    rw [if_neg (by simp [hlong]), if_pos hsome]

/-- **Making a directory** enters a directory and puts a new one there, if the place is free. -/
theorem makeDirectory_eq (hc : p.check = .ok ()) (hp : p.segments = segments ++ [s])
    (hs : IsName s) :
    t.makeDirectory p = (t.enter (t.startOf p) segments).bind fun m =>
      if Path.nameIsTooLong s then .error .nameTooLong
      else if (t.node? (m ++ [s])).isSome then .error .alreadyExists
      else .ok (t.put (m ++ [s]) .directory) := by
  rw [makeDirectory, hc, splitLast?_eq hp hs.ne_nil]
  show (t.resolveDirectory p segments).bind _ = _
  rw [resolveDirectory_eq_enter]
  congr 1
  funext m
  rw [if_neg (by simp [hs.isDotName_eq_false])]
  cases t.node? (m ++ [s]) <;> rfl

/-- The place of the last name of a path. -/
theorem resolveLast_eq (hc : p.check = .ok ()) (hp : p.segments = segments ++ [s])
    (hs : IsName s) :
    t.resolveLast p = (t.enter (t.startOf p) segments).bind fun m => .ok (m, some s) := by
  rw [resolveLast, hc, splitLast?_eq hp hs.ne_nil]
  show (t.resolveDirectory p segments).bind _ = _
  rw [resolveDirectory_eq_enter]
  congr 1
  funext m
  rw [if_neg (by simp [hs.isDotName_eq_false])]

/-- A path that is refused has no last name. -/
theorem resolveLast_of_check {e : IoError} (hc : p.check = .error e) :
    t.resolveLast p = .error e := by
  rw [resolveLast, hc]
  rfl

/-- Where a path leads to something, no directory can be made. -/
theorem makeDirectory_of_resolve (h : t.resolve p = .ok l) :
    t.makeDirectory p = .error .alreadyExists := by
  have hc := check_of_resolve h
  rw [resolve, hc] at h
  replace h : t.follow (t.startOf p) p.segments = .ok l := h
  rw [makeDirectory, hc]
  cases hlast : p.splitLast? with
  | none => rfl
  | some last =>
    obtain ⟨segments, s⟩ := last
    obtain ⟨hne, slashes, hslashes, hp⟩ := segments_of_splitLast? hlast
    show (t.resolveDirectory p segments).bind _ = _
    -- The path has been followed to its last name, and on from there.
    rw [hp, follow_append] at h
    rw [resolveDirectory_eq_enter, enter]
    cases hf : t.follow (t.startOf p) segments with
    | error e => rw [hf] at h; cases h
    | ok m =>
      rw [hf] at h
      replace h : t.follow m (s :: slashes) = .ok l := h
      by_cases hm : t.hasDirectory m = true
      · show Except.bind (if t.hasDirectory m then _ else _) _ = _
        rw [if_pos hm]
        show (if isDotName s then _ else _) = _
        split_ifs with hdot hlong
        · rfl
        · -- A name that is too long would not have been followed.
          rw [follow_cons_of_directory (hasDirectory_iff.1 hm)] at h
          simp only [isDotName, Bool.or_eq_true, decide_eq_true_eq, not_or] at hdot
          simp [Path.isIdle, hne, hdot.1, hdot.2, hlong] at h
        · rw [follow_cons_of_directory (hasDirectory_iff.1 hm)] at h
          simp only [isDotName, Bool.or_eq_true, decide_eq_true_eq, not_or] at hdot
          cases hn : t.node? (m ++ [s]) with
          | none => simp [Path.isIdle, hne, hdot.1, hdot.2, hlong, hn] at h
          | some n => rfl
      · rw [follow, if_pos (by simpa using hm)] at h
        cases h

/-- A path leads to a directory where it is resolved to one. -/
theorem isDirectory_iff :
    t.isDirectory p = true ↔ ∃ l, t.resolve p = .ok l ∧ t.node? l = some .directory := by
  rw [isDirectory, nodeAt?]
  cases t.resolve p with
  | error e => simp
  | ok l => simp

/-- A path leads to a regular file where it is resolved to one. -/
theorem isFile_iff :
    t.isFile p = true ↔ ∃ l b, t.resolve p = .ok l ∧ t.node? l = some (.file b) := by
  rw [isFile, nodeAt?]
  cases t.resolve p with
  | error e => simp
  | ok l =>
    cases hn : t.node? l with
    | none => simp [hn]
    | some n => cases n <;> simp [hn]

end FileTree

end SourceRecovery
