import SourceRecovery.Proofs.FileTree.Closed

/-! # Going down a chain of directories

A path in front of its last name leads through a chain of directories. **`FileTree.enter`** goes
down that chain. When the names on it are plain, what stands in the way is the first name that is
too long or the first place that is taken by something else than a directory: the **obstacle**
(`FileTree.obstacle?`). The places in front of the obstacle (`FileTree.passable`) are directories
or can be made directories.

* **`enter_cases`** — in a closed tree, going down succeeds, meets the obstacle, or comes to a
  place where nothing is, and below which nothing is.
* **`passable_concat`**, **`obstacle?_concat`** — a chain that is one name longer. -/

namespace SourceRecovery

namespace FileTree

variable {t u : FileTree} {l m : Location} {s : Text} {p q ns : List Text}

/-- Goes down from a location along the segments of a path, to a directory. -/
def enter (t : FileTree) (l : Location) (segments : List Text) : Except IoError Location :=
  (t.follow l segments).bind fun m => if t.hasDirectory m then .ok m else .error .notDirectory

/-- The directory above the last name of a path is the one entered by the segments before it. -/
theorem resolveDirectory_eq_enter (t : FileTree) (p : Path) (segments : List Text) :
    t.resolveDirectory p segments = t.enter (t.startOf p) segments := rfl

/-- Entering a longer path goes on from where its first part leads. -/
theorem enter_append (t : FileTree) (l : Location) (p q : List Text) :
    t.enter l (p ++ q) = (t.follow l p).bind fun m => t.enter m q := by
  rw [enter, follow_append]
  cases t.follow l p <;> rfl

/-- Whether there is a directory is seen from the node. -/
theorem hasDirectory_iff : t.hasDirectory l = true ↔ t.node? l = some .directory := by
  simp [hasDirectory]

/-- What has been entered has been followed to a directory. -/
theorem of_enter_eq_ok (h : t.enter l p = .ok m) :
    t.follow l p = .ok m ∧ t.node? m = some .directory := by
  rw [enter] at h
  cases hf : t.follow l p with
  | error e => rw [hf] at h; cases h
  | ok m' =>
    rw [hf] at h
    simp only [Except.bind] at h
    split_ifs at h with hd
    obtain rfl := Except.ok.inj h
    exact ⟨rfl, hasDirectory_iff.1 hd⟩

@[simp] theorem enter_nil (h : t.node? l = some .directory) : t.enter l [] = .ok l := by
  simp [enter, follow, Except.bind, hasDirectory_iff.2 h]

/-- Nothing is entered from what is no directory. -/
theorem enter_of_ne_directory (h : t.node? l ≠ some .directory) (p : List Text) :
    t.enter l p = .error .notDirectory := by
  have hf : t.hasDirectory l = false := by
    rw [← Bool.not_eq_true, hasDirectory_iff]
    exact h
  cases p with
  | nil => simp [enter, follow, Except.bind, hf]
  | cons s p => simp [enter, follow, Except.bind, hf]

/-- One segment is followed from a directory. -/
theorem follow_cons_of_directory (h : t.node? l = some .directory) (s : Text) (p : List Text) :
    t.follow l (s :: p) =
      if Path.isIdle s then t.follow l p
      else if s = ['.', '.'] then t.follow l.dropLast p
      else if Path.nameIsTooLong s then .error .nameTooLong
      else if (t.node? (l ++ [s])).isSome then t.follow (l ++ [s]) p else .error .missing := by
  rw [follow, hasDirectory_iff.2 h, if_neg (by simp)]
  cases t.node? (l ++ [s]) <;> rfl

/-- An idle segment leads nowhere. -/
theorem enter_cons_idle (h : Path.isIdle s = true) (p : List Text) :
    t.enter l (s :: p) = t.enter l p := by
  by_cases hd : t.node? l = some .directory
  · rw [enter, follow_cons_of_directory hd, if_pos h, ← enter]
  · rw [enter_of_ne_directory hd, enter_of_ne_directory hd]

/-- Idle segments may be left out. -/
theorem enter_filter (t : FileTree) (l : Location) (p : List Text) :
    t.enter l p = t.enter l (p.filter fun s => !Path.isIdle s) := by
  induction p generalizing l with
  | nil => rfl
  | cons s p ih =>
    by_cases hs : Path.isIdle s = true
    · rw [enter_cons_idle hs, ih, List.filter_cons_of_neg (by simp [hs])]
    · rw [List.filter_cons_of_pos (by simp [hs])]
      by_cases hd : t.node? l = some .directory
      · rw [enter, enter, follow_cons_of_directory hd, follow_cons_of_directory hd, if_neg hs,
          if_neg hs]
        split_ifs
        · exact ih _
        · rfl
        · exact ih _
        · rfl
      · rw [enter_of_ne_directory hd, enter_of_ne_directory hd]

/-- A segment that is the name of a file or directory, not one that stays or goes up. -/
def IsName (s : Text) : Prop := Path.isIdle s = false ∧ s ≠ ['.', '.']

/-- From a directory, a name leads to the node of that name, if it has one and is not too long. -/
theorem enter_cons_name (h : t.node? l = some .directory) (hs : IsName s) (p : List Text) :
    t.enter l (s :: p) =
      if Path.nameIsTooLong s then .error .nameTooLong
      else if (t.node? (l ++ [s])).isSome then t.enter (l ++ [s]) p else .error .missing := by
  rw [enter, follow_cons_of_directory h, if_neg (by simp [hs.1]), if_neg hs.2]
  split_ifs <;> rfl

/-- A longer location is above no shorter one. -/
theorem not_concat_isPrefix (l : Location) (s : Text) : ¬ l ++ [s] <+: l := by
  intro h
  have := h.length_le
  rw [List.length_append, List.length_singleton] at this
  omega

/-- The first place of a chain lies on the way to its end. -/
theorem concat_isPrefix (l : Location) (s : Text) (ns : List Text) : l ++ [s] <+: l ++ s :: ns :=
  ⟨ns, by simp⟩

/-! ## The obstacle on a chain of names -/

/-- The places on the way down a chain of names, in front of the first obstacle. -/
def passable (t : FileTree) (l : Location) : List Text → List Location
  | [] => []
  | s :: ns =>
    if Path.nameIsTooLong s ∨ t.Blocks (l ++ [s]) then []
    else (l ++ [s]) :: t.passable (l ++ [s]) ns

/-- The first **obstacle** on the way down a chain of names, as the failure to make the last
directory of the chain. -/
def obstacle? (t : FileTree) (l : Location) : List Text → Option IoError
  | [] => none
  | s :: ns =>
    if Path.nameIsTooLong s then some .nameTooLong
    else if t.Blocks (l ++ [s]) then some (if ns = [] then .alreadyExists else .notDirectory)
    else t.obstacle? (l ++ [s]) ns

/-- What an obstacle is for someone who wants to go past it. -/
def passedBy : IoError → IoError
  | .alreadyExists => .notDirectory
  | e => e

/-- The places on a chain lie on the way from its beginning to its end. -/
theorem mem_passable {k : Location} (h : k ∈ t.passable l ns) :
    l <+: k ∧ k ≠ l ∧ k <+: l ++ ns ∧ ¬ t.Blocks k := by
  induction ns generalizing l with
  | nil => simp [passable] at h
  | cons s ns ih =>
    rw [passable] at h
    split_ifs at h with hs
    · simp at h
    · rw [List.mem_cons] at h
      have hcat : l ++ s :: ns = l ++ [s] ++ ns := by simp
      rcases h with rfl | h
      · exact ⟨List.prefix_append .., by simp, concat_isPrefix l s ns, fun hb => hs (.inr hb)⟩
      · obtain ⟨hl, hne, hk, hb⟩ := ih h
        refine ⟨(List.prefix_append ..).trans hl, ?_, by rwa [hcat], hb⟩
        rintro rfl
        exact not_concat_isPrefix _ _ hl

/-- Where no name is too long and nothing blocks, the whole way is passable. -/
theorem mem_passable_of_obstacle?_eq_none (h : t.obstacle? l ns = none) {k : Location}
    (hl : l <+: k) (hne : k ≠ l) (hk : k <+: l ++ ns) : k ∈ t.passable l ns := by
  induction ns generalizing l with
  | nil =>
    rw [List.append_nil] at hk
    exact absurd (hk.eq_of_length_le hl.length_le) hne
  | cons s ns ih =>
    rw [obstacle?] at h
    split_ifs at h with h1 h2
    rw [passable, if_neg (by simp [h1, h2]), List.mem_cons]
    by_cases hks : k = l ++ [s]
    · exact .inl hks
    · refine .inr (ih h ?_ hks (by simpa using hk))
      obtain ⟨d, rfl⟩ := hl
      rw [List.prefix_append_right_inj] at hk ⊢
      cases d with
      | nil => simp at hne
      | cons c d =>
        rw [List.cons_prefix_cons] at hk
        rw [hk.1]
        simp

/-- Only what blocks the places of a chain matters for the way down. -/
theorem passable_congr (h : ∀ k, l <+: k → k ≠ l → k <+: l ++ ns → (t.Blocks k ↔ u.Blocks k)) :
    t.passable l ns = u.passable l ns := by
  induction ns generalizing l with
  | nil => rfl
  | cons s ns ih =>
    have hcat : l ++ s :: ns = l ++ [s] ++ ns := by simp
    have hs := h (l ++ [s]) (List.prefix_append ..) (by simp) (concat_isPrefix l s ns)
    rw [passable, passable, ih fun k h1 h2 h3 => ?_]
    · simp only [hs]
    · refine h k ((List.prefix_append ..).trans h1) ?_ (by rwa [hcat])
      rintro rfl
      exact not_concat_isPrefix _ _ h1

/-- Only what blocks the places of a chain matters for its obstacle. -/
theorem obstacle?_congr (h : ∀ k, l <+: k → k ≠ l → k <+: l ++ ns → (t.Blocks k ↔ u.Blocks k)) :
    t.obstacle? l ns = u.obstacle? l ns := by
  induction ns generalizing l with
  | nil => rfl
  | cons s ns ih =>
    have hcat : l ++ s :: ns = l ++ [s] ++ ns := by simp
    have hs := h (l ++ [s]) (List.prefix_append ..) (by simp) (concat_isPrefix l s ns)
    rw [obstacle?, obstacle?, ih fun k h1 h2 h3 => ?_]
    · simp only [hs]
    · refine h k ((List.prefix_append ..).trans h1) ?_ (by rwa [hcat])
      rintro rfl
      exact not_concat_isPrefix _ _ h1

/-- A chain with one more name is passable one place further, if nothing is in the way. -/
theorem passable_concat (t : FileTree) (l : Location) (ns : List Text) (s : Text) :
    t.passable l (ns ++ [s]) =
      if t.obstacle? l ns = none ∧ ¬ Path.nameIsTooLong s ∧ ¬ t.Blocks (l ++ ns ++ [s]) then
        t.passable l ns ++ [l ++ ns ++ [s]]
      else t.passable l ns := by
  induction ns generalizing l with
  | nil =>
    simp only [List.nil_append, passable, obstacle?, List.append_nil, true_and, ← not_or]
    split_ifs <;> rfl
  | cons a ns ih =>
    have hcat : l ++ a :: ns ++ [s] = l ++ [a] ++ ns ++ [s] := by simp
    rw [List.cons_append, passable, passable, obstacle?, ih, hcat]
    by_cases ha : Path.nameIsTooLong a = true
    · simp [ha]
    · by_cases hb : t.Blocks (l ++ [a])
      · simp [ha, hb]
      · simp only [ha, hb]
        split_ifs <;> simp_all

/-- A chain with one more name has the obstacle of the shorter chain, or one at the new name. -/
theorem obstacle?_concat (t : FileTree) (l : Location) (ns : List Text) (s : Text) :
    t.obstacle? l (ns ++ [s]) =
      match t.obstacle? l ns with
      | some e => some (passedBy e)
      | none =>
        if Path.nameIsTooLong s then some .nameTooLong
        else if t.Blocks (l ++ ns ++ [s]) then some .alreadyExists
        else none := by
  induction ns generalizing l with
  | nil => simp [obstacle?]
  | cons a ns ih =>
    have hcat : l ++ a :: ns ++ [s] = l ++ [a] ++ ns ++ [s] := by simp
    rw [List.cons_append, obstacle?, obstacle?, ih, hcat]
    by_cases ha : Path.nameIsTooLong a = true
    · simp [ha, passedBy]
    · by_cases hb : t.Blocks (l ++ [a])
      · rw [if_neg ha, if_pos hb, if_neg ha, if_pos hb]
        split_ifs <;> simp_all [passedBy]
      · rw [if_neg ha, if_neg hb, if_neg ha, if_neg hb]

/-- Where nothing is, only a name can be an obstacle. -/
theorem obstacle?_of_free (h : ∀ k, l <+: k → k ≠ l → t.node? k = none) (ns : List Text) :
    t.obstacle? l ns = none ∨ t.obstacle? l ns = some .nameTooLong := by
  induction ns generalizing l with
  | nil => exact .inl rfl
  | cons s ns ih =>
    rw [obstacle?]
    have hs : t.node? (l ++ [s]) = none := h _ (List.prefix_append ..) (by simp)
    rw [if_neg (by simp [Blocks, hs] : ¬ t.Blocks (l ++ [s]))]
    split_ifs
    · exact .inr rfl
    · refine ih fun k hk hne => h k ((List.prefix_append ..).trans hk) ?_
      rintro rfl
      exact not_concat_isPrefix _ _ hk

/-- A chain that ends in a directory and has short names has no obstacle. -/
theorem obstacle?_eq_none (ht : t.IsClosed) (hd : t.node? (l ++ ns) = some .directory)
    (hs : ∀ s ∈ ns, Path.nameIsTooLong s = false) : t.obstacle? l ns = none := by
  induction ns generalizing l with
  | nil => rfl
  | cons s ns ih =>
    have hcat : l ++ s :: ns = l ++ [s] ++ ns := by simp
    rw [hcat] at hd
    -- What is above the end of the chain is a directory as well.
    have hdir : t.node? (l ++ [s]) = some .directory := by
      rcases eq_or_ne ns [] with rfl | hne
      · simpa using hd
      · exact ht.directory_above hne (by rw [hd]; rfl)
    rw [obstacle?, if_neg (by simp [hs s]), if_neg fun hb => hb.2 hdir]
    exact ih hd fun a ha => hs a (by simp [ha])

/-- **Going down a chain of names** in a closed tree either ends in the last directory, all
places of the chain being directories, or it comes to a free place, or it meets the obstacle. -/
theorem enter_cases (ht : t.IsClosed) (hl : t.node? l = some .directory)
    (hns : ∀ s ∈ ns, IsName s) :
    (t.enter l ns = .ok (l ++ ns) ∧ t.node? (l ++ ns) = some .directory ∧
        (∀ s ∈ ns, Path.nameIsTooLong s = false) ∧ t.obstacle? l ns = none ∧
        ∀ k ∈ t.passable l ns, (t.node? k).isSome) ∨
      (t.enter l ns = .error .missing ∧ t.node? (l ++ ns) = none ∧
        (t.obstacle? l ns = none ∨ t.obstacle? l ns = some .nameTooLong)) ∨
      ∃ e, t.enter l ns = .error (passedBy e) ∧ t.obstacle? l ns = some e ∧ passedBy e ≠ .missing ∧
        ∀ k ∈ t.passable l ns, (t.node? k).isSome := by
  induction ns generalizing l with
  | nil =>
    left
    simp [hl, passable, obstacle?]
  | cons s ns ih =>
    have hs : IsName s := hns s (by simp)
    have hcat : l ++ s :: ns = l ++ [s] ++ ns := by simp
    rw [enter_cons_name hl hs, obstacle?, passable, hcat]
    -- The first name is too long, leads to a directory, is free, or is taken by something else.
    by_cases hlong : Path.nameIsTooLong s = true
    · refine .inr (.inr ⟨.nameTooLong, ?_, ?_, by simp [passedBy], ?_⟩) <;> simp [hlong, passedBy]
    · by_cases hd : t.node? (l ++ [s]) = some .directory
      · have hb : ¬ t.Blocks (l ++ [s]) := fun hb => hb.2 hd
        have hsome : (t.node? (l ++ [s])).isSome = true := by rw [hd]; rfl
        have hrest := ih hd fun a ha => hns a (by simp [ha])
        simp only [hlong, hb, hsome, if_true, if_false, Bool.false_eq_true, or_self, List.mem_cons,
          forall_eq_or_imp, true_and]
        simpa using hrest
      · by_cases hnone : t.node? (l ++ [s]) = none
        · -- Nothing lies below a free place, so only a long name further down is an obstacle.
          right; left
          have hb : ¬ t.Blocks (l ++ [s]) := by simp [Blocks, hnone]
          have hfree : ∀ k, l ++ [s] <+: k → k ≠ l ++ [s] → t.node? k = none := by
            rintro k ⟨d, rfl⟩ hne
            exact ht.node?_below hd (by rintro rfl; simp at hne)
          refine ⟨by simp [hlong, hnone], ?_, ?_⟩
          · rcases eq_or_ne ns [] with rfl | hne
            · simpa using hnone
            · exact ht.node?_below hd hne
          · rw [if_neg hlong, if_neg hb]
            exact obstacle?_of_free hfree ns
        · right; right
          have hsome : (t.node? (l ++ [s])).isSome := Option.isSome_iff_ne_none.2 hnone
          have hb : t.Blocks (l ++ [s]) := ⟨hsome, hd⟩
          refine ⟨if ns = [] then .alreadyExists else .notDirectory, ?_, ?_, ?_, ?_⟩
          · rw [if_neg hlong, if_pos hsome, enter_of_ne_directory hd]
            split_ifs <;> rfl
          · rw [if_neg hlong, if_pos hb]
          · split_ifs <;> simp [passedBy]
          · simp [hb]

/-- A chain is entered exactly if its end is a directory and all its names are short enough. -/
theorem enter_eq_ok_iff (ht : t.IsClosed) (hl : t.node? l = some .directory)
    (hns : ∀ s ∈ ns, IsName s) :
    t.enter l ns = .ok m ↔
      m = l ++ ns ∧ t.node? (l ++ ns) = some .directory ∧
        ∀ s ∈ ns, Path.nameIsTooLong s = false := by
  rcases enter_cases ht hl hns with ⟨h, hd, hs, -⟩ | ⟨h, hn, -⟩ | ⟨e, h, ho, -, hp⟩
  · rw [h, Except.ok.injEq]
    exact ⟨fun hm => ⟨hm.symm, hd, hs⟩, fun hm => hm.1.symm⟩
  · simp [h, hn]
  · rw [h]
    refine ⟨fun hm => by simp at hm, ?_⟩
    rintro ⟨-, hd, hs⟩
    rw [obstacle?_eq_none ht hd hs] at ho
    exact absurd ho (by simp)

end FileTree

end SourceRecovery
