import SourceRecovery.Proofs.FileTree.Reach

/-! # The contents of a file

Reading and writing at any path, whether or not it reaches a name along a chain of names.

* **`exists_name_of_resolve`** — a path that leads to something else than a directory ends in a
  name.
* **`put_of_node?`** — putting a node where it is leaves the tree.
* **`write_eq`** — what can be resolved can be written, unless it is a directory.
* **`read_of_write`** — what is written to a regular file is read back. -/

namespace SourceRecovery

namespace FileTree

variable {t u : FileTree} {p : Path} {l : Location} {segments : List Text} {s : Text}
  {contents : Bytes} {n : Node}

/-- The directory above a directory of a closed tree is a directory. -/
theorem IsClosed.directory_dropLast (ht : t.IsClosed) (hl : t.node? l = some .directory) :
    t.node? l.dropLast = some .directory := by
  rcases List.eq_nil_or_concat l with rfl | ⟨m, s, rfl⟩
  · exact hl
  · rw [List.concat_eq_append, List.dropLast_concat]
    rw [List.concat_eq_append] at hl
    exact ht m s (by rw [hl]; rfl)

/-- **A path ends in a name** if it leads to something else than a directory. -/
theorem exists_name_of_resolve (ht : t.IsClosed) (h : t.resolve p = .ok l)
    (hl : t.node? l ≠ some .directory) : ∃ segments s, p.segments = segments ++ [s] ∧ IsName s := by
  obtain ⟨segments, s, hp⟩ : ∃ segments s, p.segments = segments ++ [s] := by
    rcases List.eq_nil_or_concat p.segments with hnil | ⟨segments, s, hp⟩
    · exact absurd hnil (Path.segments_ne_nil p)
    · exact ⟨segments, s, by rw [hp, List.concat_eq_append]⟩
  refine ⟨segments, s, hp, ?_⟩
  rw [resolve, check_of_resolve h] at h
  replace h : t.follow (t.startOf p) p.segments = .ok l := h
  rw [hp, follow_append] at h
  cases hf : t.follow (t.startOf p) segments with
  | error e => rw [hf] at h; cases h
  | ok m =>
    rw [hf] at h
    replace h : t.follow m [s] = .ok l := h
    by_cases hm : t.node? m = some .directory
    · -- An idle segment and two dots lead from a directory to a directory.
      rw [follow_cons_of_directory hm] at h
      split_ifs at h with hidle hdots
      · obtain rfl := Except.ok.inj h
        exact absurd hm hl
      · obtain rfl := Except.ok.inj h
        exact absurd (ht.directory_dropLast hm) hl
      · exact ⟨by simpa using hidle, hdots⟩
    · rw [follow, if_pos (by simpa [hasDirectory] using hm)] at h
      cases h

/-- Putting a node where it is leaves the entries as they are. -/
theorem putEntry_of_lookup {es : List (Location × Node)} (h : es.lookup l = some n) :
    putEntry l n es = es := by
  induction es with
  | nil => cases h
  | cons x es ih =>
    obtain ⟨k, m⟩ := x
    rw [lookup_entry] at h
    rw [putEntry]
    split_ifs at h with hk
    · obtain rfl := Option.some.inj h
      rw [if_pos hk.symm, hk]
    · rw [if_neg (Ne.symm hk), ih h]

/-- **Putting a node where it is** leaves the tree. -/
theorem put_of_node? (hl : l ≠ []) (h : t.node? l = some n) : t.put l n = t := by
  rw [node?, if_neg hl] at h
  rw [put, putEntry_of_lookup h]

/-- **Writing** where a path that ends in a name leads replaces a file, is swallowed by the null
device and is refused by a directory. -/
theorem write_eq (hp : p.segments = segments ++ [s]) (hs : IsName s) (h : t.resolve p = .ok l)
    (contents : Bytes) :
    t.write p contents =
      match t.node? l with
      | some .directory => .error .directory
      | some .nullDevice => .ok t
      | _ => .ok (t.put l (.file contents)) := by
  obtain ⟨hc, hlong, m, he, rfl, -⟩ := (resolve_eq_ok_iff hp hs).1 h
  rw [FileTree.write, hc, splitLast?_eq hp hs.ne_nil]
  show (t.resolveDirectory p segments).bind _ = _
  rw [resolveDirectory_eq_enter, he]
  show (if _ then _ else if _ then _ else _) = _
  rw [Path.hasTrailingSlash_eq_false hp hs.ne_nil, hs.isDotName_eq_false, hlong]
  rfl

/-- A path that ends in an empty segment ends in a slash. -/
theorem hasTrailingSlash_of_segments (hp : p.segments = segments ++ [[]]) (hne : segments ≠ []) :
    p.hasTrailingSlash = true := by
  rw [Path.hasTrailingSlash, ← Path.join_segments p, hp, Path.join_concat hne]
  simp

/-- Without a slash at its end, a path has no segment behind its last name. -/
theorem segments_of_splitLast?_of_not_slash (hlast : p.splitLast? = some (segments, s))
    (hslash : p.hasTrailingSlash = false) : s ≠ [] ∧ p.segments = segments ++ [s] := by
  obtain ⟨hne, slashes, hslashes, hp⟩ := segments_of_splitLast? hlast
  refine ⟨hne, ?_⟩
  rcases List.eq_nil_or_concat slashes with rfl | ⟨init, a, rfl⟩
  · exact hp
  · obtain rfl : a = [] := hslashes a (by simp)
    rw [List.concat_eq_append, ← List.cons_append, ← List.append_assoc] at hp
    rw [hasTrailingSlash_of_segments hp (by simp)] at hslash
    cases hslash

/-- A file is written by its last name, in the directory that is entered. -/
theorem of_write_eq_ok (h : t.write p contents = .ok u) :
    ∃ segments s m, p.segments = segments ++ [s] ∧ IsName s ∧ p.check = .ok () ∧
      Path.nameIsTooLong s = false ∧ t.enter (t.startOf p) segments = .ok m ∧
      t.node? (m ++ [s]) ≠ some .directory ∧
      u = if t.node? (m ++ [s]) = some .nullDevice then t
        else t.put (m ++ [s]) (.file contents) := by
  -- What the write goes through on its way is taken apart in its order; wherever it stops, `h` says
  -- that it has failed.
  rw [write] at h
  cases hc : p.check with
  | error e => rw [hc] at h; cases h
  | ok _ =>
    rw [hc] at h
    cases hlast : p.splitLast? with
    | none => rw [hlast] at h; cases h
    | some last =>
      obtain ⟨segments, s⟩ := last
      rw [hlast] at h
      replace h : (t.resolveDirectory p segments).bind _ = .ok u := h
      rw [resolveDirectory_eq_enter] at h
      cases he : t.enter (t.startOf p) segments with
      | error e => rw [he] at h; cases h
      | ok m =>
        rw [he] at h
        simp only [Except.bind] at h
        split_ifs at h with hdot hlong
        rw [Bool.or_eq_true, not_or, Bool.not_eq_true, Bool.not_eq_true] at hdot
        obtain ⟨hslash, hdot⟩ := hdot
        -- There is no slash behind the last name, so the name is the last segment.
        obtain ⟨hne, hp⟩ := segments_of_splitLast?_of_not_slash hlast hslash
        have hname : IsName s := by
          simp only [isDotName, Bool.or_eq_false_iff, decide_eq_false_iff_not] at hdot
          exact ⟨by simp [Path.isIdle, hne, hdot.1], hdot.2⟩
        refine ⟨segments, s, m, hp, hname, rfl, by simpa using hlong, he, ?_, ?_⟩
        · intro hdir
          rw [hdir] at h
          cases h
        · cases hn : t.node? (m ++ [s]) with
          | none =>
            rw [hn] at h
            simpa using (Except.ok.inj h).symm
          | some n =>
            rw [hn] at h
            cases n with
            | directory => cases h
            | nullDevice => simpa using (Except.ok.inj h).symm
            | file b => simpa using (Except.ok.inj h).symm

/-- **What is written to a regular file is read back.** -/
theorem read_of_write (h : t.write p contents = .ok u) (hfile : u.isFile p = true) :
    u.read p = .ok contents := by
  obtain ⟨segments, s, m, hp, hs, hc, hlong, he, hdir, rfl⟩ := of_write_eq_ok h
  split_ifs at hfile ⊢ with hnull
  · -- The null device is no regular file.
    obtain ⟨l, b, hres, hl⟩ := isFile_iff.1 hfile
    obtain ⟨-, -, m', he', rfl, -⟩ := (resolve_eq_ok_iff hp hs).1 hres
    obtain rfl := Except.ok.inj (he.symm.trans he')
    rw [hnull] at hl
    cases hl
  · have hput : (t.put (m ++ [s]) (.file contents)).node? (m ++ [s]) = some (.file contents) := by
      rw [node?_put t (by simp), if_pos rfl]
    -- The directories are where they were.
    have hdirs : ∀ k, t.node? k = some .directory →
        (t.put (m ++ [s]) (.file contents)).node? k = some .directory := by
      intro k hk
      rw [node?_put t (by simp), if_neg, hk]
      rintro rfl
      exact hdir hk
    have henter := enter_mono (workingDirectory_put t (m ++ [s]) (.file contents)) hdirs he
    refine read_of_resolve ((resolve_eq_ok_iff hp hs).2 ⟨hc, hlong, m, henter, rfl, ?_⟩) hput
    rw [hput]
    rfl

end FileTree

end SourceRecovery
