import SourceRecovery.Proofs.FileTree.Reach

/-! # The place of a path

The segments of a path say where it leads whether or not anything is there: an idle one stays, two
dots go up, and a name goes down. The location they come to is the **place** of the path
(`FileTree.placeOf`), and those that the path comes through in front of its last segment are the
**way** to it (`FileTree.wayTo`).

* **`placeOf_of_resolve`** — a path leads to its place, if it leads anywhere.
* **`grows_makeDirectories_parent`** — making the directories above a name makes directories on the
  way to it, where nothing was (`FileTree.Grows`), and that whether or not it succeeds. -/

namespace SourceRecovery

namespace FileTree

variable {t u v : FileTree} {p q : Path} {l m k base : Location} {segments ns : List Text}
  {s : Text} {ks ks' : List Location}

/-- Where a segment of a path leads from a location. -/
def advance (l : Location) (s : Text) : Location :=
  if Path.isIdle s then l else if s = ['.', '.'] then l.dropLast else l ++ [s]

/-- The **place** of a path. -/
def placeOf (t : FileTree) (p : Path) : Location := p.segments.foldl advance (t.startOf p)

/-- The places on the **way** to a path: those of its beginnings. -/
def wayTo (t : FileTree) (p : Path) : List Location :=
  p.segments.dropLast.inits.map fun pre => pre.foldl advance (t.startOf p)

/-- Two dots take back the name in front of them. -/
example : placeOf ⟨[], ["w".toList]⟩ "x/../q//./A.java".toList =
    ["w".toList, "q".toList, "A.java".toList] := by decide

/-- An idle segment stays where it is. -/
theorem advance_of_isIdle (hs : Path.isIdle s = true) (l : Location) : advance l s = l := by
  rw [advance, if_pos hs]

/-- A name goes one location down. -/
theorem advance_of_isName (hs : IsName s) (l : Location) : advance l s = l ++ [s] := by
  rw [advance, if_neg (by simp [hs.1]), if_neg hs.2]

/-- Idle segments stay where they are. -/
theorem foldl_advance_of_isIdle (h : ∀ a ∈ segments, Path.isIdle a = true) (l : Location) :
    segments.foldl advance l = l := by
  induction segments with
  | nil => rfl
  | cons a segments ih =>
    rw [List.foldl_cons, advance_of_isIdle (h a (by simp))]
    exact ih fun a ha => h a (by simp [ha])

/-- The way to a path passes the places of the parts in front of its last segment. -/
theorem mem_wayTo :
    k ∈ t.wayTo p ↔ ∃ pre, pre <+: p.segments.dropLast ∧ pre.foldl advance (t.startOf p) = k := by
  simp only [wayTo, List.mem_map, List.mem_inits]

/-- Only the working directory matters for the place of a path. -/
theorem placeOf_congr (hw : u.workingDirectory = t.workingDirectory) (p : Path) :
    u.placeOf p = t.placeOf p := by
  rw [placeOf, placeOf, startOf, startOf, hw]

/-- The way to a path depends on nothing in a tree but its working directory. -/
theorem wayTo_congr (hw : u.workingDirectory = t.workingDirectory) (p : Path) :
    u.wayTo p = t.wayTo p := by
  simp only [wayTo, startOf, hw]

/-! ## Where a path leads -/

/-- Where segments can be followed, they lead to the place that they name. -/
theorem eq_foldl_of_follow (h : t.follow l segments = .ok m) : segments.foldl advance l = m := by
  induction segments generalizing l with
  | nil => exact Except.ok.inj h
  | cons s segments ih =>
    rw [List.foldl_cons, advance]
    rw [follow] at h
    split_ifs at h ⊢ with h1 h2 h3 h4
    · exact ih h
    · exact ih h
    · cases hn : t.node? (l ++ [s]) with
      | none => rw [hn] at h; cases h
      | some n =>
        rw [hn] at h
        exact ih h

/-- **A path leads to its place**, if it leads anywhere. -/
theorem placeOf_of_resolve (h : t.resolve p = .ok l) : t.placeOf p = l := by
  rw [resolve, check_of_resolve h] at h
  exact eq_foldl_of_follow h

/-- The place of a path that ends in a name lies in the directory that is entered. -/
theorem placeOf_of_enter (hp : p.segments = segments ++ [s]) (hs : IsName s)
    (h : t.enter (t.startOf p) segments = .ok m) : t.placeOf p = m ++ [s] := by
  rw [placeOf, hp, List.foldl_append, eq_foldl_of_follow (of_enter_eq_ok h).1]
  exact advance_of_isName hs m

/-- What leads to a name still does in a tree with the same directories and more, in which
something is there. -/
theorem resolve_mono_of_isSome (hw : u.workingDirectory = t.workingDirectory)
    (hdir : ∀ k, t.node? k = some .directory → u.node? k = some .directory)
    (hp : p.segments = segments ++ [s]) (hs : IsName s) (h : t.resolve p = .ok l)
    (hl : (u.node? l).isSome) : u.resolve p = .ok l := by
  obtain ⟨hc, hlong, m, he, rfl, -⟩ := (resolve_eq_ok_iff hp hs).1 h
  exact (resolve_eq_ok_iff hp hs).2 ⟨hc, hlong, m, enter_mono hw hdir he, rfl, hl⟩

/-! ## Making directories -/

/-- The tree `u` is the tree `t` **grown** within some places: directories have been made at some of
them, where nothing was. -/
structure Grows (t : FileTree) (ks : List Location) (u : FileTree) : Prop where
  /-- What the tree holds. -/
  node? : ∀ k, u.node? k = t.node? k ∨
    t.node? k = none ∧ u.node? k = some .directory ∧ k ∈ ks
  /-- The tree is closed. -/
  closed : u.IsClosed
  /-- The working directory is the same. -/
  workingDirectory : u.workingDirectory = t.workingDirectory

namespace Grows

/-- A tree grows into itself. -/
theorem refl (ht : t.IsClosed) : t.Grows ks t := ⟨fun _ => .inl rfl, ht, rfl⟩

/-- What grows at some places grows at those and others. -/
theorem mono (h : t.Grows ks u) (hks : ks ⊆ ks') : t.Grows ks' u where
  node? k := (h.node? k).imp_right fun ⟨hnone, hdir, hk⟩ => ⟨hnone, hdir, hks hk⟩
  closed := h.closed
  workingDirectory := h.workingDirectory

/-- Growth in two steps is growth. -/
theorem trans (h : t.Grows ks u) (h' : u.Grows ks v) : t.Grows ks v where
  node? k := by
    rcases h.node? k with hsame | ⟨hnone, hdir, hk⟩
    · rw [← hsame]
      exact h'.node? k
    · rcases h'.node? k with hsame | ⟨hnone', -⟩
      · exact .inr ⟨hnone, hsame.trans hdir, hk⟩
      · rw [hdir] at hnone'
        cases hnone'
  closed := h'.closed
  workingDirectory := h'.workingDirectory.trans h.workingDirectory

/-- What was there is still there. -/
theorem node?_of_isSome (h : t.Grows ks u) (hk : (t.node? k).isSome) : u.node? k = t.node? k := by
  rcases h.node? k with hsame | ⟨hnone, -⟩
  · exact hsame
  · rw [hnone] at hk
    cases hk

/-- A directory stays one while the tree grows. -/
theorem directory (h : t.Grows ks u) (hk : t.node? k = some .directory) :
    u.node? k = some .directory := by
  rw [h.node?_of_isSome (by rw [hk]; rfl), hk]

/-- What leads to a name still does. -/
theorem resolve (h : t.Grows ks u) (hp : p.segments = segments ++ [s]) (hs : IsName s)
    (hres : t.resolve p = .ok l) : u.resolve p = .ok l := by
  obtain ⟨-, -, m, -, rfl, hsome⟩ := (resolve_eq_ok_iff hp hs).1 hres
  refine resolve_mono_of_isSome h.workingDirectory (fun k => h.directory) hp hs hres ?_
  rwa [h.node?_of_isSome hsome]

end Grows

/-- The last name of a path lies in the directory in front of it. -/
theorem placeOf_of_splitLast? (hp : p.splitLast? = some (segments, s)) (hs : isDotName s = false)
    (h : t.enter (t.startOf p) segments = .ok m) : t.placeOf p = m ++ [s] := by
  obtain ⟨hne, slashes, hslashes, hseg⟩ := segments_of_splitLast? hp
  have hname : IsName s := by
    simp only [isDotName, Bool.or_eq_false_iff, decide_eq_false_iff_not] at hs
    exact ⟨by simp [Path.isIdle, hne, hs.1], hs.2⟩
  have hidle : ∀ a ∈ slashes, Path.isIdle a = true := fun a ha => by
    rw [hslashes a ha]
    rfl
  rw [placeOf, hseg, List.foldl_append, eq_foldl_of_follow (of_enter_eq_ok h).1, List.foldl_cons,
    advance_of_isName hname, foldl_advance_of_isIdle hidle]

/-- **A directory is made** at the place of its path, where nothing was. -/
theorem grows_makeDirectory (ht : t.IsClosed) (h : t.makeDirectory p = .ok u) :
    t.Grows [t.placeOf p] u := by
  -- Only the way through all of the checks makes a directory, and it makes it where nothing is.
  rw [makeDirectory] at h
  cases hc : p.check with
  | error c => rw [hc] at h; cases h
  | ok _ =>
    rw [hc] at h
    cases hlast : p.splitLast? with
    | none => rw [hlast] at h; cases h
    | some last =>
      obtain ⟨segments, s⟩ := last
      rw [hlast] at h
      replace h : (t.resolveDirectory p segments).bind _ = _ := h
      rw [resolveDirectory_eq_enter] at h
      cases he : t.enter (t.startOf p) segments with
      | error c => rw [he] at h; cases h
      | ok m =>
        rw [he] at h
        simp only [Except.bind] at h
        split_ifs at h with hdot hlong
        cases hn : t.node? (m ++ [s]) with
        | some n => rw [hn] at h; cases h
        | none =>
          rw [hn] at h
          obtain rfl := Except.ok.inj h
          have hplace := placeOf_of_splitLast? hlast (by simpa using hdot) he
          refine ⟨fun k => ?_, ht.put_directory (of_enter_eq_ok he).2 s, rfl⟩
          rw [node?_put t (by simp), hplace]
          split_ifs with hk
          · exact .inr ⟨by rw [hk, hn], rfl, by simp [hk]⟩
          · exact .inl rfl

/-- **Making directories** makes some at the places of the paths, where nothing was, whether or not
it succeeds. -/
theorem grows_makeDirectoriesOf (ht : t.IsClosed) (ps : List Path) :
    t.Grows (ps.map t.placeOf) (t.makeDirectoriesOf ps).1 := by
  induction ps with
  | nil => exact Grows.refl ht
  | cons p up ih =>
    have hup : t.Grows ((p :: up).map t.placeOf) (t.makeDirectoriesOf up).1 := ih.mono (by simp)
    rcases eq_or_ne p [] with rfl | hp
    · rw [makeDirectoriesOf, if_pos rfl]
      exact Grows.refl ht
    · rw [makeDirectoriesOf, if_neg hp]
      split
      · next made hm => exact (grows_makeDirectory ht hm).mono (by simp)
      · -- The directories above have been made, and the attempt is repeated.
        split
        · next hrest =>
          rw [hrest] at hup
          exact hup
        · next v hrest =>
          rw [hrest] at hup
          split
          · next made hm =>
            refine hup.trans ((grows_makeDirectory hup.closed hm).mono ?_)
            rw [placeOf_congr hup.workingDirectory]
            simp
          · split_ifs <;> exact hup
      · split_ifs <;> exact Grows.refl ht

/-- The directories above a name lie on the way to it. -/
theorem exists_prefix_of_mem_climb (hne : segments ≠ []) (hslash : ∀ a ∈ segments, '/' ∉ a)
    (hq : q ∈ Path.climb segments.reverse) :
    ∃ pre, pre <+: segments ∧ pre.foldl advance (t.startAt segments) = t.placeOf q := by
  -- On the segments from the last one on, which is the one that each step up leaves out.
  induction segments using List.reverseRecOn with
  | nil => exact absurd rfl hne
  | append_singleton segments s ih =>
    rw [List.reverse_append, List.reverse_singleton, List.singleton_append] at hq
    rcases eq_or_ne segments [] with rfl | hne'
    · -- Above a single segment is the directory that the path starts from.
      rcases eq_or_ne s [] with rfl | hs
      · obtain rfl : q = ['/'] := by simpa [Path.climb] using hq
        exact ⟨[], List.nil_prefix, rfl⟩
      · have hseg : Path.segments s = [s] := List.splitOn_eq_singleton (hslash s (by simp))
        have hstart : t.startAt ([] ++ [s]) = t.workingDirectory := by simp [startAt, hs]
        rcases (by simpa [Path.climb, hs] using hq : q = s ∨ q = []) with rfl | rfl
        · refine ⟨[q], by simp, ?_⟩
          rw [placeOf, startOf_eq_startAt t hs, hseg, List.nil_append]
        · refine ⟨[], List.nil_prefix, ?_⟩
          rw [hstart]
          rfl
    · have hslash' : ∀ a ∈ segments, '/' ∉ a := fun a ha => hslash a (by simp [ha])
      have hrest : q ∈ Path.climb segments.reverse →
          ∃ pre, pre <+: segments ++ [s] ∧
            pre.foldl advance (t.startAt segments) = t.placeOf q := by
        intro hq
        obtain ⟨pre, hpre, hplace⟩ := ih hne' hslash' hq
        exact ⟨pre, hpre.trans (List.prefix_append ..), hplace⟩
      rw [Path.climb_cons (by simpa using hne')] at hq
      rw [startAt_append t hne']
      -- An idle segment names no directory of its own.
      split_ifs at hq with hidle
      · exact hrest hq
      · rcases List.mem_cons.1 hq with rfl | hq
        · have hcat : (s :: segments.reverse).reverse = segments ++ [s] := by simp
          have hp0 : Text.join ['/'] (segments ++ [s]) ≠ [] := by
            rw [Path.join_concat hne']
            simp
          refine ⟨segments ++ [s], List.prefix_refl _, ?_⟩
          rw [hcat, placeOf, startOf_eq_startAt t hp0, Path.segments_join hslash (by simp),
            startAt_append t hne']
        · exact hrest hq

/-- **Making the directories above a name** makes some on the way to it, where nothing was, whether
or not it succeeds. -/
theorem grows_makeDirectories_parent (ht : t.IsClosed) (hp : p.segments = segments ++ [s])
    (hs : IsName s) : t.Grows (t.wayTo p) (t.makeDirectories (p.parent?.getD [])).1 := by
  have hp0 := Path.ne_nil_of_segments hp hs.1
  rcases eq_or_ne segments [] with rfl | hne
  · -- A name alone lies in the working directory.
    have hparent := Path.parent?_of_segments_singleton hp hs.1
    rw [hparent]
    exact Grows.refl ht
  · obtain ⟨q, rest, hparent, hq, hq0, hanc, -⟩ := Path.exists_parent hp hne hs.1
    have hmake : t.makeDirectories q = t.makeDirectoriesOf (Path.climb segments.reverse) := by
      rw [makeDirectories, if_neg hq0, hanc, hq]
      rfl
    have hslash : ∀ a ∈ segments, '/' ∉ a := fun a ha =>
      Path.not_mem_of_mem_segments (p := p) (by rw [hp]; exact List.mem_append_left _ ha)
    rw [hparent, hmake]
    refine (grows_makeDirectoriesOf ht _).mono fun k hk => ?_
    obtain ⟨q', hq', rfl⟩ := List.mem_map.1 hk
    obtain ⟨pre, hpre, hplace⟩ := exists_prefix_of_mem_climb (t := t) hne hslash hq'
    refine mem_wayTo.2 ⟨pre, ?_, ?_⟩
    · rwa [hp, List.dropLast_concat]
    · rwa [startOf_eq_startAt t hp0, hp, startAt_append t hne]

end FileTree

end SourceRecovery
