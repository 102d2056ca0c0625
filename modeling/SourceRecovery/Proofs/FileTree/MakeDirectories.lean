import SourceRecovery.Proofs.FileTree.Segments

/-! # Making a directory with those above it

Making directories goes up from the last of them until one is there or can be made, and down again.
**`makeDirectoriesOf_climb`** says what this comes to when the beginning of the path leads to a
directory and a chain of names follows: the places in front of the obstacle become directories
where nothing was, and the obstacle, if there is one, is the failure. Nothing of that depends on
which of the directories were there before. -/

namespace SourceRecovery

namespace FileTree

variable {t u : FileTree} {p : Path} {l m base k : Location} {pre segments ns : List Text}

/-- Where the segments of a path are followed from. -/
def startAt (t : FileTree) (segments : List Text) : Location :=
  if segments.head? = some [] then [] else t.workingDirectory

/-- Where a path starts is seen from the first of its segments. -/
theorem startOf_eq_startAt (t : FileTree) (hp : p ≠ []) : t.startOf p = t.startAt p.segments := by
  simp only [startOf, startAt, Path.isAbsolute_iff hp]

/-- Segments behind the first do not change where a path starts. -/
theorem startAt_append (t : FileTree) (hpre : pre ≠ []) (segments : List Text) :
    t.startAt (pre ++ segments) = t.startAt pre := by
  obtain ⟨a, as, rfl⟩ := List.exists_cons_of_ne_nil hpre
  rfl

/-! ## Following in a tree with more directories -/

/-- Who comes to a directory has come through directories. -/
theorem directory_of_follow (h : t.follow l segments = .ok m) (hm : t.node? m = some .directory) :
    t.node? l = some .directory := by
  cases segments with
  | nil =>
    obtain rfl : l = m := by simpa [follow] using h
    exact hm
  | cons s segments =>
    by_contra hl
    rw [follow, if_pos (by simpa [hasDirectory] using hl)] at h
    cases h

/-- What leads to a directory still does in a tree that has the same directories and more. -/
theorem follow_mono (hdir : ∀ k, t.node? k = some .directory → u.node? k = some .directory)
    (h : t.follow l segments = .ok m) (hm : t.node? m = some .directory) :
    u.follow l segments = .ok m := by
  induction segments generalizing l with
  | nil => exact h
  | cons s segments ih =>
    have hl := directory_of_follow h hm
    rw [follow_cons_of_directory hl] at h
    rw [follow_cons_of_directory (hdir l hl)]
    split_ifs at h ⊢ with h1 h2 h3 h4
    · exact ih h
    · exact ih h
    · exact ih h
    · exact absurd (by rw [hdir _ (directory_of_follow h hm)]; rfl) h4

/-- What is entered still is in a tree that has the same directories and more. -/
theorem enter_mono (hw : u.workingDirectory = t.workingDirectory)
    (hdir : ∀ k, t.node? k = some .directory → u.node? k = some .directory)
    (h : t.enter (t.startOf p) segments = .ok m) : u.enter (u.startOf p) segments = .ok m := by
  obtain ⟨hf, hm⟩ := of_enter_eq_ok h
  have hstart : u.startOf p = t.startOf p := by rw [startOf, startOf, hw]
  rw [hstart, enter, follow_mono hdir hf hm]
  simp only [Except.bind]
  rw [if_pos (hasDirectory_iff.2 (hdir m hm))]

/-- A directory at a path stays there in a tree that has the same directories and more. -/
theorem resolve_mono (hw : u.workingDirectory = t.workingDirectory)
    (hdir : ∀ k, t.node? k = some .directory → u.node? k = some .directory)
    (h : t.resolve p = .ok l) (hl : t.node? l = some .directory) : u.resolve p = .ok l := by
  rw [resolve] at h ⊢
  cases hc : p.check with
  | error e => rw [hc] at h; cases h
  | ok _ =>
    rw [hc] at h
    have hstart : u.startOf p = t.startOf p := by rw [startOf, startOf, hw]
    rw [hstart]
    exact follow_mono hdir h hl

/-! ## The passable places of a chain as directories -/

/-- The places on a chain lie one below the other. -/
theorem mem_passable_of_concat {s : Text} (h : k ++ [s] ∈ t.passable l ns) :
    k = l ∨ k ∈ t.passable l ns := by
  induction ns generalizing l with
  | nil => simp [passable] at h
  | cons a ns ih =>
    rw [passable] at h ⊢
    split_ifs at h ⊢ with ha
    · simp at h
    · rcases List.mem_cons.1 h with h | h
      · left
        exact (List.append_inj' h rfl).1
      · right
        rcases ih h with rfl | h
        · simp
        · simp [h]

/-- The root of the tree is no place that a chain of names can pass. -/
theorem nil_notMem_passable : [] ∉ t.passable l ns := by
  intro h
  obtain ⟨hl, hne, -⟩ := mem_passable h
  exact hne (List.prefix_nil.1 hl).symm

/-- The tree in which all passable places of a chain are directories. -/
def opened (t : FileTree) (l : Location) (ns : List Text) : FileTree :=
  (t.passable l ns).foldl fill t

/-- Opening a chain puts a directory at each place that it can pass, and changes nothing elsewhere.
-/
theorem node?_opened (t : FileTree) (l : Location) (ns : List Text) (k : Location) :
    (t.opened l ns).node? k =
      if k ∈ t.passable l ns then some .directory else t.node? k := by
  rw [opened, node?_foldl_fill t nil_notMem_passable]
  split_ifs with hk
  · rcases not_blocks_iff.1 (mem_passable hk).2.2.2 with h | h <;> rw [h] <;> rfl
  · rfl

/-- Directories stay when a chain is opened. -/
theorem directory_opened (h : t.node? k = some .directory) :
    (t.opened l ns).node? k = some .directory := by
  rw [node?_opened]
  split_ifs
  · rfl
  · exact h

/-- Opening a chain of names below a directory keeps a tree closed. -/
theorem IsClosed.opened (ht : t.IsClosed) (hl : t.node? l = some .directory) (ns : List Text) :
    (t.opened l ns).IsClosed := by
  intro k s hk
  rw [node?_opened] at hk
  split_ifs at hk with hmem
  · rcases mem_passable_of_concat hmem with rfl | hk
    · exact directory_opened hl
    · rw [node?_opened, if_pos hk]
  · exact directory_opened (ht k s hk)

/-- A chain without obstacle has no name that is too long. -/
theorem nameIsTooLong_of_obstacle?_eq_none (h : t.obstacle? l ns = none) :
    ∀ s ∈ ns, Path.nameIsTooLong s = false := by
  induction ns generalizing l with
  | nil => simp
  | cons a ns ih =>
    rw [obstacle?] at h
    split_ifs at h with h1 h2
    intro s hs
    rcases List.mem_cons.1 hs with rfl | hs
    · simpa using h1
    · exact ih h s hs

/-- The end of a chain without obstacle is a directory once its places are. -/
theorem node?_opened_end (hl : t.node? l = some .directory) (h : t.obstacle? l ns = none) :
    (t.opened l ns).node? (l ++ ns) = some .directory := by
  rcases eq_or_ne ns [] with rfl | hne
  · rw [List.append_nil]
    exact directory_opened hl
  · rw [node?_opened, if_pos]
    exact mem_passable_of_obstacle?_eq_none h (List.prefix_append ..) (by simpa using hne)
      (List.prefix_refl _)

/-- Once its places are directories, a chain without obstacle can be entered. -/
theorem enter_opened (ht : t.IsClosed) (hl : t.node? l = some .directory)
    (hns : ∀ s ∈ ns, IsName s) (h : t.obstacle? l ns = none) :
    (t.opened l ns).enter l ns = .ok (l ++ ns) := by
  rw [enter_eq_ok_iff (ht.opened hl ns) (directory_opened hl) hns]
  exact ⟨rfl, node?_opened_end hl h, nameIsTooLong_of_obstacle?_eq_none h⟩

/-- A chain whose places all have nodes is open. -/
theorem opened_of_isSome (h : ∀ k ∈ t.passable l ns, (t.node? k).isSome) : t.opened l ns = t :=
  foldl_fill_of_isSome h

/-! ## Making the directories of a chain -/

/-- The outcome of making the directories of a chain. -/
def openChain (t : FileTree) (l : Location) (ns : List Text) : FileTree × Except IoError Unit :=
  (t.opened l ns,
    match t.obstacle? l ns with
    | some e => .error e
    | none => .ok ())

/-- Directories that are there need not be made. -/
theorem makeDirectoriesOf_of_resolve (hp : p ≠ []) (h : t.resolve p = .ok l)
    (hl : t.node? l = some .directory) (up : List Path) :
    t.makeDirectoriesOf (p :: up) = (t, .ok ()) := by
  rw [makeDirectoriesOf, if_neg hp, makeDirectory_of_resolve h]
  show (if t.isDirectory p then _ else _) = _
  rw [if_pos (isDirectory_iff.2 ⟨l, h, hl⟩)]

/-- The path in front of idle segments leads where the whole path leads. -/
theorem resolve_climb_head {up : List Text} {rest : List Path} (hne : up ≠ [])
    (hslash : ∀ s ∈ up, '/' ∉ s) (hq : Path.climb up = p :: rest) (hc : p.check = .ok ())
    (h : t.follow (t.startAt up.reverse) up.reverse = .ok l)
    (hl : t.node? l = some .directory) : t.resolve p = .ok l := by
  induction up with
  | nil => exact absurd rfl hne
  | cons s up ih =>
    rcases eq_or_ne up [] with rfl | hup
    · rcases eq_or_ne s [] with rfl | hs
      · obtain ⟨rfl, -⟩ : ['/'] = p ∧ [] = rest := by simpa [Path.climb] using hq
        obtain rfl : [] = l := by simpa [startAt, follow, hasDirectory, Path.isIdle] using h
        have hseg : Path.segments ['/'] = [[], []] := by decide
        rw [resolve, hc, hseg, startOf, if_pos (by decide)]
        simp [follow, hasDirectory, Path.isIdle, bind, Except.bind]
      · obtain ⟨rfl, -⟩ : s = p ∧ [[]] = rest := by simpa [Path.climb, hs] using hq
        have hseg : Path.segments s = [s] := List.splitOn_eq_singleton (hslash s (by simp))
        rw [resolve, hc, startOf_eq_startAt t hs, hseg]
        exact h
    · rw [Path.climb_cons hup] at hq
      -- An idle segment stays where it is, and any other one is the end of the path.
      split_ifs at hq with hidle
      · refine ih hup (fun a ha => hslash a (by simp [ha])) hq ?_
        rw [List.reverse_cons, startAt_append t (by simpa using hup), follow_append] at h
        cases hf : t.follow (t.startAt up.reverse) up.reverse with
        | error e => rw [hf] at h; cases h
        | ok m =>
          rw [hf] at h
          replace h : t.follow m [s] = .ok l := h
          rw [follow_cons_of_directory (directory_of_follow h hl), if_pos hidle] at h
          exact h
      · obtain ⟨rfl, -⟩ := List.cons.inj hq
        have hp0 : Text.join ['/'] (s :: up).reverse ≠ [] := by
          rw [List.reverse_cons, Path.join_concat (by simpa using hup)]
          simp
        rw [resolve, hc, startOf_eq_startAt t hp0,
          Path.segments_join (fun a ha => hslash a (List.mem_reverse.1 ha)) (by simp)]
        exact h

/-- What making a directory comes to once the directory above it is entered. -/
theorem makeDirectory_cases {s : Text} (hs : IsName s) (hc : p.check = .ok ())
    (hp : p.segments = pre ++ [s]) (he : t.enter (t.startOf p) pre = .ok m) :
    (Path.nameIsTooLong s = true ∧ t.makeDirectory p = .error .nameTooLong ∧
        t.isDirectory p = false) ∨
      Path.nameIsTooLong s = false ∧
        (t.Blocks (m ++ [s]) ∧ t.makeDirectory p = .error .alreadyExists ∧
            t.isDirectory p = false ∨
          t.node? (m ++ [s]) = some .directory ∧ t.makeDirectory p = .error .alreadyExists ∧
            t.isDirectory p = true ∨
          t.node? (m ++ [s]) = none ∧ t.makeDirectory p = .ok (t.put (m ++ [s]) .directory)) := by
  rw [makeDirectory_eq hc hp hs, ← Bool.not_eq_true, isDirectory_iff, resolve_eq hc hp hs, he]
  by_cases hlong : Path.nameIsTooLong s = true
  · left
    simp [Except.bind, hlong]
  · right
    refine ⟨by simpa using hlong, ?_⟩
    cases hn : t.node? (m ++ [s]) with
    | none =>
      right; right
      simp [Except.bind, hlong, hn]
    | some n =>
      by_cases hdir : n = .directory
      · right; left
        simp [Except.bind, hlong, hn, hdir]
      · left
        simp [Except.bind, hlong, hn, hdir, Blocks]

/-- One more name on a chain whose directories are there. -/
theorem openChain_concat_of_isSome {s : Text} (ho : t.obstacle? l ns = none)
    (hp : ∀ k ∈ t.passable l ns, (t.node? k).isSome) :
    t.openChain l (ns ++ [s]) =
      if Path.nameIsTooLong s then (t, .error .nameTooLong)
      else if t.Blocks (l ++ ns ++ [s]) then (t, .error .alreadyExists)
      else (t.fill (l ++ ns ++ [s]), .ok ()) := by
  have hsame : (t.passable l ns).foldl fill t = t := foldl_fill_of_isSome hp
  rw [openChain, opened, passable_concat, obstacle?_concat, ho]
  by_cases hlong : Path.nameIsTooLong s = true
  · rw [if_neg fun h => h.2.1 hlong, hsame, if_pos hlong]
    simp only [hlong, if_true]
  · by_cases hb : t.Blocks (l ++ ns ++ [s])
    · rw [if_neg fun h => h.2.2 hb, hsame, if_neg hlong, if_pos hb]
      simp only [hlong, hb, if_true]
      rfl
    · rw [if_pos ⟨rfl, hlong, hb⟩, List.foldl_append, hsame, if_neg hlong, if_neg hb]
      simp only [hlong, hb]
      rfl

/-- One more name on a chain with a free end. -/
theorem openChain_concat_of_free {s : Text} (ho : t.obstacle? l ns = none)
    (hfree : t.node? (l ++ ns ++ [s]) = none) :
    t.openChain l (ns ++ [s]) =
      if Path.nameIsTooLong s then (t.opened l ns, .error .nameTooLong)
      else ((t.opened l ns).put (l ++ ns ++ [s]) .directory, .ok ()) := by
  have hb : ¬ t.Blocks (l ++ ns ++ [s]) := by simp only [Blocks, hfree]; simp
  have hfree' : (t.opened l ns).node? (l ++ ns ++ [s]) = none := by
    rw [node?_opened, if_neg, hfree]
    intro hmem
    exact not_concat_isPrefix _ _ (mem_passable hmem).2.2.1
  rw [openChain, opened, passable_concat, obstacle?_concat, ho]
  by_cases hlong : Path.nameIsTooLong s = true
  · rw [if_neg fun h => h.2.1 hlong, if_pos hlong]
    simp only [hlong, if_true]
    rfl
  · rw [if_pos ⟨rfl, hlong, hb⟩, List.foldl_append, if_neg hlong]
    simp only [hlong, hb]
    show (fill (t.opened l ns) _, _) = _
    rw [fill, hfree']
    rfl

/-- One more name on a chain with an obstacle. -/
theorem openChain_concat_of_obstacle {s : Text} {e : IoError} (ho : t.obstacle? l ns = some e) :
    t.openChain l (ns ++ [s]) = (t.opened l ns, .error (passedBy e)) := by
  rw [openChain, opened, passable_concat, obstacle?_concat, ho, if_neg (by simp)]
  rfl

/-- Where the chain is there, only the new name matters. -/
theorem makeDirectoriesOf_of_there {s : Text} (up : List Path) (hs : IsName s)
    (hc : p.check = .ok ()) (hp : p.segments = pre ++ [s]) (hp0 : p ≠ [])
    (hhere : t.enter (t.startOf p) pre = .ok (l ++ ns)) (ho : t.obstacle? l ns = none)
    (hpass : ∀ k ∈ t.passable l ns, (t.node? k).isSome) :
    t.makeDirectoriesOf (p :: up) = t.openChain l (ns ++ [s]) := by
  rw [makeDirectoriesOf, if_neg hp0, openChain_concat_of_isSome ho hpass]
  rcases makeDirectory_cases hs hc hp hhere with
    ⟨hlong, hm, hd⟩ | ⟨hlong, ⟨hb, hm, hd⟩ | ⟨hn, hm, hd⟩ | ⟨hn, hm⟩⟩
  · rw [hm, if_pos hlong]
    simp only [hd]
    rfl
  · rw [hm, if_neg (by simp [hlong]), if_pos hb]
    simp only [hd]
    rfl
  · rw [hm, if_neg (by simp [hlong]), if_neg fun hb => hb.2 hn, fill, hn]
    simp only [hd]
    rfl
  · rw [hm, if_neg (by simp [hlong]), if_neg (by simp only [Blocks, hn]; simp), fill, hn]
    rfl

/-- Where nothing is at the end of the chain, its directories are made first. -/
theorem makeDirectoriesOf_of_free {s : Text} {up : List Path} (ht : t.IsClosed) (hs : IsName s)
    (hc : p.check = .ok ()) (hp : p.segments = pre ++ [s]) (hp0 : p ≠ [])
    (hhere : t.enter (t.startOf p) pre = .error .missing) (hfree : t.node? (l ++ ns) = none)
    (hthere : t.obstacle? l ns = none →
      (t.opened l ns).enter ((t.opened l ns).startOf p) pre = .ok (l ++ ns))
    (ho : t.obstacle? l ns = none ∨ t.obstacle? l ns = some .nameTooLong)
    (hup : t.makeDirectoriesOf up = t.openChain l ns) :
    t.makeDirectoriesOf (p :: up) = t.openChain l (ns ++ [s]) := by
  have hm : t.makeDirectory p = .error .missing := by
    rw [makeDirectory_eq hc hp hs, hhere]
    rfl
  have hbelow : t.node? (l ++ ns ++ [s]) = none := ht.node?_below (by rw [hfree]; simp) (by simp)
  rw [makeDirectoriesOf, if_neg hp0, hm]
  simp only [hup]
  rcases ho with ho | ho
  · -- The second attempt finds the chain there, and the place of the name still free.
    have hfree' : (t.opened l ns).node? (l ++ ns ++ [s]) = none := by
      rw [node?_opened, if_neg, hbelow]
      intro hmem
      exact not_concat_isPrefix _ _ (mem_passable hmem).2.2.1
    rw [openChain_concat_of_free ho hbelow, openChain, ho]
    rcases makeDirectory_cases hs hc hp (hthere ho) with
      ⟨hlong, hm, hd⟩ | ⟨hlong, ⟨hb, -, -⟩ | ⟨hn, -, -⟩ | ⟨-, hm⟩⟩
    · simp only [hm, hd, if_pos hlong]
      rfl
    · exact absurd hfree' (by simpa [Option.isSome_iff_ne_none] using hb.1)
    · rw [hfree'] at hn
      cases hn
    · simp only [hm, hlong]
      rfl
  · rw [openChain_concat_of_obstacle ho, openChain, ho]
    rfl

/-- Where an obstacle is on the chain, it is met at once, and all in front of it is there. -/
theorem makeDirectoriesOf_of_obstacle {s : Text} {e : IoError} (up : List Path) (hs : IsName s)
    (hc : p.check = .ok ()) (hp : p.segments = pre ++ [s]) (hp0 : p ≠ [])
    (hhere : t.enter (t.startOf p) pre = .error (passedBy e)) (ho : t.obstacle? l ns = some e)
    (hne : passedBy e ≠ .missing) (hpass : ∀ k ∈ t.passable l ns, (t.node? k).isSome) :
    t.makeDirectoriesOf (p :: up) = t.openChain l (ns ++ [s]) := by
  have hm : t.makeDirectory p = .error (passedBy e) := by
    rw [makeDirectory_eq hc hp hs, hhere]
    rfl
  have hd : t.isDirectory p = false := by
    rw [← Bool.not_eq_true, isDirectory_iff, resolve_eq hc hp hs, hhere]
    simp [Except.bind]
  rw [makeDirectoriesOf, if_neg hp0, hm, openChain_concat_of_obstacle ho, opened_of_isSome hpass]
  cases hpe : passedBy e with
  | missing => exact absurd hpe hne
  | _ => simp only [hd]; rfl

/-- The directories of a chain with one more name are made like those of the chain. -/
theorem makeDirectoriesOf_step {s : Text} {up : List Path} (ht : t.IsClosed)
    (hl : t.node? l = some .directory) (hns : ∀ s ∈ ns, IsName s) (hs : IsName s)
    (hc : p.check = .ok ()) (hp : p.segments = pre ++ [s]) (hp0 : p ≠ [])
    (henter : ∀ u : FileTree, u.workingDirectory = t.workingDirectory →
      (∀ k, t.node? k = some .directory → u.node? k = some .directory) →
      u.enter (u.startOf p) pre = u.enter l ns)
    (hup : t.makeDirectoriesOf up = t.openChain l ns) :
    t.makeDirectoriesOf (p :: up) = t.openChain l (ns ++ [s]) := by
  have hhere : t.enter (t.startOf p) pre = t.enter l ns := henter t rfl fun _ h => h
  rcases enter_cases ht hl hns with ⟨he, -, -, ho, hpass⟩ | ⟨he, hfree, ho⟩ |
    ⟨e, he, ho, hne, hpass⟩
  · exact makeDirectoriesOf_of_there up hs hc hp hp0 (hhere.trans he) ho hpass
  · have hthere : t.obstacle? l ns = none →
        (t.opened l ns).enter ((t.opened l ns).startOf p) pre = .ok (l ++ ns) := by
      intro ho
      rw [henter (t.opened l ns) (workingDirectory_foldl_fill ..) fun _ => directory_opened]
      exact enter_opened ht hl hns ho
    exact makeDirectoriesOf_of_free ht hs hc hp hp0 (hhere.trans he) hfree hthere ho hup
  · exact makeDirectoriesOf_of_obstacle up hs hc hp hp0 (hhere.trans he) ho hne hpass

/-- **Making a directory with those above it.** The beginning `pre` of the path leads to a
directory; of the chain behind it, the places in front of the obstacle become directories. -/
theorem makeDirectoriesOf_climb (ht : t.IsClosed) (hpre : pre ≠ [])
    (hbase : t.follow (t.startAt pre) pre = .ok base) (hdir : t.node? base = some .directory)
    (hslash : ∀ s ∈ pre ++ segments, '/' ∉ s) (hup : ∀ s ∈ segments, s ≠ ['.', '.'])
    (hc : ∀ q ∈ (Path.climb (pre ++ segments).reverse).head?, q.check = .ok ()) :
    t.makeDirectoriesOf (Path.climb (pre ++ segments).reverse) =
      t.openChain base (segments.filter fun s => !Path.isIdle s) := by
  -- The directories are climbed from the last one up, so the induction is on the end of the chain.
  induction segments using List.reverseRecOn with
  | nil =>
    have hne : (pre ++ []).reverse ≠ [] := by simpa using hpre
    obtain ⟨q, rest, hq, hq0, -, -⟩ := Path.exists_climb_head hne fun s hs =>
      hslash s (List.mem_reverse.1 hs)
    have hres : t.resolve q = .ok base := by
      refine resolve_climb_head (by simpa using hpre)
        (fun s hs => hslash s (List.mem_reverse.1 hs)) hq (hc q (by rw [hq]; rfl)) ?_ hdir
      rwa [List.append_nil, List.reverse_reverse]
    rw [hq, makeDirectoriesOf_of_resolve hq0 hres hdir]
    rfl
  | append_singleton segments s ih =>
    have hne : (pre ++ segments).reverse ≠ [] := by simp [hpre]
    have hrev : (pre ++ (segments ++ [s])).reverse = s :: (pre ++ segments).reverse := by simp
    have hslash' : ∀ a ∈ pre ++ segments, '/' ∉ a := by
      intro a ha
      refine hslash a ?_
      rw [← List.append_assoc]
      exact List.mem_append_left _ ha
    rw [hrev, Path.climb_cons hne] at hc ⊢
    rw [List.filter_append]
    split_ifs at hc ⊢ with hidle
    · -- An idle segment is no step of the chain.
      rw [List.filter_cons_of_neg (by simp [hidle]), List.filter_nil, List.append_nil]
      exact ih hslash' (fun a ha => hup a (by simp [ha])) hc
    · rw [List.filter_cons_of_pos (by simp [hidle]), List.filter_nil]
      have hcat : (s :: (pre ++ segments).reverse).reverse = pre ++ segments ++ [s] := by simp
      have hs : IsName s := ⟨by simpa using hidle, hup s (by simp)⟩
      have hcp := hc _ rfl
      rw [hcat] at hcp ⊢
      have hpre' : pre ++ segments ≠ [] := by simp [hpre]
      have hp0 : Text.join ['/'] (pre ++ segments ++ [s]) ≠ [] := by
        rw [Path.join_concat hpre']
        simp
      have hseg : Path.segments (Text.join ['/'] (pre ++ segments ++ [s])) =
          pre ++ segments ++ [s] := by
        refine Path.segments_join (fun a ha => hslash a ?_) (by simp)
        rwa [List.append_assoc] at ha
      refine makeDirectoriesOf_step ht hdir ?_ hs hcp hseg hp0 ?_ ?_
      · intro a ha
        rw [List.mem_filter] at ha
        exact ⟨by simpa using ha.2, hup a (by simp [ha.1])⟩
      · intro u hw hmono
        have hstart : u.startAt pre = t.startAt pre := by rw [startAt, startAt, hw]
        rw [startOf_eq_startAt u hp0, hseg, List.append_assoc, startAt_append u hpre, hstart,
          enter_append, follow_mono hmono hbase hdir]
        exact enter_filter u base segments
      · refine ih hslash' (fun a ha => hup a (by simp [ha])) fun q hq => ?_
        obtain ⟨q', rest, -, hq', hq0, -, hpref⟩ := Path.exists_parent hseg hpre' hs.1
        obtain rfl : q' = q := by
          rw [hq'] at hq
          exact Option.some.inj hq
        rcases hpref with rfl | hpref
        · decide
        · exact Path.check_of_isPrefix hcp hpref hq0

end FileTree

end SourceRecovery
