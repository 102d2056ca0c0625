import SourceRecovery.Proofs.FileTree.MakeDirectories

/-! # Operations at a path that reaches a name

A path **reaches** a name (`FileTree.Reaches`) when its beginning leads to a directory and a chain
of plain names follows it, the last of which is the name in question. In a closed tree every
operation at such a path is decided by the nodes on the chain:

* **`Reaches.isFile_iff`** — when a regular file is there.
* **`Reaches.makeDirectories_parent`** — making the directories above the name.
* **`Reaches.rename`** — moving a file to the name, with **`moveError?`** for what prevents it.
* **`Reaches.read`** — reading a file there. -/

namespace SourceRecovery

namespace FileTree

variable {t u : FileTree} {p q : Path} {base base' : Location} {ns ns' : List Text} {s s' : Text}
  {b : Bytes}

/-- The path leads to the directory `base` and from there down the names `ns` to the name `s`. -/
structure Reaches (t : FileTree) (p : Path) (base : Location) (ns : List Text) (s : Text) :
    Prop where
  /-- The beginning of the path leads to `base`, the segments behind it hold the names. -/
  exists_segments : ∃ pre segments, pre ≠ [] ∧ p.segments = pre ++ segments ++ [s] ∧
    t.follow (t.startAt pre) pre = .ok base ∧
    segments.filter (fun a => !Path.isIdle a) = ns ∧ ∀ a ∈ segments, a ≠ ['.', '.']
  /-- The chain begins at a directory. -/
  base_directory : t.node? base = some .directory
  /-- The last segment is a name. -/
  isName : IsName s

/-! ## Reading and writing at a path that leads to a file -/

/-- A regular file that a path leads to is read. -/
theorem read_of_resolve (h : t.resolve p = .ok base) (hb : t.node? base = some (.file b)) :
    t.read p = .ok b := by
  rw [FileTree.read, h]
  simp only [bind, Except.bind, hb]

/-- A file is read as the text of its bytes. -/
theorem readText_of_read (h : t.read p = .ok b) :
    t.readText p =
      match Utf8.decode? b with
      | some text => .ok text
      | none => .error .notUtf8 := by
  rw [readText, h]
  rfl

/-- A regular file that a path leads to is written, if the path ends in a name. -/
theorem write_of_resolve {segments : List Text} (hp : p.segments = segments ++ [s])
    (hs : IsName s) (h : t.resolve p = .ok base) (hb : t.node? base = some (.file b))
    (contents : Bytes) : t.write p contents = .ok (t.put base (.file contents)) := by
  obtain ⟨hc, hlong, m, he, rfl, -⟩ := (resolve_eq_ok_iff hp hs).1 h
  rw [FileTree.write, hc, splitLast?_eq hp hs.ne_nil]
  show (t.resolveDirectory p segments).bind _ = _
  rw [resolveDirectory_eq_enter, he]
  simp only [Except.bind, Path.hasTrailingSlash_eq_false hp hs.ne_nil, hs.isDotName_eq_false,
    hlong, hb]
  rfl

namespace Reaches

/-- An empty path reaches nothing. -/
theorem ne_nil (h : t.Reaches p base ns s) : p ≠ [] := by
  obtain ⟨⟨pre, segments, hpre, hp, -⟩, -, hs⟩ := h
  rintro rfl
  have hlen := congrArg List.length hp
  have hpos := List.length_pos_iff.2 hpre
  have hnil : Path.segments [] = [[]] := by decide
  rw [hnil, List.length_append, List.length_append, List.length_singleton,
    List.length_singleton] at hlen
  omega

/-- The names on the chain are plain names. -/
theorem isName_of_mem (h : t.Reaches p base ns s) : ∀ a ∈ ns, IsName a := by
  obtain ⟨⟨pre, segments, -, -, -, rfl, hup⟩, -, -⟩ := h
  intro a ha
  rw [List.mem_filter] at ha
  exact ⟨by simpa using ha.2, hup a ha.1⟩

/-- The directory above the name is entered along the chain. -/
theorem enter (h : t.Reaches p base ns s) :
    ∃ segments, p.segments = segments ++ [s] ∧
      t.enter (t.startOf p) segments = t.enter base ns := by
  have hp0 := h.ne_nil
  obtain ⟨⟨pre, segments, hpre, hp, hbase, rfl, -⟩, -, -⟩ := h
  refine ⟨pre ++ segments, hp, ?_⟩
  rw [startOf_eq_startAt t hp0, hp, List.append_assoc, startAt_append t hpre, enter_append, hbase]
  exact enter_filter t base segments

/-- The path leads to the end of the chain if it is not refused, no name is too long, and
something is there. -/
theorem resolve_eq_ok (h : t.Reaches p base ns s) (ht : t.IsClosed) (hc : p.check = .ok ())
    (hshort : ∀ a ∈ ns ++ [s], Path.nameIsTooLong a = false)
    (hsome : (t.node? (base ++ ns ++ [s])).isSome) : t.resolve p = .ok (base ++ ns ++ [s]) := by
  obtain ⟨segments, hp, henter⟩ := h.enter
  have he : t.enter base ns = .ok (base ++ ns) :=
    (enter_eq_ok_iff ht h.base_directory h.isName_of_mem).2
      ⟨rfl, ht _ s hsome, fun a ha => hshort a (by simp [ha])⟩
  exact (resolve_eq_ok_iff hp h.isName).2
    ⟨hc, hshort s (by simp), base ++ ns, henter.trans he, rfl, hsome⟩

/-- **A regular file** is at the path exactly if the path is not refused, no name is too long,
and a file is at the end of the chain. -/
theorem isFile_iff (h : t.Reaches p base ns s) (ht : t.IsClosed) :
    t.isFile p = true ↔ p.check = .ok () ∧ (∀ a ∈ ns ++ [s], Path.nameIsTooLong a = false) ∧
      ∃ b, t.node? (base ++ ns ++ [s]) = some (.file b) := by
  rw [FileTree.isFile_iff]
  constructor
  · rintro ⟨l, b, hres, hl⟩
    obtain ⟨segments, hp, henter⟩ := h.enter
    obtain ⟨hc, hlong, m, he, rfl, -⟩ := (resolve_eq_ok_iff hp h.isName).1 hres
    -- The chain has been entered, so its names are short.
    rw [henter] at he
    obtain ⟨rfl, -, hshort⟩ := (enter_eq_ok_iff ht h.base_directory h.isName_of_mem).1 he
    refine ⟨hc, ?_, b, hl⟩
    intro a ha
    rcases List.mem_append.1 ha with ha | ha
    · exact hshort a ha
    · obtain rfl := List.mem_singleton.1 ha
      exact hlong
  · rintro ⟨hc, hshort, b, hb⟩
    exact ⟨_, b, h.resolve_eq_ok ht hc hshort (by rw [hb]; rfl), hb⟩

/-- The directory above the name is not refused unless the path is. -/
theorem check_parent (h : t.Reaches p base ns s) (hc : p.check = .ok ()) :
    Path.check (p.parent?.getD []) = .ok () := by
  obtain ⟨⟨pre, segments, hpre, hp, -⟩, -, hs⟩ := h
  exact Path.check_parent hc hp (by simp [hpre]) hs.1

/-- **Making the directories above the name** makes those of the chain, unless the path of the
last of them is refused. -/
theorem makeDirectories_parent (h : t.Reaches p base ns s) (ht : t.IsClosed) :
    t.makeDirectories (p.parent?.getD []) =
      match (p.parent?.getD []).check with
      | .error e => (t, .error e)
      | .ok () => t.openChain base ns := by
  obtain ⟨⟨pre, segments, hpre, hp, hbase, rfl, hup⟩, hd, hs⟩ := h
  have hslash : ∀ a ∈ pre ++ segments, '/' ∉ a := fun a ha =>
    Path.not_mem_of_mem_segments (p := p) (by rw [hp]; exact List.mem_append_left _ ha)
  obtain ⟨q, rest, hparent, hq, hq0, hanc, -⟩ := Path.exists_parent hp (by simp [hpre]) hs.1
  have hmake : t.makeDirectories q =
      t.makeDirectoriesOf (Path.climb (pre ++ segments).reverse) := by
    rw [makeDirectories, if_neg hq0, hanc, hq]
    rfl
  rw [hparent, hmake]
  cases hc : q.check with
  | ok _ =>
    refine makeDirectoriesOf_climb ht hpre hbase hd hslash hup fun q' hq' => ?_
    rw [hq] at hq'
    obtain rfl : q = q' := Option.some.inj hq'
    exact hc
  | error e =>
    -- A refused path is refused at once, and is none of a directory.
    have hm : t.makeDirectory q = .error e := by
      rw [makeDirectory, hc]
      rfl
    have hno : t.isDirectory q = false := by
      rw [← Bool.not_eq_true, isDirectory_iff, resolve, hc]
      simp [bind, Except.bind]
    have hmissing : e ≠ .missing := by
      rintro rfl
      rw [Path.check, if_neg hq0] at hc
      split_ifs at hc <;> cases hc
    rw [hq, makeDirectoriesOf, if_neg hq0, hm]
    cases e with
    | missing => exact absurd rfl hmissing
    | _ => simp only [hno]; rfl

/-! ## Reading -/

/-- A file is found at the place that its path reaches. -/
theorem resolve_of_isFile (h : t.Reaches p base ns s) (ht : t.IsClosed) (hf : t.isFile p = true) :
    t.resolve p = .ok (base ++ ns ++ [s]) := by
  obtain ⟨hc, hshort, b, hb⟩ := (h.isFile_iff ht).1 hf
  exact h.resolve_eq_ok ht hc hshort (by rw [hb]; rfl)

/-- **Reading** a regular file gives its contents. -/
theorem read (h : t.Reaches p base ns s) (ht : t.IsClosed) (hf : t.isFile p = true)
    (hb : t.node? (base ++ ns ++ [s]) = some (.file b)) : t.read p = .ok b :=
  read_of_resolve (h.resolve_of_isFile ht hf) hb

end Reaches

/-! ## Moving a file -/

/-- Why a file cannot be moved from one location to another, of which `q` is the path and `name`
the last name, once the directory above it is there. -/
def moveError? (t : FileTree) (q : Path) (source target : Location) (name : Text) :
    Option IoError :=
  match q.check with
  | .error e => some e
  | .ok () =>
    if !sameDevice source target then some .otherDevice
    else if Path.nameIsTooLong name then some .nameTooLong
    else if source = target then none
    else if source.isPrefixOf target then some .belowItself
    else if target.isPrefixOf source then some .notEmpty
    else if t.node? target = some .directory then some .directory
    else none

/-- Only whether a directory is at the target matters for moving a file. -/
theorem moveError?_congr {source target : Location}
    (h : t.node? target = some .directory ↔ u.node? target = some .directory) :
    t.moveError? q source target s = u.moveError? q source target s := by
  simp only [moveError?, h]

/-- What can be moved is moved to another place, where no directory is. -/
theorem of_moveError?_eq_none {source target : Location}
    (h : t.moveError? q source target s = none) :
    q.check = .ok () ∧ sameDevice source target = true ∧ Path.nameIsTooLong s = false ∧
      (source ≠ target → ¬ source <+: target ∧ t.node? target ≠ some .directory) := by
  rw [moveError?] at h
  cases hc : q.check with
  | error e => rw [hc] at h; cases h
  | ok _ =>
    rw [hc] at h
    simp only at h
    split_ifs at h with h1 h2 h3 h4 h5 h6
    · exact ⟨rfl, by simpa using h1, by simpa using h2, fun hne => absurd h3 hne⟩
    · exact ⟨rfl, by simpa using h1, by simpa using h2, fun _ => ⟨by simpa using h4, h6⟩⟩

/-- **A file that could be moved can be moved back**, once it is gone from where it was. -/
theorem moveError?_symm {source target : Location} {name : Text} (ht : t.IsClosed)
    (hb : t.node? source = some (.file b)) (h : t.moveError? q source target s = none)
    (hfree : u.node? source ≠ some .directory) (hp : p.check = .ok ())
    (hname : Path.nameIsTooLong name = false) : u.moveError? p target source name = none := by
  obtain ⟨-, hdevice, -, hgoal⟩ := of_moveError?_eq_none h
  have hdevice' : sameDevice target source = true := by
    rw [sameDevice, beq_iff_eq] at hdevice ⊢
    exact hdevice.symm
  rw [moveError?, hp]
  simp only
  rw [if_neg (by simp [hdevice']), if_neg (by simp [hname])]
  by_cases heq : target = source
  · rw [if_pos heq]
  · obtain ⟨hbelow, hdir⟩ := hgoal (Ne.symm heq)
    have habove : ¬ target <+: source := fun hpre =>
      heq (ht.eq_of_isPrefix hdir hpre (by rw [hb]; rfl))
    rw [if_neg heq, if_neg (by simpa using habove), if_neg (by simpa using hbelow), if_neg hfree]

/-- What renaming a regular file does, in the order in which its causes of failure are looked for.
-/
theorem renameAt_file {source target : Location} (hb : t.node? source = some (.file b)) :
    t.renameAt source target false =
      if source = target then .ok t
      else if source.isPrefixOf target then .error .belowItself
      else if target.isPrefixOf source then .error .notEmpty
      else if t.node? target = some .directory then .error .directory
      else .ok (t.move source target) := by
  rw [renameAt, hb]
  simp only [Bool.false_eq_true, and_false, if_false]
  cases hn : t.node? target with
  | none => simp
  | some n => cases n <;> simp

/-- **Moving a regular file** to a name whose directory is there. -/
theorem Reaches.rename (h : t.Reaches p base ns s) (h' : t.Reaches q base' ns' s')
    (ht : t.IsClosed) (hf : t.isFile p = true) (hopen : t.enter base' ns' = .ok (base' ++ ns')) :
    t.rename p q =
      match t.moveError? q (base ++ ns ++ [s]) (base' ++ ns' ++ [s']) s' with
      | some e => .error e
      | none =>
        if base ++ ns ++ [s] = base' ++ ns' ++ [s'] then .ok t
        else .ok (t.move (base ++ ns ++ [s]) (base' ++ ns' ++ [s'])) := by
  obtain ⟨segments, hp, henter⟩ := h.enter
  obtain ⟨segments', hp', henter'⟩ := h'.enter
  obtain ⟨hc, hshort, b, hb⟩ := (h.isFile_iff ht).1 hf
  have hdir : t.node? (base ++ ns) = some .directory := ht _ s (by rw [hb]; rfl)
  have he : t.enter base ns = .ok (base ++ ns) :=
    (enter_eq_ok_iff ht h.base_directory h.isName_of_mem).2
      ⟨rfl, hdir, fun a ha => hshort a (by simp [ha])⟩
  have hsource : t.resolveLast p = .ok (base ++ ns, some s) := by
    rw [resolveLast_eq hc hp h.isName, henter, he]
    rfl
  have hnul : '\x00' ∉ p := by
    intro hmem
    rw [Path.check, if_pos hmem] at hc
    cases hc
  rw [FileTree.rename, moveError?, hsource]
  -- The zero byte is looked for in both paths first, all other refusals come with the lookup.
  cases hc' : q.check with
  | error e =>
    simp only
    by_cases hq : '\x00' ∈ q
    · rw [if_pos (List.mem_append_right _ hq)]
      rw [Path.check, if_pos hq] at hc'
      rw [Except.error.inj hc']
    · rw [if_neg (by simp [hnul, hq]), resolveLast_of_check hc']
      rfl
  | ok _ =>
    have hq : '\x00' ∉ q := by
      intro hmem
      rw [Path.check, if_pos hmem] at hc'
      cases hc'
    have htarget : t.resolveLast q = .ok (base' ++ ns', some s') := by
      rw [resolveLast_eq hc' hp' h'.isName, henter', hopen]
      rfl
    rw [if_neg (by simp [hnul, hq]), htarget]
    show (if _ then _ else if _ then _ else if _ then _ else if _ then _ else _) = _
    have hslash : (p.hasTrailingSlash || q.hasTrailingSlash) = false := by
      rw [Path.hasTrailingSlash_eq_false hp h.isName.ne_nil,
        Path.hasTrailingSlash_eq_false hp' h'.isName.ne_nil]
      rfl
    rw [hslash, renameAt_file hb]
    simp only [hshort s, List.mem_append, List.mem_singleton, or_true, hb, Option.isNone_some,
      Bool.false_eq_true, if_false]
    split_ifs <;> rfl

end FileTree

end SourceRecovery
