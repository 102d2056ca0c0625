import SourceRecovery.Proofs.FileTree.LastName

/-! # The segments of a path and the directories above it

A path is the text of its segments with slashes between them, so the two say the same
(`join_segments`, `segments_join`). The paths of the directories above a path come from leaving
out segments at its end (`climb_cons`), and each of them is again a path whose directories above
it are the rest (`exists_climb_head`). The first of them is the directory in which the last name of
the path is looked for (`exists_parent`). -/

namespace SourceRecovery

namespace Path

variable {p q : Path} {s : Text} {ss up : List Text}

@[simp] theorem segments_ne_nil (p : Path) : p.segments ≠ [] := List.splitOn_ne_nil _ _

/-- No segment holds a slash. -/
theorem not_mem_of_mem_segments (h : s ∈ p.segments) : '/' ∉ s := by
  induction p generalizing s with
  | nil =>
    obtain rfl : s = [] := by simpa [segments] using h
    simp
  | cons c p ih =>
    rw [segments, List.splitOn_cons_eq_if_modifyHead] at h
    split_ifs at h with hc
    · rcases List.mem_cons.1 h with rfl | h
      · simp
      · exact ih h
    · obtain ⟨a, as, has⟩ := List.exists_cons_of_ne_nil (segments_ne_nil p)
      rw [segments] at has
      rw [has, List.modifyHead_cons] at h
      rcases List.mem_cons.1 h with rfl | h
      · have ha : '/' ∉ a := ih (by rw [segments, has]; exact List.mem_cons_self ..)
        rw [List.mem_cons, not_or]
        exact ⟨fun hcc => hc (beq_iff_eq.2 hcc.symm), ha⟩
      · exact ih (by rw [segments, has]; simp [h])

/-- The segments hold characters of the path only. -/
theorem mem_of_mem_segments {c : Char} (h : s ∈ p.segments) (hc : c ∈ s) : c ∈ p := by
  induction p generalizing s with
  | nil =>
    obtain rfl : s = [] := by simpa [segments] using h
    exact hc
  | cons d p ih =>
    rw [segments, List.splitOn_cons_eq_if_modifyHead] at h
    split_ifs at h with hd
    · rcases List.mem_cons.1 h with rfl | h
      · exact absurd hc List.not_mem_nil
      · exact List.mem_cons_of_mem _ (ih h hc)
    · obtain ⟨a, as, has⟩ := List.exists_cons_of_ne_nil (segments_ne_nil p)
      rw [segments] at has
      rw [has, List.modifyHead_cons] at h
      rcases List.mem_cons.1 h with rfl | h
      · rcases List.mem_cons.1 hc with rfl | hc
        · exact List.mem_cons_self ..
        · exact List.mem_cons_of_mem _ (ih (by rw [segments, has]; exact List.mem_cons_self ..) hc)
      · exact List.mem_cons_of_mem _ (ih (by rw [segments, has]; simp [h]) hc)

/-- The segments hold all characters of the path but the slashes. -/
theorem exists_mem_segments {c : Char} (hc : c ∈ p) (hne : c ≠ '/') : ∃ s ∈ p.segments, c ∈ s := by
  induction p with
  | nil => exact absurd hc List.not_mem_nil
  | cons d p ih =>
    rw [segments, List.splitOn_cons_eq_if_modifyHead]
    split_ifs with hd
    · rcases List.mem_cons.1 hc with rfl | hc
      · exact absurd (beq_iff_eq.1 hd) hne
      · obtain ⟨s, hs, hcs⟩ := ih hc
        exact ⟨s, List.mem_cons_of_mem _ hs, hcs⟩
    · obtain ⟨a, as, has⟩ := List.exists_cons_of_ne_nil (segments_ne_nil p)
      rw [segments] at has ih
      rw [has] at ih
      rw [has, List.modifyHead_cons]
      rcases List.mem_cons.1 hc with rfl | hc
      · exact ⟨c :: a, List.mem_cons_self .., List.mem_cons_self ..⟩
      · obtain ⟨s, hs, hcs⟩ := ih hc
        rcases List.mem_cons.1 hs with rfl | hs
        · exact ⟨d :: s, List.mem_cons_self .., List.mem_cons_of_mem _ hcs⟩
        · exact ⟨s, List.mem_cons_of_mem _ hs, hcs⟩

/-- The segments with slashes between them are the path. -/
theorem join_segments (p : Path) : Text.join ['/'] p.segments = p := List.intercalate_splitOn _

/-- Texts without slashes are the segments of the path they are joined to. -/
theorem segments_join (h : ∀ s ∈ ss, '/' ∉ s) (hne : ss ≠ []) :
    segments (Text.join ['/'] ss) = ss := List.splitOn_intercalate _ h hne

/-- One segment more is joined behind a slash. -/
theorem join_concat (hne : ss ≠ []) (s : Text) :
    Text.join ['/'] (ss ++ [s]) = Text.join ['/'] ss ++ '/' :: s := by
  obtain ⟨a, as, rfl⟩ := List.exists_cons_of_ne_nil hne
  induction as generalizing a with
  | nil => simp [Text.join, List.intercalate]
  | cons b as ih =>
    have hrec := ih b (by simp)
    simp only [Text.join, List.intercalate, List.cons_append, List.intersperse_cons_cons,
      List.flatten_cons] at hrec ⊢
    rw [hrec]
    simp

/-- What is read from a path keeps its segments behind those of that path. -/
theorem exists_segments_join (p q : Path) : ∃ pre, (p.join q).segments = pre ++ q.segments := by
  rw [join]
  split_ifs with hq hlast
  · exact ⟨[], rfl⟩
  · obtain ⟨top, rfl⟩ : ∃ top, p = top ++ ['/'] := List.getLast?_eq_some_iff.1 hlast
    refine ⟨segments top, ?_⟩
    rw [List.append_assoc, List.singleton_append, segments, List.splitOn_append_cons_self]
    rfl
  · refine ⟨segments p, ?_⟩
    rw [segments, List.splitOn_append_cons_self]
    rfl

/-- What stands in front of whatever is read from a path. -/
def front (p : Path) : Path :=
  if p = [] then [] else if p.getLast? = some '/' then p else p ++ ['/']

/-- Joining a relative path puts it behind a front that depends on the first path only. -/
theorem join_eq_front (hq : q.isAbsolute = false) (p : Path) : p.join q = p.front ++ q := by
  by_cases hp : p = []
  · simp [front, hp]
  · rw [join, if_neg (by simp [hq, hp]), front, if_neg hp]
    split_ifs <;> simp

/-- The front of a path consists of its characters, and perhaps a slash. -/
theorem mem_front {c : Char} (h : c ∈ p.front) : c ∈ p ∨ c = '/' := by
  rw [front] at h
  split_ifs at h
  · simp at h
  · exact .inl h
  · simpa using h

/-- A path that ends in a name does not end in a slash. -/
theorem hasTrailingSlash_eq_false (hp : p.segments = ss ++ [s]) (hs : s ≠ []) :
    p.hasTrailingSlash = false := by
  have hslash : '/' ∉ s := not_mem_of_mem_segments (p := p) (by rw [hp]; simp)
  have hlast : p.getLast? = s.getLast? := by
    rw [← join_segments p, hp]
    rcases eq_or_ne ss [] with rfl | hne
    · simp [Text.join, List.intercalate]
    · rw [join_concat hne, List.getLast?_append_cons, List.getLast?_cons]
      cases hg : s.getLast? with
      | none => exact absurd (List.getLast?_eq_none_iff.1 hg) hs
      | some c => rfl
  rw [hasTrailingSlash, hlast, beq_eq_false_iff_ne]
  intro hg
  exact hslash (List.mem_of_getLast? hg)

/-- A path is absolute if its first segment is empty. -/
theorem isAbsolute_iff (hp : p ≠ []) : p.isAbsolute = true ↔ p.segments.head? = some [] := by
  obtain ⟨c, p, rfl⟩ := List.exists_cons_of_ne_nil hp
  obtain ⟨a, as, has⟩ := List.exists_cons_of_ne_nil (segments_ne_nil p)
  rw [segments] at has
  rw [isAbsolute, segments, List.splitOn_cons_eq_if_modifyHead, has]
  by_cases hc : c = '/'
  · simp [hc]
  · simp [hc]

/-- The directories above a path that is longer by one segment. -/
theorem climb_cons (hup : up ≠ []) (s : Text) :
    climb (s :: up) =
      if isIdle s then climb up else Text.join ['/'] (s :: up).reverse :: climb up := by
  obtain ⟨a, as, rfl⟩ := List.exists_cons_of_ne_nil hup
  rfl

/-- The first directory above is a path whose own directories above it are the others. -/
theorem exists_climb_head (hne : up ≠ []) (h : ∀ s ∈ up, '/' ∉ s) :
    ∃ q rest, climb up = q :: rest ∧ q ≠ [] ∧ q.ancestors = climb up ∧
      (q = ['/'] ∨ q <+: Text.join ['/'] up.reverse) := by
  induction up with
  | nil => exact absurd rfl hne
  | cons s up ih =>
    rcases eq_or_ne up [] with rfl | hup
    · rcases eq_or_ne s [] with rfl | hs
      · exact ⟨['/'], [], rfl, by simp, by decide, .inl rfl⟩
      · have hseg : segments s = [s] := List.splitOn_eq_singleton (h s (by simp))
        refine ⟨s, [[]], by rw [climb, if_neg hs], hs, ?_, .inr ?_⟩
        · rw [ancestors, if_neg hs, hseg]
          rfl
        · simp [Text.join, List.intercalate]
    · rw [climb_cons hup]
      -- An idle segment is left out, so the first directory is that of the segments above it.
      split_ifs with hidle
      · obtain ⟨q, rest, hq, hq0, hanc, hpre⟩ := ih hup fun a ha => h a (by simp [ha])
        refine ⟨q, rest, hq, hq0, hanc, hpre.imp_right fun hpre => ?_⟩
        rw [List.reverse_cons, join_concat (by simpa using hup)]
        exact hpre.trans (List.prefix_append ..)
      · have hs : s ≠ [] := by
          rintro rfl
          exact hidle (by decide)
        have hq0 : Text.join ['/'] (s :: up).reverse ≠ [] := by
          rw [List.reverse_cons, join_concat (by simpa using hup)]
          simp
        refine ⟨_, _, rfl, hq0, ?_, .inr (List.prefix_refl _)⟩
        rw [ancestors, if_neg hq0,
          segments_join (fun a ha => h a (List.mem_reverse.1 ha)) (by simp), List.reverse_reverse,
          climb_cons hup, if_neg hidle]

/-- A part of a path that is not refused is not refused. -/
theorem check_of_isPrefix (hp : p.check = .ok ()) (hq : q <+: p) (hq0 : q ≠ []) :
    q.check = .ok () := by
  rw [check] at hp ⊢
  split_ifs at hp with h1 h2 h3
  rw [if_neg fun h => h1 (hq.subset h), if_neg hq0, if_neg]
  rw [isTooLong, decide_eq_true_eq] at h3 ⊢
  obtain ⟨r, rfl⟩ := hq
  rw [Text.utf8Length_append] at h3
  omega

/-- A path with a name at its end is not empty. -/
theorem ne_nil_of_segments (hp : p.segments = ss ++ [s]) (hs : isIdle s = false) : p ≠ [] := by
  rintro rfl
  obtain ⟨-, rfl⟩ : ss = [] ∧ s = [] := by
    simpa [segments, List.singleton_eq_append_iff] using hp
  exact absurd hs (by decide)

/-- A name alone lies in the directory with the empty path. -/
theorem parent?_of_segments_singleton (hp : p.segments = [s]) (hs : isIdle s = false) :
    p.parent? = some [] := by
  have hp' : p.segments = [] ++ [s] := hp
  have hne : s ≠ [] := by
    rintro rfl
    exact absurd hs (by decide)
  rw [parent?, ancestors, if_neg (ne_nil_of_segments hp' hs), hp]
  simp [climb, hne]

/-- **The path of the directory above a name**: the first of those above the path, and a part of
the path unless it is the top. -/
theorem exists_parent (hp : p.segments = ss ++ [s]) (hne : ss ≠ []) (hs : isIdle s = false) :
    ∃ q rest, p.parent?.getD [] = q ∧ climb ss.reverse = q :: rest ∧ q ≠ [] ∧
      q.ancestors = climb ss.reverse ∧ (q = ['/'] ∨ q <+: p) := by
  have hp0 := ne_nil_of_segments hp hs
  have hslash : ∀ a ∈ ss.reverse, '/' ∉ a := fun a ha =>
    not_mem_of_mem_segments (p := p) (by rw [hp]; simp [List.mem_reverse.1 ha])
  have hne' : ss.reverse ≠ [] := by simp [hne]
  obtain ⟨q, rest, hq, hq0, hanc, hpre⟩ := exists_climb_head hne' hslash
  refine ⟨q, rest, ?_, hq, hq0, hanc, hpre.imp_right fun hpre => ?_⟩
  · rw [parent?, ancestors, if_neg hp0, hp, List.reverse_append, List.reverse_singleton,
      List.singleton_append, climb_cons hne', if_neg (by simp [hs]), hq]
    rfl
  · rw [← join_segments p, hp, join_concat hne]
    rw [List.reverse_reverse] at hpre
    exact hpre.trans (List.prefix_append ..)

/-- The directory above the name of a path that is not refused is not refused. -/
theorem check_parent (hc : p.check = .ok ()) (hp : p.segments = ss ++ [s]) (hne : ss ≠ [])
    (hs : isIdle s = false) : check (p.parent?.getD []) = .ok () := by
  obtain ⟨q, rest, hparent, -, hq0, -, rfl | hpre⟩ := exists_parent hp hne hs
  · rw [hparent]
    decide
  · rw [hparent]
    exact check_of_isPrefix hc hpre hq0

end Path

end SourceRecovery
