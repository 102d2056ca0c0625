import SourceRecovery.Proofs.Dependency.Injection
import SourceRecovery.Proofs.FileTree.Place
import SourceRecovery.Proofs.Text.Pieces

/-! # What becomes of the placeholders

The lines of the rules have no slash, and they begin with letters at which no placeholder ends. So
whatever surrounds them, no placeholder arises where they are put, and a build file has none left
once lines have been injected into it.

* **`isApart_block`** — no placeholder can touch the lines that are put in its place.
* **`not_infix_editText`** — an edited text has no placeholder.
* **`inject_of_not_infix`** — an injection leaves a build file without a placeholder as it is.
* **`inject_replaces`** — what injections do to a build file, and when they fail.
* **`inject_count`** — what the number of rules injected says, and when it says nothing. -/

namespace SourceRecovery

namespace Injection

variable {rules : List Rule} {r : Rule} {line text : Text}

/-! ## Lines and placeholders -/

/-- Two placeholders do not overlap. -/
theorem isUnbordered_placeholder : Text.IsUnbordered placeholder := by decide +kernel

/-- The placeholder is not empty. -/
theorem placeholder_ne_nil : placeholder ≠ [] := by decide

/-- There is no slash in the lines of a rule. -/
theorem slash_notMem_block (hrules : ∀ r ∈ rules, r ∈ Rule.all) : '/' ∉ block rules := by
  have hlines : ∀ r ∈ Rule.all, ∀ line ∈ r.lines, '/' ∉ line := by decide +kernel
  intro hslash
  rcases Text.mem_intercalate hslash with hbreak | ⟨line, hline, hmem⟩
  · exact absurd hbreak (by decide)
  · obtain ⟨r, hr, hline⟩ := List.mem_flatMap.1 hline
    exact hlines r (hrules r hr) line hline hmem

/-- Each rule has a first line, which declares an implementation dependency. -/
theorem exists_block_eq (hne : rules ≠ []) (hrules : ∀ r ∈ rules, r ∈ Rule.all) :
    ∃ rest, block rules = 'i' :: 'm' :: rest := by
  have hfirst : ∀ r ∈ Rule.all, r.lines ≠ [] ∧ ∀ line ∈ r.lines.head?, ['i', 'm'] <+: line := by
    decide +kernel
  obtain ⟨r, rules, rfl⟩ := List.exists_cons_of_ne_nil hne
  obtain ⟨hlines, him⟩ := hfirst r (hrules r (by simp))
  obtain ⟨line, lines, hr⟩ := List.exists_cons_of_ne_nil hlines
  rw [block, Text.join, List.flatMap_cons, hr, List.cons_append]
  obtain ⟨rest, hrest⟩ := (him line (by simp [hr])).trans (Text.prefix_intercalate lineBreak line _)
  exact ⟨rest, hrest.symm⟩

/-- **No placeholder touches the lines** that are put in the place of one. -/
theorem isApart_block (hne : rules ≠ []) (hrules : ∀ r ∈ rules, r ∈ Rule.all) :
    Text.IsApart placeholder (block rules) := by
  obtain ⟨rest, hblock⟩ := exists_block_eq hne hrules
  exact Text.isApart_of_notMem (slash_notMem_block hrules) rfl hblock (by decide) (by decide)

/-- **An edited text has no placeholder.** -/
theorem not_infix_editText (hne : rules ≠ []) (hrules : ∀ r ∈ rules, r ∈ Rule.all) (text : Text) :
    ¬ placeholder <:+: editText rules text :=
  (isApart_block hne hrules).not_infix_replaceAll text

/-- A text without a placeholder stays. -/
theorem editText_of_not_infix (h : ¬ placeholder <:+: text) : editText rules text = text :=
  Text.replaceAll_of_not_infix h

/-- An edited text has all lines of the rules. -/
theorem infix_editText (h : placeholder <:+: text) (hr : r ∈ rules) (hline : line ∈ r.lines) :
    line <:+: editText rules text :=
  (Text.infix_intercalate_of_mem lineBreak (List.mem_flatMap.2 ⟨r, hr, hline⟩)).trans
    (Text.infix_replaceAll placeholder_ne_nil h)

end Injection

namespace FileTree

open Injection

variable {t : FileTree} {p : Path} {l k : Location} {segments : List Text} {s text new : Text}
  {rules : List Rule}

/-! ## Reading and editing a build file -/

/-- The path of what is read ends in a name. -/
theorem exists_name_of_reads (ht : t.IsClosed) (h : t.Reads p text) :
    ∃ segments s, p.segments = segments ++ [s] ∧ IsName s := by
  obtain ⟨l, hres, hnode⟩ := h
  refine exists_name_of_resolve ht hres ?_
  rcases hnode with hnode | ⟨hnode, -⟩ <;> simp [hnode]

/-- **No text is read** where nothing is, at a directory, and at a file that is not UTF-8. -/
theorem not_reads_iff (ht : t.IsClosed) :
    (∀ text, ¬ t.Reads p text) ↔
      t.LeadsNowhere p ∨ ∃ l, t.resolve p = .ok l ∧ (t.node? l = some .directory ∨
        ∃ b, t.node? l = some (.file b) ∧ ∀ text, Utf8.encode text ≠ b) := by
  constructor
  · intro hnone
    cases hres : t.resolve p with
    | error e => exact .inl fun l hl => by simp [hres] at hl
    | ok l =>
      refine .inr ⟨l, rfl, ?_⟩
      cases hnode : t.node? l with
      | none =>
        -- A path that is resolved leads to a node.
        obtain ⟨segments, s, hp, hs⟩ := exists_name_of_resolve ht hres (by simp [hnode])
        obtain ⟨-, -, m, -, rfl, hsome⟩ := (resolve_eq_ok_iff hp hs).1 hres
        rw [hnode] at hsome
        cases hsome
      | some n =>
        cases n with
        | directory => exact .inl rfl
        | nullDevice => exact absurd ⟨l, hres, .inr ⟨hnode, rfl⟩⟩ (hnone [])
        | file b =>
          refine .inr ⟨b, rfl, fun text htext => hnone text ⟨l, hres, .inl ?_⟩⟩
          rw [hnode, htext]
  · rintro (hnowhere | ⟨l, hres, hnode⟩) text ⟨l', hres', hread⟩
    · exact hnowhere l' hres'
    · obtain rfl := Except.ok.inj (hres.symm.trans hres')
      rcases hnode with hnode | ⟨b, hnode, hb⟩ <;> rcases hread with hread | ⟨hread, -⟩ <;>
        rw [hnode] at hread
      · cases hread
      · cases hread
      · exact hb text (Node.file.inj (Option.some.inj hread)).symm
      · cases hread

/-- **What has been written is read**, except that the null device stays empty. -/
theorem reads_withEdited (ht : t.IsClosed) (h : t.Reads p text) (hres : t.resolve p = .ok l)
    (hempty : text = [] → new = []) : (t.withEdited l new).Reads p new := by
  obtain ⟨segments, s, hp, hs⟩ := exists_name_of_reads ht h
  obtain ⟨l', hres', hnode⟩ := h
  obtain rfl := Except.ok.inj (hres.symm.trans hres')
  rw [withEdited]
  rcases hnode with hnode | ⟨hnode, rfl⟩
  · have hl : l ≠ [] := ne_nil_of_file hnode
    have hput : (t.put l (.file (Utf8.encode new))).node? l = some (.file (Utf8.encode new)) := by
      rw [node?_put t hl, if_pos rfl]
    rw [if_neg (by simp [hnode])]
    -- No directory has changed, so the path leads to the file as before.
    refine ⟨l, ?_, .inl hput⟩
    refine resolve_mono_of_isSome (workingDirectory_put t l _) (fun k hk => ?_) hp hs hres
      (by rw [hput]; rfl)
    rw [node?_put t hl, if_neg, hk]
    rintro rfl
    rw [hk] at hnode
    cases hnode
  · rw [if_pos hnode]
    exact ⟨l, hres, .inr ⟨hnode, hempty rfl⟩⟩

/-- Writing what has been read changes nothing. -/
theorem withEdited_self
    (h : t.node? l = some (.file (Utf8.encode text)) ∨ t.node? l = some .nullDevice) :
    t.withEdited l text = t := by
  rw [withEdited]
  rcases h with h | h
  · rw [if_neg (by simp [h]), put_of_node? (ne_nil_of_file h) h]
  · rw [if_pos h]

/-- A build file that is read is edited, in a closed tree. -/
theorem inject_of_isClosed (ht : t.IsClosed) (h : t.Reads p text) (hne : rules ≠ []) :
    ∃ l, t.resolve p = .ok l ∧
      (t.node? l = some (.file (Utf8.encode text)) ∨ t.node? l = some .nullDevice) ∧
      t.inject p rules = ⟨t.withEdited l (editText rules text), .ok rules.length,
        [.injecting rules.length p]⟩ := by
  obtain ⟨segments, s, hp, hs⟩ := exists_name_of_reads ht h
  exact inject_of_reads hp hs h hne

/-- **What is in the build file** once lines have been injected is its edited text. -/
theorem reads_inject (ht : t.IsClosed) (h : t.Reads p text) (hne : rules ≠ []) :
    (t.inject p rules).tree.Reads p (editText rules text) := by
  obtain ⟨l, hres, -, hinject⟩ := inject_of_isClosed ht h hne
  rw [hinject]
  refine reads_withEdited ht h hres ?_
  rintro rfl
  exact editText_of_not_infix (by decide)

/-- **Without a placeholder a build file stays as it is.** -/
theorem inject_of_not_infix (hp : p.segments = segments ++ [s]) (hs : IsName s)
    (h : t.Reads p text) (hnone : ¬ placeholder <:+: text) (rules : List Rule) :
    (t.inject p rules).tree = t := by
  by_cases hne : rules = []
  · rw [hne, inject_nil]
  · obtain ⟨l, -, hnode, hinject⟩ := inject_of_reads hp hs h hne
    rw [hinject, editText_of_not_infix hnone]
    exact withEdited_self hnode

/-- **An injection fails** if there is something to inject and no text to edit. -/
theorem exists_error_iff (ht : t.IsClosed) :
    (∃ e, (t.inject p rules).count = .error e) ↔ rules ≠ [] ∧ ∀ text, ¬ t.Reads p text := by
  constructor
  · rintro ⟨e, he⟩
    have hne : rules ≠ [] := by
      rintro rfl
      cases he
    refine ⟨hne, fun text h => ?_⟩
    obtain ⟨l, -, -, hinject⟩ := inject_of_isClosed ht h hne
    rw [hinject] at he
    cases he
  · rintro ⟨hne, hnone⟩
    obtain ⟨cause, hinject⟩ := inject_of_not_reads hnone hne
    exact ⟨_, congrArg Injection.Result.count hinject⟩

/-! ## What an injection leaves -/

/-- **An injection replaces every placeholder once and for all**, in every closed tree.

Of a build file that is read, the pieces around the placeholders stay, and the lines of all rules
are put between them. No placeholder is left, so another injection changes nothing. An injection of
some rules fails exactly if no text is read, and then, or if there are no rules, the tree is as
before. -/
theorem inject_replaces (ht : t.IsClosed) (hrules : ∀ r ∈ rules, r ∈ Rule.all) :
    let injected := t.inject p rules
    let lines := "\n    ".toList.intercalate (rules.flatMap Rule.lines)
    (rules ≠ [] → ∀ text, t.Reads p text → ∃ pieces l,
      Text.FallsInto placeholder text pieces ∧ t.resolve p = .ok l ∧
      (∃ n, injected.count = .ok n) ∧
      injected.tree.Reads p (lines.intercalate pieces) ∧
      (∀ k ≠ l, injected.tree.node? k = t.node? k) ∧
      ¬ placeholder <:+: lines.intercalate pieces ∧
      ∀ again, (injected.tree.inject p again).tree = injected.tree) ∧
    ((∃ e, injected.count = .error e) ↔
      rules ≠ [] ∧ (t.LeadsNowhere p ∨ ∃ l, t.resolve p = .ok l ∧
        (t.node? l = some .directory ∨
          ∃ b, t.node? l = some (.file b) ∧ ∀ text, Utf8.encode text ≠ b))) ∧
    ((∃ e, injected.count = .error e) ∨ rules = [] → injected.tree = t) := by
  intro injected lines
  refine ⟨fun hne text h => ?_, by rw [exists_error_iff ht, not_reads_iff ht], ?_⟩
  · obtain ⟨segments, s, hp, hs⟩ := exists_name_of_reads ht h
    obtain ⟨l, hres, hnode, hinject⟩ := inject_of_isClosed ht h hne
    have hwritten : injected.tree.Reads p (editText rules text) := reads_inject ht h hne
    have hnone : ¬ placeholder <:+: editText rules text := not_infix_editText hne hrules text
    refine ⟨_, l, Text.fallsInto_pieces isUnbordered_placeholder placeholder_ne_nil text, hres,
      ⟨_, congrArg Injection.Result.count hinject⟩, hwritten, fun k hk => ?_, hnone,
      inject_of_not_infix hp hs hwritten hnone⟩
    by_contra hdiffers
    have htree : injected.tree = t.withEdited l (editText rules text) :=
      congrArg Injection.Result.tree hinject
    rw [htree] at hdiffers
    exact hk (node?_withEdited hnode hdiffers).1
  · rintro (he | hnil)
    · obtain ⟨hne, hnone⟩ := (exists_error_iff ht).1 he
      obtain ⟨cause, hinject⟩ := inject_of_not_reads hnone hne
      exact congrArg Injection.Result.tree hinject
    · show (t.inject p rules).tree = t
      rw [hnil, inject_nil]

/-- A tree with nothing but a build file of some text. -/
def buildTree (text : Text) : FileTree where
  entries := [(["build.gradle".toList], .file (Utf8.encode text))]
  workingDirectory := []

/-- The build file of the tree has the given text. -/
theorem reads_buildTree (text : Text) : (buildTree text).Reads "build.gradle".toList text :=
  ⟨["build.gradle".toList], by rfl, .inl (by rfl)⟩

/-- The build file stands in a directory. -/
theorem isClosed_buildTree (text : Text) : (buildTree text).IsClosed := by
  rw [isClosed_iff]
  intro e he _
  rw [List.mem_singleton.1 he]
  exact node?_nil _

/-- Two placeholders in a row get the line of a rule each. Whatever is injected afterwards, the
build file keeps them. -/
theorem inject_replaces_twoPlaceholders :
    let t := buildTree (placeholder ++ placeholder ++ "\n".toList)
    let injected := (t.inject "build.gradle".toList [Rule.kotlin]).tree
    let line := "implementation 'org.jetbrains.kotlinx:kotlinx-coroutines-android:1.7.3'".toList
    injected.Reads "build.gradle".toList (line ++ line ++ "\n".toList) ∧
      ∀ again, (injected.inject "build.gradle".toList again).tree = injected := by
  intro t injected line
  obtain ⟨hinject, -⟩ := inject_replaces (p := "build.gradle".toList)
    (isClosed_buildTree (placeholder ++ placeholder ++ "\n".toList))
    (by decide : ∀ r ∈ [Rule.kotlin], r ∈ Rule.all)
  obtain ⟨-, -, -, -, -, -, -, -, hagain⟩ := hinject (by simp) _ (reads_buildTree _)
  exact ⟨⟨["build.gradle".toList], by decide +kernel, .inl (by decide +kernel)⟩, hagain⟩

/-! ## What is counted -/

/-- **What is counted** is the number of rules, whether or not their lines have been put anywhere.

If the build file has a placeholder, or there are no rules, the count says what was injected: it is
zero exactly if the tree is as before, and else the text has changed and has all lines of the rules.
Without a placeholder the tree is as before, and the rules are counted all the same. -/
theorem inject_count {n : Nat} (ht : t.IsClosed) (hrules : ∀ r ∈ rules, r ∈ Rule.all)
    (h : (t.inject p rules).count = .ok n) :
    let injected := t.inject p rules
    n = rules.length ∧
    ((rules = [] ∨ ∃ text, t.Reads p text ∧ placeholder <:+: text) →
      (n = 0 ↔ injected.tree = t) ∧
      (0 < n → ∃ text written, t.Reads p text ∧ injected.tree.Reads p written ∧ written ≠ text ∧
        ∀ r ∈ rules, ∀ line ∈ r.lines, line <:+: written)) ∧
    ((∀ text, t.Reads p text → ¬ placeholder <:+: text) → injected.tree = t) := by
  intro injected
  by_cases hne : rules = []
  · obtain rfl : n = 0 := by
      rw [hne, inject_nil] at h
      exact (Except.ok.inj h).symm
    have htree : injected.tree = t := by
      show (t.inject p rules).tree = t
      rw [hne, inject_nil]
    exact ⟨by rw [hne]; rfl, fun _ => ⟨by simp [htree], by simp⟩, fun _ => htree⟩
  · -- An injection that does not fail has read the build file.
    have hread : ∃ text, t.Reads p text := by
      by_contra hnone
      obtain ⟨e, he⟩ := (exists_error_iff ht).2 ⟨hne, not_exists.1 hnone⟩
      rw [h] at he
      cases he
    obtain ⟨text, htext⟩ := hread
    obtain ⟨l, -, -, hinject⟩ := inject_of_isClosed ht htext hne
    have hn : n = rules.length := by
      rw [hinject] at h
      exact (Except.ok.inj h).symm
    have hpos : 0 < rules.length := List.length_pos_iff.2 hne
    refine ⟨hn, fun hplaceholder => ?_, fun hnone => ?_⟩
    · obtain ⟨text', htext', hinfix⟩ := hplaceholder.resolve_left hne
      obtain rfl := (htext.iff_eq text').1 htext'
      have hwritten : injected.tree.Reads p (editText rules text') := reads_inject ht htext hne
      have hchanged : editText rules text' ≠ text' :=
        fun heq => not_infix_editText hne hrules text' (heq.symm ▸ hinfix)
      refine ⟨?_, fun _ => ⟨text', _, htext, hwritten, hchanged, fun r hr line hline =>
        infix_editText hinfix hr hline⟩⟩
      constructor
      · omega
      · intro htree
        rw [htree] at hwritten
        exact absurd ((htext.iff_eq _).1 hwritten) hchanged
    · obtain ⟨segments, s, hp, hs⟩ := exists_name_of_reads ht htext
      exact inject_of_not_infix hp hs htext (hnone text htext) rules

/-- Where there is a placeholder, the rule that is counted has been injected. -/
theorem inject_count_onePlaceholder :
    let t := buildTree (placeholder ++ "\n".toList)
    let injected := t.inject "build.gradle".toList [Rule.kotlin]
    injected.count = .ok 1 ∧ injected.tree ≠ t := by
  intro t injected
  have hcount : injected.count = .ok 1 := by decide +kernel
  obtain ⟨-, hinjected, -⟩ := inject_count (isClosed_buildTree (placeholder ++ "\n".toList))
    (by decide) hcount
  have hchanged := (hinjected (.inr ⟨_, reads_buildTree _, (List.prefix_append _ _).isInfix⟩)).1
  exact ⟨hcount, fun htree => absurd (hchanged.2 htree) (by decide)⟩

/-- **A rule is counted although its line was put nowhere**: the build file has no placeholder and
stays as it is. -/
theorem inject_count_withoutPlaceholder :
    let t := buildTree "dependencies {}\n".toList
    let injected := t.inject "build.gradle".toList [Rule.marked[0]]
    injected.count = .ok 1 ∧ injected.tree = t := by
  decide +kernel

end FileTree

end SourceRecovery
