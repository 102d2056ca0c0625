import Mathlib.Data.Finset.Preimage
import Mathlib.Data.List.Induction
import Mathlib.Data.List.Nodup
import Mathlib.Tactic.SplitIfs
import SourceRecovery.Dependency.Detection

/-! # What a detection records

Each item of a walk gives occasion to report some events (`Detection.occasions`), and a detection
notes them one after the other (`Detection.ofItems_eq_foldl`). A warning is always noted, any other
event only if it has not been noted before, so in the end each event is on record once.

* **`Detection.IsRecord.note`**, **`Detection.isRecord_foldl_note`** — what is on record after one
  event, and after all of them.
* **`Detection.isRecord_ofItems`** — what is on record after a walk.
* **`Detection.IsRecord.detected_eq`** — the rules detected depend on nothing but what is noted.
* **`Detection.IsRecord.exists_perm_reportLines`** — the log lines, one for each thing that is
  reported (**`Detection.reportLines`**). -/

namespace SourceRecovery

namespace Detection

variable {t : FileTree} {f g : Findings} {items : List WalkItem} {item : WalkItem} {e : Event}
  {es noted : List Event} {r : Rule} {path : Path}

/-! ## Noting events -/

/-- Whether an event is a warning. -/
def Event.isWarning : Event → Bool
  | unreadableEntry _ _ | unreadableFile _ _ => true
  | kotlinFound | markerFound _ => false

/-- The findings after an event has been **noted**. -/
def Findings.note (f : Findings) : Event → Findings
  | .kotlinFound => f.meetKotlin
  | .markerFound r =>
    if r ∈ f.rules then f
    else { f with rules := f.rules ++ [r], events := f.events ++ [.markerFound r] }
  | e => { f with events := f.events ++ [e] }

/-- The findings are a **record** of the events noted: each of them is reported once, and the
findings say what has been reported. -/
structure IsRecord (f : Findings) (noted : List Event) : Prop where
  /-- Nothing is reported twice. -/
  nodup : f.events.Nodup
  /-- What has been noted is reported, and nothing else. -/
  mem_events : ∀ e, e ∈ f.events ↔ e ∈ noted
  /-- The findings say whether a Kotlin file has been reported. -/
  kotlin_iff : f.kotlin = true ↔ .kotlinFound ∈ f.events
  /-- The rules found are those reported. -/
  mem_rules : ∀ r, r ∈ f.rules ↔ .markerFound r ∈ f.events

/-- Before anything is noted, the empty findings are a record. -/
theorem isRecord_empty : IsRecord .empty [] where
  nodup := List.nodup_nil
  mem_events := by simp [Findings.empty]
  kotlin_iff := by simp [Findings.empty]
  mem_rules := by simp [Findings.empty]

/-- An event that has been reported before adds nothing to a record. -/
theorem IsRecord.again (h : IsRecord f noted) (he : e ∈ f.events) : IsRecord f (noted ++ [e]) where
  nodup := h.nodup
  mem_events e' := by
    rw [List.mem_append, List.mem_singleton, ← h.mem_events]
    exact ⟨.inl, fun h' => h'.elim id fun heq => heq ▸ he⟩
  kotlin_iff := h.kotlin_iff
  mem_rules := h.mem_rules

/-- An event that has not been reported before is added to a record. -/
theorem IsRecord.add (h : IsRecord f noted) (he : e ∉ f.events)
    (hevents : g.events = f.events ++ [e]) (hkotlin : g.kotlin = true ↔ .kotlinFound ∈ g.events)
    (hrules : ∀ r, r ∈ g.rules ↔ .markerFound r ∈ g.events) : IsRecord g (noted ++ [e]) where
  nodup := by
    rw [hevents, List.nodup_append]
    refine ⟨h.nodup, by simp, ?_⟩
    rintro e' he' _ hmem rfl
    rw [List.mem_singleton] at hmem
    exact he (hmem ▸ he')
  mem_events e' := by rw [hevents, List.mem_append, List.mem_append, h.mem_events]
  kotlin_iff := hkotlin
  mem_rules := hrules

/-- **One more event is noted.** A warning must be a new one. -/
theorem IsRecord.note (h : IsRecord f noted) (hnew : e.isWarning = true → e ∉ noted) :
    IsRecord (f.note e) (noted ++ [e]) := by
  -- Whether an event is new is asked of the findings, a warning is added without being asked.
  cases e with
  | kotlinFound =>
    by_cases hk : f.kotlin = true
    · rw [Findings.note, Findings.meetKotlin, if_pos hk]
      exact h.again (h.kotlin_iff.1 hk)
    · rw [Findings.note, Findings.meetKotlin, if_neg hk]
      refine h.add (mt h.kotlin_iff.2 hk) rfl (by simp) fun r => ?_
      simp [h.mem_rules]
  | markerFound r =>
    by_cases hr : r ∈ f.rules
    · rw [Findings.note, if_pos hr]
      exact h.again ((h.mem_rules r).1 hr)
    · rw [Findings.note, if_neg hr]
      refine h.add (mt (h.mem_rules r).2 hr) rfl (by simp [h.kotlin_iff]) fun r' => ?_
      simp [h.mem_rules]
  | unreadableEntry path cause =>
    refine h.add (mt (h.mem_events _).1 (hnew rfl)) rfl (by simp [Findings.note, h.kotlin_iff])
      fun r => ?_
    simp [Findings.note, h.mem_rules]
  | unreadableFile path cause =>
    refine h.add (mt (h.mem_events _).1 (hnew rfl)) rfl (by simp [Findings.note, h.kotlin_iff])
      fun r => ?_
    simp [Findings.note, h.mem_rules]

/-- Events among which no warning occurs twice. -/
def WarnsOnce (es : List Event) : Prop := es.Pairwise fun e e' => e.isWarning = true → e ≠ e'

/-- **All events are noted**, if no warning occurs twice. -/
theorem isRecord_foldl_note (h : WarnsOnce es) : IsRecord (es.foldl Findings.note .empty) es := by
  induction es using List.reverseRecOn with
  | nil => exact isRecord_empty
  | append_singleton es e ih =>
    rw [WarnsOnce, List.pairwise_append] at h
    rw [List.foldl_append, List.foldl_cons, List.foldl_nil]
    refine (ih h.1).note fun hwarning hmem => ?_
    have hne := h.2.2 e hmem e (List.mem_singleton_self e) hwarning
    exact hne rfl

/-! ## The events of a walk -/

/-- The events that a source file **gives occasion** to report. -/
def fileOccasions (t : FileTree) (path : Path) (kind : SourceKind) : List Event :=
  (if kind = .kotlin then [.kotlinFound] else []) ++
    match t.read path with
    | .error c => [.unreadableFile path c]
    | .ok bytes =>
      (Rule.marked.filter fun r => r.matchesText (Utf8.decodeLossy bytes)).map .markerFound

/-- The events that an item of a walk **gives occasion** to report. -/
def occasions (t : FileTree) : WalkItem → List Event
  | .unreadable path cause => [.unreadableEntry path cause]
  | .file path =>
    match kindOf? path with
    | some kind => fileOccasions t path kind
    | none => []

/-- Noting rules one after the other notes those that have not been found before. -/
theorem foldl_note_markerFound {rs : List Rule} (h : rs.Nodup) (f : Findings) :
    (rs.map Event.markerFound).foldl Findings.note f =
      { f with
        rules := f.rules ++ rs.filter fun r => !f.rules.contains r
        events := f.events ++ (rs.filter fun r => !f.rules.contains r).map .markerFound } := by
  induction rs generalizing f with
  | nil => simp
  | cons r rs ih =>
    obtain ⟨hr, hrs⟩ := List.nodup_cons.1 h
    rw [List.map_cons, List.foldl_cons, ih hrs]
    by_cases hmem : r ∈ f.rules
    · rw [Findings.note, if_pos hmem, List.filter_cons_of_neg (by simp [hmem])]
    · -- The rule just found is none of the others.
      have hrest : (rs.filter fun r' => !(f.rules ++ [r]).contains r') =
          rs.filter fun r' => !f.rules.contains r' := by
        refine List.filter_congr fun r' hr' => ?_
        have hne : r' ≠ r := fun heq => hr (heq ▸ hr')
        simp [hne]
      rw [Findings.note, if_neg hmem, List.filter_cons_of_pos (by simp [hmem])]
      simp only [hrest, List.append_assoc, List.singleton_append, List.map_cons]

/-- Each rule with a marker is listed once. -/
theorem nodup_marked : Rule.marked.Nodup := by decide

/-- Searching a text is noting the rules that it matches. -/
theorem searchText_eq_foldl (f : Findings) (text : Text) :
    f.searchText text =
      ((Rule.marked.filter fun r => r.matchesText text).map Event.markerFound).foldl
        Findings.note f := by
  rw [foldl_note_markerFound (nodup_marked.filter _), List.filter_filter]
  rfl

/-- Scanning a file is noting the events that it gives occasion for, the one for its kind before
those for what it says. -/
theorem scanFile_eq_foldl (f : Findings) (path : Path) (kind : SourceKind) :
    f.scanFile t path kind = (fileOccasions t path kind).foldl Findings.note f := by
  have hkotlin : (if kind = .kotlin then f.meetKotlin else f) =
      (if kind = .kotlin then [Event.kotlinFound] else []).foldl Findings.note f := by
    cases kind <;> rfl
  rw [Findings.scanFile, fileOccasions, List.foldl_append, ← hkotlin]
  cases t.read path with
  | error c => rfl
  | ok bytes => exact searchText_eq_foldl _ _

/-- **An item is met** by noting the events that it gives occasion for. -/
theorem meet_eq_foldl (f : Findings) (item : WalkItem) :
    f.meet t item = (occasions t item).foldl Findings.note f := by
  cases item with
  | unreadable path cause => rfl
  | file path =>
    rw [Findings.meet, occasions]
    cases kindOf? path with
    | none => rfl
    | some kind => exact scanFile_eq_foldl f path kind

/-- **A detection notes all events that the items of the walk give occasion for.** -/
theorem ofItems_eq_foldl (t : FileTree) (items : List WalkItem) :
    ofItems t items = (items.flatMap (occasions t)).foldl Findings.note .empty := by
  rw [ofItems, List.foldl_flatMap]
  congr 1
  funext f item
  exact meet_eq_foldl f item

/-- The item that gives occasion for a warning. -/
def Event.source? : Event → Option WalkItem
  | unreadableEntry path cause => some (.unreadable path cause)
  | unreadableFile path _ => some (.file path)
  | kotlinFound | markerFound _ => none

/-- Only the item that a warning is about gives occasion for it. -/
theorem source?_of_mem_occasions (he : e ∈ occasions t item) (hwarning : e.isWarning = true) :
    e.source? = some item := by
  cases item with
  | unreadable path cause =>
    obtain rfl := List.mem_singleton.1 he
    rfl
  | file path =>
    rw [occasions] at he
    cases hkind : kindOf? path with
    | none => simp [hkind] at he
    | some kind =>
      simp only [hkind, fileOccasions, List.mem_append] at he
      -- A file is warned of only if it cannot be read; all else that is reported is no warning.
      rcases he with he | he
      · split_ifs at he
        · obtain rfl := List.mem_singleton.1 he
          cases hwarning
        · simp at he
      · cases hread : t.read path with
        | error c =>
          simp only [hread, List.mem_singleton] at he
          rw [he]
          rfl
        | ok bytes =>
          simp only [hread, List.mem_map] at he
          obtain ⟨r, -, rfl⟩ := he
          cases hwarning

/-- A file gives occasion for at most one warning, as it is read once. -/
theorem warnsOnce_fileOccasions (t : FileTree) (path : Path) (kind : SourceKind) :
    WarnsOnce (fileOccasions t path kind) := by
  have hrules (rs : List Rule) : WarnsOnce (rs.map Event.markerFound) :=
    List.pairwise_map.2 (List.pairwise_of_forall fun _ _ h => by cases h)
  rw [WarnsOnce, fileOccasions, List.pairwise_append]
  refine ⟨by split_ifs <;> simp, ?_, fun e he e' _ hwarning => ?_⟩
  · cases t.read path with
    | error c => exact List.pairwise_singleton _ _
    | ok bytes => exact hrules _
  · split_ifs at he
    · obtain rfl := List.mem_singleton.1 he
      cases hwarning
    · simp at he

/-- **No warning has two occasions** in a walk that comes across nothing twice. -/
theorem warnsOnce_occasions (h : items.Nodup) : WarnsOnce (items.flatMap (occasions t)) := by
  rw [WarnsOnce, List.pairwise_flatMap]
  constructor
  · intro item _
    cases item with
    | unreadable path cause => exact List.pairwise_singleton _ _
    | file path =>
      rw [occasions]
      cases kindOf? path with
      | none => exact List.Pairwise.nil
      | some kind => exact warnsOnce_fileOccasions t path kind
  · refine h.imp fun {item item'} hne e he e' he' hwarning heq => hne ?_
    subst heq
    have hsource := source?_of_mem_occasions he hwarning
    rw [source?_of_mem_occasions he' hwarning] at hsource
    exact (Option.some.inj hsource).symm

/-- **What a walk brings to light** is a record of all that its items give occasion for. -/
theorem isRecord_ofItems (h : items.Nodup) :
    IsRecord (ofItems t items) (items.flatMap (occasions t)) :=
  ofItems_eq_foldl t items ▸ isRecord_foldl_note (warnsOnce_occasions h)

/-! ## The rules detected -/

/-- Rules are detected in the order in which they are listed. -/
theorem detected_sublist (f : Findings) : f.detected.Sublist Rule.all := by
  have hall : Rule.all = [Rule.kotlin] ++ Rule.marked := rfl
  rw [Findings.detected, hall]
  refine List.Sublist.append ?_ List.filter_sublist
  split_ifs
  · exact List.Sublist.refl _
  · exact List.nil_sublist _

/-- Each rule is listed once. -/
theorem nodup_all : Rule.all.Nodup := by decide

/-- The Kotlin rule is detected exactly if a Kotlin file has been found. -/
theorem kotlin_mem_detected (f : Findings) : Rule.kotlin ∈ f.detected ↔ f.kotlin = true := by
  have hkotlin : Rule.kotlin ∉ Rule.marked := by decide
  cases hk : f.kotlin <;> simp [Findings.detected, hk, hkotlin]

/-- A rule with a marker is detected exactly if it has been found. -/
theorem mem_detected_of_mem_marked (f : Findings) (hr : r ∈ Rule.marked) :
    r ∈ f.detected ↔ r ∈ f.rules := by
  have hne : r ≠ Rule.kotlin := by
    rintro rfl
    exact absurd hr (by decide)
  cases hk : f.kotlin <;> simp [Findings.detected, hk, hr, hne]

/-- A record reports Kotlin exactly if its rule is detected. -/
theorem IsRecord.kotlinFound_mem_iff (h : IsRecord f noted) :
    .kotlinFound ∈ f.events ↔ Rule.kotlin ∈ f.detected := by
  rw [kotlin_mem_detected, h.kotlin_iff]

/-- A record of rules with a marker reports those of them that are detected. -/
theorem IsRecord.markerFound_mem_iff (h : IsRecord f noted)
    (hmarked : ∀ r, .markerFound r ∈ f.events → r ∈ Rule.marked) (r : Rule) :
    .markerFound r ∈ f.events ↔ r ∈ f.detected ∧ r ≠ Rule.kotlin := by
  constructor
  · intro he
    have hr := hmarked r he
    refine ⟨(mem_detected_of_mem_marked f hr).2 ((h.mem_rules r).2 he), ?_⟩
    rintro rfl
    exact absurd hr (by decide)
  · rintro ⟨hdetected, hne⟩
    have hall : r ∈ Rule.all := (detected_sublist f).subset hdetected
    have hr : r ∈ Rule.marked := (List.mem_cons.1 hall).resolve_left hne
    exact (h.mem_rules r).1 ((mem_detected_of_mem_marked f hr).1 hdetected)

/-- Records of the same events detect the same rules. -/
theorem IsRecord.detected_eq {noted' : List Event} (hf : IsRecord f noted)
    (hg : IsRecord g noted') (h : ∀ e, e ∈ noted ↔ e ∈ noted') : f.detected = g.detected := by
  have hevents : ∀ e, e ∈ f.events ↔ e ∈ g.events := fun e => by
    rw [hf.mem_events, hg.mem_events, h]
  have hkotlin : f.kotlin = g.kotlin := by
    rw [Bool.eq_iff_iff, hf.kotlin_iff, hg.kotlin_iff, hevents]
  have hrules : f.rules.contains = g.rules.contains := by
    funext r
    rw [Bool.eq_iff_iff, List.contains_iff_mem, List.contains_iff_mem, hf.mem_rules, hg.mem_rules,
      hevents]
  rw [Findings.detected, Findings.detected, hkotlin, hrules]

/-! ## Log lines -/

/-- The log lines of a detection, but for their order: one for the Kotlin files if there are any,
one for each rule detected but the coroutine library, a warning for each directory that was
**refused** and one for each source file that was left **unread** as its path is too long. -/
def reportLines (detected : List Rule) (refused : List (Path × IoError)) (unread : List Path) :
    List LogLine :=
  (if Rule.kotlin ∈ detected then [⟨.info, "Kotlin sources detected.".toList⟩] else []) ++
    (detected.filter (· ≠ Rule.kotlin)).map (fun r =>
      ⟨.info, "Pattern '".toList ++ r.pattern ++ "' detected for ".toList ++ r.name ++
        ".".toList⟩) ++
    refused.map (fun p =>
      ⟨.warn, "Skipping unreadable source entry: IO error for operation on ".toList ++ p.1 ++
        ": ".toList ++ p.2.message⟩) ++
    unread.map (fun path =>
      ⟨.warn, "Failed to scan ".toList ++ path ++ ": File name too long (os error 36)".toList⟩)

/-- The events that are shown by the log lines of a detection, but for their order. -/
def reportEvents (detected : List Rule) (refused : List (Path × IoError)) (unread : List Path) :
    List Event :=
  (if Rule.kotlin ∈ detected then [.kotlinFound] else []) ++
    (detected.filter (· ≠ Rule.kotlin)).map .markerFound ++
    refused.map (fun p => .unreadableEntry p.1 p.2) ++
    unread.map (.unreadableFile · .nameTooLong)

variable {detected : List Rule} {refused : List (Path × IoError)} {unread : List Path}

/-- The events of a report have its lines. -/
theorem map_line_reportEvents (detected : List Rule) (refused : List (Path × IoError))
    (unread : List Path) :
    (reportEvents detected refused unread).map Event.line =
      reportLines detected refused unread := by
  have hunread : ∀ path, Event.line (.unreadableFile path .nameTooLong) =
      ⟨.warn, "Failed to scan ".toList ++ path ++
        ": File name too long (os error 36)".toList⟩ := by
    intro path
    rw [Event.line, List.append_assoc]
    rfl
  simp only [reportEvents, reportLines, List.map_append, List.map_map, Function.comp_def, hunread]
  congr 3
  split_ifs <;> rfl

/-- What a report consists of. -/
theorem mem_reportEvents_iff :
    e ∈ reportEvents detected refused unread ↔
      (Rule.kotlin ∈ detected ∧ e = .kotlinFound) ∨
      (∃ r, (r ∈ detected ∧ r ≠ Rule.kotlin) ∧ e = .markerFound r) ∨
      (∃ path cause, (path, cause) ∈ refused ∧ e = .unreadableEntry path cause) ∨
      ∃ path, path ∈ unread ∧ e = .unreadableFile path .nameTooLong := by
  have hkotlin : e ∈ (if Rule.kotlin ∈ detected then [Event.kotlinFound] else []) ↔
      Rule.kotlin ∈ detected ∧ e = .kotlinFound := by
    split_ifs with h <;> simp [h]
  simp [reportEvents, hkotlin, eq_comm (a := e)]

/-- No event is reported twice if nothing is given twice. -/
theorem nodup_reportEvents (hdetected : detected.Nodup) (hrefused : refused.Nodup)
    (hunread : unread.Nodup) : (reportEvents detected refused unread).Nodup := by
  have hkotlin : (if Rule.kotlin ∈ detected then [Event.kotlinFound] else []).Nodup := by
    split_ifs <;> simp
  have hmarkers : ((detected.filter (· ≠ Rule.kotlin)).map Event.markerFound).Nodup :=
    List.Nodup.map (fun _ _ h => Event.markerFound.inj h) (hdetected.filter _)
  have hentries : (refused.map fun p => Event.unreadableEntry p.1 p.2).Nodup :=
    hrefused.map fun _ _ h => Prod.ext_iff.2 (Event.unreadableEntry.inj h)
  have hfiles : (unread.map (Event.unreadableFile · .nameTooLong)).Nodup :=
    hunread.map fun _ _ h => (Event.unreadableFile.inj h).1
  -- No event is of two kinds.
  refine ((hkotlin.append hmarkers ?_).append hentries ?_).append hfiles ?_ <;>
  · simp only [List.disjoint_left, List.mem_append, List.mem_map]
    grind

/-- **The log lines** of events that are reported once: the lists of what was refused and left
unread can be read off the events. -/
theorem perm_reportLines (hes : es.Nodup) (hdetected : detected.Nodup)
    (hkotlin : .kotlinFound ∈ es ↔ Rule.kotlin ∈ detected)
    (hmarkers : ∀ r, .markerFound r ∈ es ↔ r ∈ detected ∧ r ≠ Rule.kotlin)
    (hrefused : refused.Nodup)
    (hentries : ∀ path cause, .unreadableEntry path cause ∈ es ↔ (path, cause) ∈ refused)
    (hunread : unread.Nodup)
    (hfiles : ∀ path cause, .unreadableFile path cause ∈ es ↔
      path ∈ unread ∧ cause = .nameTooLong) :
    (es.map Event.line).Perm (reportLines detected refused unread) := by
  rw [← map_line_reportEvents]
  refine List.Perm.map _ ((List.perm_ext_iff_of_nodup hes
    (nodup_reportEvents hdetected hrefused hunread)).2 fun e => ?_)
  rw [mem_reportEvents_iff]
  cases e with
  | kotlinFound => simp [hkotlin]
  | markerFound r => simp [hmarkers]
  | unreadableEntry path cause => simp [hentries]
  | unreadableFile path cause => simp [hfiles]

/-- The arguments for which an event is among others, each once. -/
theorem exists_arguments {α : Type} (event : α → Event) (hevent : Function.Injective event)
    (es : List Event) : ∃ xs : List α, xs.Nodup ∧ ∀ x, x ∈ xs ↔ event x ∈ es := by
  classical
  refine ⟨(es.toFinset.preimage event hevent.injOn).toList, Finset.nodup_toList _, fun x => ?_⟩
  rw [Finset.mem_toList, Finset.mem_preimage, List.mem_toFinset]

/-- **The log lines of a record**, with what was refused and left unread as its warnings say. -/
theorem IsRecord.exists_perm_reportLines (h : IsRecord f noted)
    (hmarked : ∀ r, .markerFound r ∈ f.events → r ∈ Rule.marked)
    (hcause : ∀ path cause, .unreadableFile path cause ∈ f.events → cause = .nameTooLong) :
    ∃ (refused : List (Path × IoError)) (unread : List Path), refused.Nodup ∧ unread.Nodup ∧
      (∀ path cause, (path, cause) ∈ refused ↔ .unreadableEntry path cause ∈ f.events) ∧
      (∀ path, path ∈ unread ↔ .unreadableFile path .nameTooLong ∈ f.events) ∧
      (f.events.map Event.line).Perm (reportLines f.detected refused unread) := by
  obtain ⟨refused, hrefusedNodup, hrefused⟩ := exists_arguments
    (fun p : Path × IoError => .unreadableEntry p.1 p.2)
    (fun _ _ h => Prod.ext_iff.2 (Event.unreadableEntry.inj h)) f.events
  obtain ⟨unread, hunreadNodup, hunread⟩ := exists_arguments
    (fun path : Path => .unreadableFile path .nameTooLong)
    (fun _ _ h => (Event.unreadableFile.inj h).1) f.events
  have hentries : ∀ path cause, (path, cause) ∈ refused ↔ .unreadableEntry path cause ∈ f.events :=
    fun path cause => hrefused (path, cause)
  -- A source file is left unread for one cause only, so its path alone is listed.
  have hfiles : ∀ path cause, .unreadableFile path cause ∈ f.events ↔
      path ∈ unread ∧ cause = .nameTooLong := by
    intro path cause
    rw [hunread]
    constructor
    · intro he
      obtain rfl := hcause path cause he
      exact ⟨he, rfl⟩
    · rintro ⟨he, rfl⟩
      exact he
  exact ⟨refused, unread, hrefusedNodup, hunreadNodup, hentries, hunread,
    perm_reportLines h.nodup ((detected_sublist f).nodup nodup_all) h.kotlinFound_mem_iff
      (h.markerFound_mem_iff hmarked) hrefusedNodup (fun path cause => (hentries path cause).symm)
      hunreadNodup hfiles⟩

end Detection

end SourceRecovery
