import SourceRecovery.Pattern.Meaning
import SourceRecovery.Proofs.Dependency.Detection
import SourceRecovery.Proofs.Pattern.Literal
import SourceRecovery.Proofs.Text.Lossy

/-! # Libraries in the bytes of a file

A source file is searched as text, and what is not UTF-8 in it has been replaced before. The marker
of a rule is ASCII, so this makes no difference: it is found exactly if it stands in the bytes of
the file.

* **`Rule.ofText_pattern`** — the pattern of a rule is its marker, taken literally.
* **`Rule.matchesText_decodeLossy_iff`** — a marker is found if its bytes are in the file.
* **`FileTree.detect_rawBytes`** — what is detected is decided by the bytes of the files. -/

namespace SourceRecovery

/-- The bytes of an ASCII text are the codes of its characters. -/
theorem Utf8.encode_of_ascii {t : Text} (h : ∀ c ∈ t, c.toNat < 0x80) :
    encode t = t.map fun c => UInt8.ofNat c.toNat := by
  rw [encode, List.map_eq_flatMap]
  refine List.flatMap_congr fun c hc => ?_
  have hone : c.val.toNat ≤ 0x7F := Nat.le_of_lt_succ (h c hc)
  unfold String.utf8EncodeChar
  simp only
  rw [if_pos hone]
  rfl

namespace Rule

variable {r : Rule} {d : Bytes} {t : Text}

/-- Markers are ASCII. -/
theorem ascii_marker (hr : r ∈ all) : ∀ c ∈ r.marker, c.toNat < 0x80 := by
  have hascii : ∀ r ∈ all, (r.marker.all fun c => decide (c.toNat < 0x80)) = true := by
    decide +kernel
  exact fun c hc => of_decide_eq_true (List.all_eq_true.1 (hascii r hr) c hc)

/-- The pattern of a rule is its marker with the dots escaped. -/
theorem filter_pattern (hr : r ∈ all) : r.pattern.filter (· ≠ '\\') = r.marker := by
  revert r
  decide +kernel

/-- **The pattern of a rule is its marker**, taken literally. -/
theorem ofText_pattern (hr : r ∈ all) : Pattern.ofText r.pattern = .ok (.literal r.marker) := by
  revert r
  decide +kernel

/-- A rule matches a text exactly if its marker occurs in it. -/
theorem matchesText_iff : r.matchesText t = true ↔ r.marker <:+: t := Text.occursIn_iff

/-- **A marker is found exactly if its bytes are in the file.** -/
theorem matchesText_decodeLossy_iff (hr : r ∈ all) :
    r.matchesText (Utf8.decodeLossy d) = true ↔
      (r.marker.map fun c => UInt8.ofNat c.toNat) <:+: d := by
  have hvalid : '\uFFFD' ∉ r.marker := fun h => absurd (ascii_marker hr _ h) (by decide)
  rw [matchesText_iff, Utf8.infix_decodeLossy_iff hvalid, Utf8.encode_of_ascii (ascii_marker hr)]

end Rule

namespace FileTree

open Detection

variable {t : FileTree} {root path : Path} {kind : SourceKind} {b : Bytes} {r : Rule}
  {f : Findings}

/-- The rules found in a file are those found before and those whose markers are in it. -/
theorem mem_rules_scanFile (hread : t.read path = .ok b) (hr : r ∈ Rule.marked) :
    r ∈ (f.scanFile t path kind).rules ↔
      r ∈ f.rules ∨ r.matchesText (Utf8.decodeLossy b) = true := by
  have hkotlin : (if kind = .kotlin then f.meetKotlin else f).rules = f.rules := by
    cases kind with
    | java => rfl
    | kotlin =>
      show f.meetKotlin.rules = f.rules
      rw [Findings.meetKotlin]
      split_ifs <;> rfl
  rw [Findings.scanFile]
  simp only [hread, Findings.searchText, List.mem_append, List.mem_filter, hkotlin, hr]
  by_cases hfound : r ∈ f.rules <;> simp [hfound]

/-- A rule is detected if its marker is in the text of a source file that can be read. -/
theorem mem_detected_iff (ht : t.IsSound) (hr : r ∈ Rule.marked) :
    r ∈ (t.detect root).detected ↔ ∃ kind path b, t.ComesTo root kind path b ∧
      path.isTooLong = false ∧ r.matchesText (Utf8.decodeLossy b) = true := by
  have hrecord : IsRecord (t.detect root) ((t.walk root).flatMap (occasions t)) :=
    isRecord_ofItems (nodup_walk ht root)
  rw [mem_detected_of_mem_marked _ hr, hrecord.mem_rules, hrecord.mem_events,
    markerFound_mem_occasions_iff ht, and_iff_right hr]

/-- **Undecodable bytes neither hide nor fake a library**, for every rule.

Its pattern stands for its marker, an ASCII text in which the dots of the pattern are not escaped.
Searched for in what was read from some bytes, with a replacement character for each invalid part,
it is found exactly if the bytes of the marker stand in a row among them, whatever is around them.

So the bytes of a file alone decide what is found in it, and those of the source files that can be
read what is detected in a tree. -/
theorem detect_rawBytes (hr : r ∈ Rule.all) :
    let literal := r.pattern.filter (· ≠ '\\')
    let bytes := literal.map fun c => UInt8.ofNat c.toNat
    (∀ c ∈ literal, c.toNat < 0x80) ∧
    (∃ pattern, Pattern.ofText r.pattern = .ok pattern ∧
      (∀ text, pattern.found text = r.matchesText text) ∧
      ∀ d, pattern.found (Utf8.decodeLossy d) = true ↔ bytes <:+: d) ∧
    (r ≠ Rule.kotlin →
      (∀ (t : FileTree) (f : Findings) path kind d, t.read path = .ok d →
        (r ∈ (f.scanFile t path kind).rules ↔ r ∈ f.rules ∨ bytes <:+: d)) ∧
      ∀ (t : FileTree) root, t.IsSound →
        (r ∈ (t.detect root).detected ↔ ∃ kind path d, t.ComesTo root kind path d ∧
          path.isTooLong = false ∧ bytes <:+: d)) := by
  intro literal bytes
  have hliteral : literal = r.marker := Rule.filter_pattern hr
  have hbytes : bytes = r.marker.map fun c => UInt8.ofNat c.toNat := by rw [← hliteral]
  have hfound : ∀ text, (Pattern.literal r.marker).found text = r.matchesText text := by
    intro text
    rw [Bool.eq_iff_iff, Pattern.found_literal_iff, Rule.matchesText_iff]
  have hmatches : ∀ d, r.matchesText (Utf8.decodeLossy d) = true ↔ bytes <:+: d := by
    intro d
    rw [Rule.matchesText_decodeLossy_iff hr, hbytes]
  refine ⟨hliteral ▸ Rule.ascii_marker hr,
    ⟨_, Rule.ofText_pattern hr, hfound, fun d => by rw [hfound, hmatches]⟩, fun hne => ⟨?_, ?_⟩⟩
  · intro t f path kind d hread
    rw [mem_rules_scanFile hread ((List.mem_cons.1 hr).resolve_left hne), hmatches]
  · intro t root ht
    rw [mem_detected_iff ht ((List.mem_cons.1 hr).resolve_left hne)]
    simp only [hmatches]

/-- A truncated character in front of the marker does not hide it, and an invalid byte inside it is
not passed over. -/
theorem detect_rawBytes_room :
    let bytes := "androidx.room".toList.map fun c => UInt8.ofNat c.toNat
    ∃ pattern, Pattern.ofText "androidx\\.room".toList = .ok pattern ∧
      pattern.found (Utf8.decodeLossy ([0xE2, 0x82] ++ bytes ++ [0xF0, 0x9F])) = true ∧
      ¬ pattern.found (Utf8.decodeLossy (bytes.take 8 ++ [0xC0] ++ bytes.drop 8)) = true := by
  obtain ⟨-, ⟨pattern, hpattern, -, hfound⟩, -⟩ := detect_rawBytes (r := Rule.marked[1]) (by decide)
  exact ⟨pattern, hpattern, (hfound _).2 ⟨[0xE2, 0x82], [0xF0, 0x9F], by decide⟩,
    fun h => absurd ((hfound _).1 h) (by decide)⟩

end FileTree

end SourceRecovery
