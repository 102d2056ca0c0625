import SourceRecovery.CommandLine.Run

/-! # What is printed

The summary of a restoration is printed in words, or as an object with one member a line. Both are
written out here, line by line, without the printers of values.

* **`summaryText_eq`** — the lines of a summary in words (**`summaryLines`**).
* **`renderValue_summaryValue`** — the lines of a summary as an object (**`objectLines`**). -/

namespace SourceRecovery

namespace CommandLine

open Restoration

/-- The text of lines, each with a line feed behind it. -/
def unlines (lines : List Text) : Text := lines.flatMap (· ++ ['\n'])

/-- **The lines of a summary in words**: what the mapping file holds, once it has been read, and how
many entries had each outcome. -/
def summaryLines (s : Summary) : List Text :=
  (s.counts?.toList.map fun c =>
    Text.ofNat c.classes ++ " class lines, ".toList ++ Text.ofNat c.members ++
      " member lines ignored".toList) ++
    [Text.ofNat s.tally.relocated ++ " renamed, ".toList ++ Text.ofNat s.tally.skipped ++
      " skipped, ".toList ++ Text.ofNat s.tally.failed ++ " failed".toList]

/-- The line of an object that says how a restoration ended. -/
def statusLine : Status → Text
  | .completed => "  \"status\": \"completed\",".toList
  | .mappingNotFound => "  \"status\": \"mapping_not_found\",".toList
  | .mappingUnreadable => "  \"status\": \"mapping_unreadable\",".toList
  | .noMappingFound => "  \"status\": \"no_mapping_found\",".toList

/-- The lines of an object that say what the mapping file holds. -/
def mappingLines : Option LineCounts → List Text
  | none => ["  \"mapping\": null".toList]
  | some c =>
    ["  \"mapping\": \x7b".toList,
      "    \"class_count\": ".toList ++ Text.ofNat c.classes ++ [','],
      "    \"member_count\": ".toList ++ Text.ofNat c.members ++ [','],
      "    \"comment_count\": ".toList ++ Text.ofNat c.comments,
      "  \x7d".toList]

/-- **The lines of a summary as an object**: how the restoration ended, how many entries had each
outcome, and what the mapping file holds, once it has been read. -/
def objectLines (s : Summary) : List Text :=
  ["\x7b".toList, statusLine s.status,
    "  \"rewritten\": ".toList ++ Text.ofNat s.tally.relocated ++ [','],
    "  \"skipped\": ".toList ++ Text.ofNat s.tally.skipped ++ [','],
    "  \"failed\": ".toList ++ Text.ofNat s.tally.failed ++ [',']] ++
    mappingLines s.counts? ++ ["\x7d".toList]

/-- **A summary in words** is printed as its lines. -/
theorem summaryText_eq (s : Summary) : summaryText s = unlines (summaryLines s) := by
  obtain ⟨status, tally, counts⟩ := s
  cases counts <;> simp [unlines, summaryLines, summaryText]

/-- A status is written as it is, without an escape. -/
theorem writeString_word (status : Status) :
    "  \"status\": ".toList ++ Json.writeString status.word ++ [','] = statusLine status := by
  cases status <;> rfl

/-- **A summary as an object** is printed as its lines. -/
theorem renderValue_summaryValue (s : Summary) :
    renderValue (summaryValue s) = unlines (objectLines s) := by
  obtain ⟨status, tally, counts⟩ := s
  rw [objectLines, ← writeString_word]
  -- Both sides are appends of literal texts, numbers and the string of the status.
  cases counts <;>
    simp [renderValue, summaryValue, countsValue, Json.Value.pretty, Json.Value.prettyMembers,
      Json.Value.enclose, Json.Value.indent, Json.writeString, Json.escapeCharacter, Text.join,
      List.intercalate, unlines, mappingLines]

end CommandLine

end SourceRecovery
