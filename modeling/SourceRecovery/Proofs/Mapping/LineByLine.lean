import Mathlib.Data.List.Basic
import SourceRecovery.Mapping.Record
import SourceRecovery.Proofs.Text.Trimming

/-! # Reading a mapping file line by line

Which record a line is depends on the trimmed line only (**`parse?_congr`**), and a line is none
exactly if it is blank (**`parse?_eq_none_iff`**). So the line ending is no part of what is read,
and a mapping file is read line feed by line feed (**`parseAll_eq`**): first the lines in front of
a line feed, then what follows it (**`parseAll_append`**). -/

namespace SourceRecovery

namespace Record

variable {line line' text : Text} {c : Char}

/-- Lines that are the same when trimmed are the same record. -/
theorem parse?_congr (h : Text.trim line = Text.trim line') : parse? line = parse? line' := by
  simp only [parse?, h]

/-- **A line is no record** exactly if it is blank. -/
theorem parse?_eq_none_iff : parse? line = none ↔ ∀ c ∈ line, Text.isBlank c = true := by
  rw [← Text.trim_eq_nil_iff, parse?]
  split_ifs with hnil hhash
  · simp [hnil]
  · simp [hnil]
  · simp only [hnil, iff_false]
    split <;> simp

/-- A line with a character that is not blank is a record. -/
theorem isSome_parse? (line : Text) :
    (parse? line).isSome = line.any fun c => !Text.isBlank c := by
  rw [Bool.eq_iff_iff, Option.isSome_iff_ne_none, Ne, parse?_eq_none_iff]
  simp

@[simp] theorem parse?_dropReturn (line : Text) : parse? (Text.dropReturn line) = parse? line :=
  parse?_congr (Text.trim_dropReturn line)

@[simp] theorem parse?_concat_return (line : Text) : parse? (line ++ ['\r']) = parse? line :=
  parse?_congr (Text.trim_concat Text.isBlank_return line)

@[simp] theorem parse?_nil : parse? [] = none := rfl

/-- **The records** are those of the stretches between the line feeds. -/
theorem parseAll_eq (text : Text) : parseAll text = (text.splitOn '\n').filterMap parse? := by
  have hne : text.splitOn '\n' ≠ [] := List.splitOn_ne_nil _ _
  have hrest : (if (text.splitOn '\n').getLast hne = [] then []
      else [(text.splitOn '\n').getLast hne]).filterMap parse? =
        [(text.splitOn '\n').getLast hne].filterMap parse? := by
    -- A last stretch that is empty is no line, and no record either.
    split_ifs with hempty
    · simp [hempty]
    · rfl
  have hsplit := List.dropLast_append_getLast hne
  rw [parseAll, Text.lines]
  simp only [List.getLast?_eq_some_getLast hne, Option.getD_some]
  rw [List.filterMap_append, hrest, List.filterMap_map]
  conv_rhs => rw [← hsplit, List.filterMap_append]
  congr 2
  funext line
  exact parse?_dropReturn line

/-- A text without line feeds is one line. -/
theorem parseAll_of_notMem (hline : '\n' ∉ line) : parseAll line = (parse? line).toList := by
  rw [parseAll_eq, List.splitOn_eq_singleton hline]
  cases h : parse? line <;> simp [h]

/-- **Two texts with a line feed between them** are read one after the other. -/
theorem parseAll_append (text text' : Text) :
    parseAll (text ++ '\n' :: text') = parseAll text ++ parseAll text' := by
  rw [parseAll_eq, parseAll_eq, parseAll_eq, List.splitOn_append_cons_self, List.filterMap_append]

/-- **The first line** is read on its own, and then the text behind its line feed. -/
theorem parseAll_append_newline (hline : '\n' ∉ line) (text : Text) :
    parseAll (line ++ '\n' :: text) = (parse? line).toList ++ parseAll text := by
  rw [parseAll_append, parseAll_of_notMem hline]

/-- There are as many records as lines that are not blank. -/
theorem length_parseAll (text : Text) :
    (parseAll text).length =
      (Text.lines text).countP fun line => line.any fun c => !Text.isBlank c := by
  rw [parseAll, List.length_filterMap_eq_countP]
  simp only [isSome_parse?]

end Record

end SourceRecovery
