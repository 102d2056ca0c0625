import SourceRecovery.Proofs.Configuration.Document
import SourceRecovery.Proofs.FileTree.Contents

/-! # Saving and loading a configuration

What is written for a configuration is a document that names all of its fields, so reading it gives
the configuration back.

* **`read_write`** — a configuration is read back from its document.
* **`FileTree.loadConfiguration_of_write`** — a configuration that is saved is loaded again. -/

namespace SourceRecovery

namespace Configuration

open Json

/-- A key and a string value as they are written make a member. -/
theorem isMember_write (f : Field) {v : Text} (hv : IsValue f v) :
    IsMember (Utf8.encode (writeString f.key ++ ':' :: writeString v)) (some (f, v)) := by
  obtain ⟨key, hkey, hspells⟩ := exists_spells_writeString f.key
  obtain ⟨value, hvalue, hspells'⟩ := exists_spells_writeString v
  have hmember := IsMember.setting isBlank_nil hspells isBlank_nil isBlank_nil hspells' hv
    isBlank_nil
  have hcolon : Utf8.encode (':' :: writeString v) = 0x3A :: Utf8.encode (writeString v) := rfl
  rw [Utf8.encode_append, hcolon, hkey, hvalue]
  simpa using hmember

/-- The member of a field as it is written. -/
def memberText (c : Configuration) (f : Field) : Text :=
  writeString f.key ++ ':' :: writeString (c.textAt f)

/-- What is written of a configuration is its three members, one behind the other. -/
theorem write_eq (c : Configuration) :
    c.write = ['\x7b'] ++ (c.memberText .mappingFile ++ [',']) ++
      (c.memberText .sourceDirectory ++ [',']) ++ (c.memberText .captureOrder ++ ['\x7d']) := by
  simp [write, toValue, Value.compact, Value.compactMembers, Text.join, memberText, textAt,
    List.intercalate]

/-- **What is written is a document** of the values of all fields. -/
theorem isDocument_write (c : Configuration) :
    IsDocument (Utf8.encode c.write) (Field.all.map fun f => (f, c.textAt f)) := by
  have hmember (f : Field) := isMember_write f (isValue_textAt c f)
  have hopening : IsBeginning [0x7B] [] := .opening isBlank_nil
  have hdocument := IsDocument.members
    ((hopening.member (hmember .mappingFile)).member (hmember .sourceDirectory))
    (hmember .captureOrder) isBlank_nil
  rw [write_eq]
  simp only [Utf8.encode_append]
  exact hdocument

/-- **A configuration is read back from its document.** -/
theorem read_write (c : Configuration) : read (Utf8.encode c.write) = .ok c := by
  obtain ⟨c', hread, htext⟩ := exists_read_of_isDocument (isDocument_write c) (by simp [Field.all])
  have hc : c' = c := ext_textAt fun f => by rw [htext]; cases f <;> rfl
  rw [hread, hc]

end Configuration

/-- **A configuration that is saved is loaded again**, whatever characters its paths hold: after its
document has been written to a file, loading that file gives the configuration. -/
theorem FileTree.loadConfiguration_of_write {t u : FileTree} {p : Path} {c : Configuration}
    (h : t.write p (Utf8.encode c.write) = .ok u) (hfile : u.isFile p = true) :
    u.loadConfiguration p = .ok c := by
  have hread : u.read p = .ok (Utf8.encode c.write) := read_of_write h hfile
  rw [loadConfiguration, hread]
  simp only [Configuration.read_write]

/-- A directory with a configuration of which one path holds a quotation mark, a backslash, a line
break, another control character and a character above `U+FFFF`, and the other is empty but for a
zero. -/
theorem FileTree.loadConfiguration_of_write_awkward :
    let c : Configuration := ⟨"\"a\\\n\x1b😀".toList, "\x00".toList, .restoredFirst⟩
    let saved := FileTree.mk [(["c.json".toList], .file (Utf8.encode c.write))] []
    (FileTree.mk [] []).write "c.json".toList (Utf8.encode c.write) = .ok saved ∧
      saved.loadConfiguration "c.json".toList = .ok c := by
  intro c saved
  have hwrite : (FileTree.mk [] []).write "c.json".toList (Utf8.encode c.write) = .ok saved := by
    decide +kernel
  exact ⟨hwrite, loadConfiguration_of_write hwrite (by decide +kernel)⟩

end SourceRecovery
