import SourceRecovery.Text.Basic

/-! # Dependency rules

A **rule** recognises a library by a **marker**, a piece of text that sources using the library
contain, and knows the lines that a build file needs for it. The coroutine library is the one
exception: it is added for every project with Kotlin sources, whatever they contain. -/

namespace SourceRecovery

/-- A library that can be recognised. -/
structure Rule where
  /-- The short name of the library. -/
  name : Text
  /-- The text by which sources that use the library are known. -/
  marker : Text
  /-- The lines that the build file needs. -/
  lines : List Text
deriving Repr, DecidableEq

namespace Rule

/-- The marker written as a pattern, in which a dot is escaped. -/
def pattern (r : Rule) : Text := r.marker.flatMap fun c => if c = '.' then ['\\', '.'] else [c]

/-- Whether a text contains the marker of a rule. -/
def matchesText (r : Rule) (t : Text) : Bool := Text.occursIn r.marker t

/-- The rule for projects with Kotlin sources. -/
def kotlin : Rule where
  name := "kotlinx-coroutines".toList
  marker := "kotlinx.coroutines".toList
  lines := ["implementation 'org.jetbrains.kotlinx:kotlinx-coroutines-android:1.7.3'".toList]

/-- The rules that go by their markers, in the order in which they are reported. -/
def marked : List Rule :=
  [{ name := "retrofit2".toList
     marker := "retrofit2".toList
     lines := ["implementation 'com.squareup.retrofit2:retrofit:2.9.0'".toList] },
   { name := "room".toList
     marker := "androidx.room".toList
     lines :=
      ["implementation 'androidx.room:room-runtime:2.6.1'".toList,
        "kapt 'androidx.room:room-compiler:2.6.1'".toList] },
   { name := "hilt".toList
     marker := "dagger.hilt".toList
     lines :=
      ["implementation 'com.google.dagger:hilt-android:2.48'".toList,
        "kapt 'com.google.dagger:hilt-compiler:2.48'".toList] },
   { name := "glide".toList
     marker := "com.bumptech.glide".toList
     lines :=
      ["implementation 'com.github.bumptech.glide:glide:4.16.0'".toList,
        "annotationProcessor 'com.github.bumptech.glide:compiler:4.16.0'".toList] }]

/-- All rules, in the order in which they are reported. -/
def all : List Rule := kotlin :: marked

/-- The rule of a name. -/
def ofName? (name : Text) : Option Rule := all.find? (·.name == name)

/-- The names of the rules are distinct, so each rule is the rule of its name. -/
theorem ofName?_name {r : Rule} (h : r ∈ all) : ofName? r.name = some r := by
  simp only [all, marked, List.mem_cons, List.not_mem_nil, or_false] at h
  rcases h with rfl | rfl | rfl | rfl | rfl <;> rfl

end Rule

end SourceRecovery
