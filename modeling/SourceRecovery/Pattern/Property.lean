import SourceRecovery.Pattern.CharSet
import SourceRecovery.Pattern.Error
import SourceRecovery.Text.Letter
import SourceRecovery.Text.Script

/-! # Unicode properties in patterns

Which characters have the property that a pattern names. Case and separators do not matter in the
names of properties and of their values, nor does a leading `is`. -/

namespace SourceRecovery

namespace Pattern

/-- A name without what does not matter in it. The name that would be left of `isc` is that of
something else, so it stays as it is. -/
def plainName (name : Text) : Text :=
  let normalize (t : Text) : Text :=
    (t.filter fun c => c.toNat < 0x80 && !" _-".toList.contains c).map Char.toLower
  match Text.cut? ['i', 's'] (name.map Char.toLower) with
  | some ([], rest) => if normalize rest = ['c'] then "isc".toList else normalize rest
  | _ => normalize name

/-- The properties that a character has or has not, with their names. -/
def binaryProperties : List (List String × List (Nat × Nat)) :=
  [(["alphabetic", "alpha"], Text.alphabeticRanges), (["lowercase", "lower"], Text.lowercaseRanges),
    (["uppercase", "upper"], Text.uppercaseRanges),
    (["whitespace", "wspace", "space"], Text.blankRanges)]

/-- The set of the characters of a category. -/
def categorySet : Text.Category → CharSet
  | .unassigned => .complement (.ranges (Text.Category.assigned.flatMap Text.Category.ranges))
  | k => .ranges k.ranges

/-- The set of the characters of a category, or of a group of categories, by its name. -/
def categorySet? (name : Text) : Option CharSet :=
  if name = "ascii".toList then some .ascii
  else (Text.Category.ofName? name).map fun ks => (ks.map categorySet).foldr .union .empty

/-- The set of the characters of a script, by its name. -/
def scriptSet? (name : Text) : Option CharSet :=
  (Text.Script.ofName? name).map fun s => .ranges s.ranges

/-- The names of the surrogates, a category without characters that cannot be asked for. -/
def surrogateNames : List String := ["cs", "surrogate"]

/-- The set of the characters with a property that is named without a value. -/
def plainPropertySet (name : Text) : Except Fault CharSet :=
  match binaryProperties.find? (·.1.any (·.toList == name)) with
  | some (_, rs) => .ok (.ranges rs)
  | none =>
    if surrogateNames.any (·.toList == name) then .error .propertyValueUnknown
    else
      match (categorySet? name).or (scriptSet? name) with
      | some s => .ok s
      | none => .error .propertyUnknown

/-- The properties with values, and the sets of the characters with each of them. -/
def valuedProperties : List (List String × (Text → Option CharSet)) :=
  [(["generalcategory", "gc"], categorySet?), (["script", "sc"], scriptSet?)]

/-- The set of the characters with a value of a property. -/
def valuedPropertySet (name value : Text) : Except Fault CharSet :=
  match valuedProperties.find? (·.1.any (·.toList == name)) with
  | none => .error .propertyUnknown
  | some (_, set?) =>
    match set? value with
    | some s => .ok s
    | none => .error .propertyValueUnknown

/-- The set of the characters with a property. -/
def PropertyName.set : PropertyName → Except Fault CharSet
  | plain name => plainPropertySet (plainName name)
  | valued name value => valuedPropertySet (plainName name) (plainName value)

/-- Separators and case do not matter in a name. -/
example : plainName "Is_Lower-case Letter".toList = "lowercaseletter".toList ∧
    plainName "isC".toList = "isc".toList ∧ plainName "Script".toList = "script".toList := by
  decide +kernel

end Pattern

end SourceRecovery
