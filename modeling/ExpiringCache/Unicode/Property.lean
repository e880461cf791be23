import ExpiringCache.CharSet
import ExpiringCache.Unicode.Age
import ExpiringCache.Unicode.BinaryProperty
import ExpiringCache.Unicode.GeneralCategory
import ExpiringCache.Unicode.Script
import ExpiringCache.Unicode.Segmentation

/-!
# Properties by name

The sets of characters that a Unicode property names. Names are compared in loose form: case,
spaces, hyphens, underscores and a leading "is" do not count. A name that stands alone is a
binary property, a general category or a script, in this order; ages and breaks have to be asked
for by property and value.
-/

namespace ExpiringCache.Unicode

/-- The loose form of a name. The abbreviation "isc" keeps its first two letters, as it names
something else than "c". -/
def looseName (name : List Char) : List Char :=
  let (hasIs, rest) := match name with
    | a :: b :: rest =>
      if (a = 'i' ∨ a = 'I') ∧ (b = 's' ∨ b = 'S') then (true, rest) else (false, name)
    | _ => (false, name)
  let loose := (rest.filter fun c =>
    decide (c.toNat < 128) && c != ' ' && c != '_' && c != '-').map Char.toLower
  if hasIs && loose == ['c'] then ['i', 's', 'c'] else loose

/-- The table listed under a name. -/
def findTable? (tables : List (List String × List String)) (name : List Char) : Option RangeTable :=
  (tables.find? (·.1.contains (String.ofList name))).map fun entry => .ofLines entry.2

/-- The code points of some general categories. -/
def categories (names : List String) : CharSet :=
  .unionAll (names.filterMap fun name =>
    (findTable? generalCategories name.toList).map CharSet.table)

/-- The code points with a general category. -/
def assigned : CharSet :=
  .unionAll (generalCategories.map fun entry => .table (.ofLines entry.2))

/-- The set that a general category names. -/
def category? (name : List Char) : Option CharSet :=
  if name = "any".toList then some .all
  else if name = "ascii".toList then some (.range '\x00' '\x7f')
  else if name = "assigned".toList then some assigned
  else if name = "cn".toList ∨ name = "unassigned".toList then some (.compl assigned)
  else if name = "c".toList ∨ name = "other".toList then
    some (.union (categories ["cc", "cf", "co"]) (.compl assigned))
  else
    match categoryGroups.find? (·.1.contains (String.ofList name)) with
    | some group => some (categories group.2)
    | none => (findTable? generalCategories name).map .table

/-- The set that a script names. -/
def script? (name : List Char) : Option CharSet := (findTable? scripts name).map .table

/-- The characters used with a script. -/
def scriptExtensions? (name : List Char) : Option CharSet :=
  ((findTable? scriptExtensions name).or (findTable? scripts name)).map .table

/-- The code points that a version of Unicode or one before it assigned. -/
def age? (name : List Char) : Option CharSet :=
  (versions.findIdx? (·.1.contains (String.ofList name))).map fun i =>
    .unionAll ((versions.take (i + 1)).map fun entry => .table (.ofLines entry.2))

/-- The set that a name denotes on its own. -/
def property? (name : List Char) : Option CharSet :=
  let name := looseName name
  (((findTable? binaryProperties name).map .table).or (category? name)).or (script? name)

/-- The set of characters for which a property has a value. -/
def propertyValue? (property value : List Char) : Option CharSet :=
  let property := String.ofList (looseName property)
  let value := looseName value
  if property = "gc" ∨ property = "generalcategory" then category? value
  else if property = "sc" ∨ property = "script" then script? value
  else if property = "scx" ∨ property = "scriptextensions" then scriptExtensions? value
  else if property = "age" then age? value
  else if property = "gcb" ∨ property = "graphemeclusterbreak" then
    (findTable? graphemeBreaks value).map .table
  else if property = "wb" ∨ property = "wordbreak" then (findTable? wordBreaks value).map .table
  else if property = "sb" ∨ property = "sentencebreak" then
    (findTable? sentenceBreaks value).map .table
  else none

/-- The decimal digits of all scripts. -/
def digits : CharSet := categories ["nd"]

/-- The table of blanks. -/
def whiteSpaceTable : RangeTable :=
  (findTable? binaryProperties "whitespace".toList).getD ⟨#[]⟩

/-- The table of letters and what is used like letters. -/
def alphabeticTable : RangeTable :=
  (findTable? binaryProperties "alphabetic".toList).getD ⟨#[]⟩

/-- The characters of words: letters, marks, digits, connectors and joiners. -/
def wordSet : CharSet :=
  .unionAll [.table alphabeticTable, categories ["mn", "mc", "me", "nd", "pc"],
    .unionAll (((findTable? binaryProperties "joincontrol".toList).map CharSet.table).toList)]

/-- Whether a character is blank. -/
def isBlank (c : Char) : Bool := whiteSpaceTable.contains c

end ExpiringCache.Unicode
