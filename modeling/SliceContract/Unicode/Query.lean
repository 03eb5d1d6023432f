import SliceContract.Unicode.Property
import SliceContract.Unicode.Script

/-!
# Sets of characters by name

A set can be asked for by the name of a property, of a category or of a script, or by a property
and the value that it is to have. Names are compared loosely: case, spaces, underscores and hyphens
do not count, nor does a leading `is`.
-/

namespace SliceContract

namespace Unicode

/-- The letters of a name that count. -/
def looseName (name : String) : String :=
  let isPrefixed := (name.toList.take 2).map Char.toLower == ['i', 's']
  let body := if isPrefixed then name.toList.drop 2 else name.toList
  let kept := (body.filter fun c => c.toNat < 128 && c != ' ' && c != '_' && c != '-').map
    Char.toLower
  -- A property with this abbreviation exists, and no category can be meant.
  if isPrefixed && kept == ['c'] then "isc" else String.ofList kept

/-- Whether a loose name is one of several names. -/
def isNamed (wanted : String) (names : List String) : Bool :=
  names.any fun name => looseName name == wanted

/-- Categories that are commonly taken together, with their names. -/
def categoryGroups : List (List String × List Category) := [
  (["LC", "Cased_Letter"], [.uppercaseLetter, .lowercaseLetter, .titlecaseLetter]),
  (["L", "Letter"],
    [.uppercaseLetter, .lowercaseLetter, .titlecaseLetter, .modifierLetter, .otherLetter]),
  (["M", "Mark", "Combining_Mark"], [.nonspacingMark, .spacingMark, .enclosingMark]),
  (["N", "Number"], [.decimalNumber, .letterNumber, .otherNumber]),
  (["P", "Punctuation", "punct"],
    [.connectorPunctuation, .dashPunctuation, .openPunctuation, .closePunctuation,
      .initialPunctuation, .finalPunctuation, .otherPunctuation]),
  (["S", "Symbol"], [.mathSymbol, .currencySymbol, .modifierSymbol, .otherSymbol]),
  (["Z", "Separator"], [.spaceSeparator, .lineSeparator, .paragraphSeparator]),
  (["C", "Other"], [.control, .format, .privateUse, .unassigned]),
  (["Nd", "digit"], [.decimalNumber]),
  (["Cc", "cntrl"], [.control])]

def categorySet? (wanted : String) : Option CharSet :=
  if wanted = "any" then some .full
  else if wanted = "assigned" then some Category.unassigned.members.complement
  else if wanted = "ascii" then some (.range '\x00' '\x7f')
  else
    match categoryGroups.find? fun group => isNamed wanted group.1 with
    | some group => some (Category.union group.2)
    | none =>
      (Category.all.find? fun c => isNamed wanted [c.abbreviation, c.name]).map Category.members

/-- Two scripts keep a name from before they had one of their own. -/
def script? (wanted : String) : Option Script :=
  let current :=
    if wanted = "qaai" then "inherited" else if wanted = "qaac" then "coptic" else wanted
  Script.all.find? fun s => isNamed current [s.abbreviation, s.name]

def property? (wanted : String) : Option CharProperty :=
  CharProperty.all.find? fun p =>
    isNamed wanted [p.abbreviation, p.name] || (p.abbreviation == "space" && wanted == "wspace")

/-- The characters of a property, a category or a script. Three abbreviations of categories are
abbreviations of other properties too, and mean the categories. -/
def setOf? (name : String) : Option CharSet :=
  let wanted := looseName name
  let property := if ["cf", "sc", "lc"].contains wanted then none else property? wanted
  match property with
  | some p => some p.members
  | none =>
    match categorySet? wanted with
    | some set => some set
    | none => (script? wanted).map Script.members

/-- The characters for which a property has a value. -/
def setOfValue? (property value : String) : Option CharSet :=
  let wanted := looseName value
  if isNamed (looseName property) ["General_Category", "gc"] then categorySet? wanted
  else if isNamed (looseName property) ["Script", "sc"] then (script? wanted).map Script.members
  else if isNamed (looseName property) ["Script_Extensions", "scx"] then
    (script? wanted).map Script.extended
  else none

def digits : CharSet := Category.decimalNumber.members

def blanks : CharSet := CharProperty.whiteSpace.members

/-- Letters, marks, digits and connectors. -/
def wordChars : CharSet :=
  .unions [CharProperty.alphabetic.members, CharProperty.joinControl.members,
    Category.union [.nonspacingMark, .spacingMark, .enclosingMark, .decimalNumber,
      .connectorPunctuation]]

def letters : CharSet := CharProperty.alphabetic.members

/-- Letters and numbers. -/
def alphanumerics : CharSet :=
  letters.union (Category.union [.decimalNumber, .letterNumber, .otherNumber])

end Unicode

end SliceContract
