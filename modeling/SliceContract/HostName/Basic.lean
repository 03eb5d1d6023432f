import SliceContract.HostName.Label
import SliceContract.HostName.Punycode

/-!
# Host names

Host names in ASCII, and international ones: these are mapped and composed, their labels are checked
in the letters that they stand for, and their form in ASCII must be short enough.
-/

namespace SliceContract

namespace HostName

/-- The longest label and the longest name. -/
def labelLimit : Nat := 63
def nameLimit : Nat := 253

/-- Labels that are not empty and not too long, in a name that is not too long. -/
def fits (labels : List (List Char)) : Bool :=
  (labels.all fun label => !label.isEmpty && label.length ≤ labelLimit) &&
    labels.flatten.length + (labels.length - 1) ≤ nameLimit

/-- A label of letters, digits and inner hyphens. -/
def isPlainLabel (label : List Char) : Bool :=
  label.head? ≠ some '-' && label.getLast? ≠ some '-' && label.all fun c => c.isAlphanum || c = '-'

/-- Whether a text is a host name in ASCII. -/
def isPlain (text : List Char) : Bool :=
  let labels := text.splitOn '.'
  fits labels && labels.all isPlainLabel

/-- A label in two forms. -/
structure LabelForms where
  unicode : List Char
  ascii : List Char

def punycodeMark : List Char := ['x', 'n', '-', '-']

/-- The forms of a mapped label. One that is in ASCII for letters that are not must stand for
letters that are settled and composed. -/
def forms? (label : List Char) : Option LabelForms :=
  if punycodeMark.isPrefixOf label then
    match Punycode.decode? (label.drop 4) with
    | none => none
    | some letters =>
      if (letters.any fun c => 0x80 ≤ c.toNat) && letters.all isSettled &&
          Composition.normalize letters == letters && label.all (·.toNat < 0x80) then
        some ⟨letters, label⟩
      else none
  else if label.all (·.toNat < 0x80) then some ⟨label, label⟩
  else some ⟨label, punycodeMark ++ Punycode.encode label⟩

/-- The labels of an international host name in both forms, if it is one. -/
def international? (text : List Char) : Option (List LabelForms) := do
  let mapped ← text.mapM mapChar?
  let labels ← ((Composition.normalize mapped.flatten).splitOn '.').mapM forms?
  let letters := labels.map LabelForms.unicode
  if letters.all isSound && fits (labels.map LabelForms.ascii) &&
      (!letters.any isRightToLeft || letters.all hasSoundDirections) then
    return labels
  else none

def isBetween (low high : Nat) (c : Char) : Bool := low ≤ c.toNat && c.toNat ≤ high

/-- Characters that no label may hold although they can be looked up. -/
def isForbidden (c : Char) : Bool :=
  [0x640, 0x7FA, 0x302E, 0x302F, 0x303B].contains c.toNat || isBetween 0x3031 0x3035 c

/-- Whether a character may stand between its neighbours: a middle dot stands between two letters
`l`, a Greek number sign before a Greek letter, and a Hebrew punctuation mark after a Hebrew one. -/
def fitsBetween (before : Option Char) (c : Char) (after : Option Char) : Bool :=
  if isForbidden c then false
  else if c.toNat = 0xB7 then before = some 'l' && after = some 'l'
  else if c.toNat = 0x375 then after.any (isBetween 0x370 0x3FF)
  else if c.toNat = 0x5F3 ∨ c.toNat = 0x5F4 then before.any (isBetween 0x590 0x5FF)
  else true

def fitTogether (before : Option Char) : List Char → Bool
  | [] => true
  | c :: rest => fitsBetween before c rest.head? && fitTogether (some c) rest

def middleDot : Char := '\u30fb'

/-- Hiragana, Katakana but for its middle dot, and Han. -/
def isJapanese (c : Char) : Bool :=
  c != middleDot &&
    (isBetween 0x3040 0x309F c || isBetween 0x30A0 0x30FF c || isBetween 0x4E00 0x9FFF c)

/-- The name as a whole: a Katakana middle dot comes with Japanese letters, and digits of the two
Arabic kinds are not mixed. -/
def isSoundName (letters : List Char) : Bool :=
  fitTogether none letters &&
    (!letters.contains middleDot || letters.any isJapanese) &&
    !(letters.any (isBetween 0x660 0x669) && letters.any (isBetween 0x6F0 0x6F9))

/-- Whether a text is an international host name. -/
def isInternational (text : List Char) : Bool :=
  match international? text with
  | some labels => isSoundName (['.'].intercalate (labels.map LabelForms.unicode))
  | none => false

end HostName

end SliceContract
