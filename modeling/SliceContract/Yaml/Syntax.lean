/-!
# Places and errors in YAML text

A mark is a place in the text, counted in characters. A syntax error has a problem and its mark,
and may say what was being read and where that began.
-/

namespace SliceContract

namespace Yaml

/-- Lines and columns count from zero. -/
structure Mark where
  index : Nat
  line : Nat
  column : Nat
  deriving DecidableEq, Repr, Inhabited

namespace Mark

def start : Mark := ⟨0, 0, 0⟩

def isStart (m : Mark) : Bool := m.line = 0 && m.column = 0

def text (m : Mark) : String :=
  "line " ++ toString (m.line + 1) ++ " column " ++ toString (m.column + 1)

/-- A place as the end of a message; the very beginning is not mentioned. -/
def suffix (m : Mark) : String := if m.isStart then "" else " at " ++ m.text

end Mark

/-- What is wrong with a text. -/
inductive Problem where
  | controlCharacter
  | noTokenStart
  | blockEntryPlace
  | keyPlace
  | valuePlace
  | missingColon
  | noDirectiveName
  | directiveNameEnd
  | unknownDirective
  | commentOrBreak
  | versionPoint
  | versionNumber
  | longVersion
  | blank
  | blankOrBreak
  | bang
  | tagUri
  | tagEnd
  | uriEscape
  | leadingOctet
  | trailingOctet
  | name
  | zeroIndentation
  | tabAsIndentation
  | tabInPlain
  | documentIndicator
  | endOfStream
  | unknownEscape
  | hexNumber
  | escapeCode
  | plainColon
  | documentStart
  | repeatedVersion
  | incompatible
  | repeatedHandle
  | undefinedHandle
  | nodeContent
  | blockEntry
  | blockKey
  | flowSequenceEnd
  | flowMappingEnd
  deriving DecidableEq, Repr

def Problem.message : Problem → String
  | controlCharacter => "control characters are not allowed"
  | noTokenStart => "found character that cannot start any token"
  | blockEntryPlace => "block sequence entries are not allowed in this context"
  | keyPlace => "mapping keys are not allowed in this context"
  | valuePlace => "mapping values are not allowed in this context"
  | missingColon => "could not find expected ':'"
  | noDirectiveName => "could not find expected directive name"
  | directiveNameEnd => "found unexpected non-alphabetical character"
  | unknownDirective => "found unknown directive name"
  | commentOrBreak => "did not find expected comment or line break"
  | versionPoint => "did not find expected digit or '.' character"
  | versionNumber => "did not find expected version number"
  | longVersion => "found extremely long version number"
  | blank => "did not find expected whitespace"
  | blankOrBreak => "did not find expected whitespace or line break"
  | bang => "did not find expected '!'"
  | tagUri => "did not find expected tag URI"
  | tagEnd => "did not find the expected '>'"
  | uriEscape => "did not find URI escaped octet"
  | leadingOctet => "found an incorrect leading UTF-8 octet"
  | trailingOctet => "found an incorrect trailing UTF-8 octet"
  | name => "did not find expected alphabetic or numeric character"
  | zeroIndentation => "found an indentation indicator equal to 0"
  | tabAsIndentation => "found a tab character where an indentation space is expected"
  | tabInPlain => "found a tab character that violates indentation"
  | documentIndicator => "found unexpected document indicator"
  | endOfStream => "found unexpected end of stream"
  | unknownEscape => "found unknown escape character"
  | hexNumber => "did not find expected hexadecimal number"
  | escapeCode => "found invalid Unicode character escape code"
  | plainColon => "found unexpected ':'"
  | documentStart => "did not find expected <document start>"
  | repeatedVersion => "found duplicate %YAML directive"
  | incompatible => "found incompatible YAML document"
  | repeatedHandle => "found duplicate %TAG directive"
  | undefinedHandle => "found undefined tag handle"
  | nodeContent => "did not find expected node content"
  | blockEntry => "did not find expected '-' indicator"
  | blockKey => "did not find expected key"
  | flowSequenceEnd => "did not find expected ',' or ']'"
  | flowMappingEnd => "did not find expected ',' or '\x7d'"

/-- What was being read when a problem was met. -/
inductive Context where
  | nextToken
  | simpleKey
  | directive
  | versionDirective
  | handleDirective
  | handleDirectiveBang
  | handleDirectiveEnd
  | handleDirectiveUri
  | tag
  | tagUri
  | anchor
  | repeated
  | blockScalar
  | quotedScalar
  | quotedEscape
  | plainScalar
  | node
  | blockNode
  | flowNode
  | blockSequence
  | blockMapping
  | flowSequence
  | flowMapping
  deriving DecidableEq, Repr

def Context.message : Context → String
  | nextToken => "while scanning for the next token"
  | simpleKey => "while scanning a simple key"
  | directive => "while scanning a directive"
  | versionDirective => "while scanning a %YAML directive"
  | handleDirective => "while scanning a %TAG directive"
  | handleDirectiveBang => "while scanning a tag directive"
  | handleDirectiveEnd => "while parsing a tag directive"
  | handleDirectiveUri => "while parsing a %TAG directive"
  | tag => "while scanning a tag"
  | tagUri => "while parsing a tag"
  | anchor => "while scanning an anchor"
  | repeated => "while scanning an alias"
  | blockScalar => "while scanning a block scalar"
  | quotedScalar => "while scanning a quoted scalar"
  | quotedEscape => "while parsing a quoted scalar"
  | plainScalar => "while scanning a plain scalar"
  | node => "while parsing a node"
  | blockNode => "while parsing a block node"
  | flowNode => "while parsing a flow node"
  | blockSequence => "while parsing a block collection"
  | blockMapping => "while parsing a block mapping"
  | flowSequence => "while parsing a flow sequence"
  | flowMapping => "while parsing a flow mapping"

structure SyntaxError where
  problem : Problem
  mark : Mark
  context : Option (Context × Mark)
  deriving DecidableEq, Repr

namespace SyntaxError

/-- The problem with its place, then the context with its own place if that is another one. A place
at the very beginning is given by its byte offset, if it has one. -/
def message (e : SyntaxError) : String :=
  let place :=
    if !e.mark.isStart then " at " ++ e.mark.text
    else if e.mark.index ≠ 0 then " at position " ++ toString e.mark.index
    else ""
  let context := match e.context with
    | none => ""
    | some (context, mark) =>
      let isElsewhere := mark.line ≠ e.mark.line || mark.column ≠ e.mark.column
      ", " ++ context.message ++ if isElsewhere then mark.suffix else ""
  e.problem.message ++ place ++ context

end SyntaxError

end Yaml

end SliceContract
