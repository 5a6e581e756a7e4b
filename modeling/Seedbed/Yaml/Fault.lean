import Seedbed.Yaml.Place

/-!
# Faults of a document's form

Why a text is no well-formed document: a problem with its place, and often what was being read with
the place where that started. Each problem and each activity has one wording.
-/

namespace Seedbed.Yaml

inductive Problem where
  | controlCharacter
  | noSimpleKeyValue
  | blockEntryNotAllowed
  | mappingKeyNotAllowed
  | mappingValueNotAllowed
  | noTokenStart
  | unknownDirective
  | noDirectiveName
  | nonAlphabetic
  | noCommentOrBreak
  | noVersionPoint
  | longVersion
  | noVersionNumber
  | noWhitespace
  | noWhitespaceOrBreak
  | noTagBang
  | noTagAddress
  | noTagClose
  | noEscapedOctet
  | badLeadingOctet
  | badTrailingOctet
  | noAnchorName
  | zeroIndentation
  | tabInIndentation
  | documentMarker
  | endOfStream
  | unknownEscape
  | noHexadecimal
  | badCodePoint
  | unexpectedColon
  | tabBreaksIndentation
  | noDocumentStart
  | duplicateVersion
  | incompatibleVersion
  | duplicateTagHandle
  | undefinedTagHandle
  | noNodeContent
  | noDashIndicator
  | noKey
  | noCommaOrBracket
  | noCommaOrBrace
  deriving DecidableEq, Repr

def Problem.message : Problem → String
  | .controlCharacter => "control characters are not allowed"
  | .noSimpleKeyValue => "could not find expected ':'"
  | .blockEntryNotAllowed => "block sequence entries are not allowed in this context"
  | .mappingKeyNotAllowed => "mapping keys are not allowed in this context"
  | .mappingValueNotAllowed => "mapping values are not allowed in this context"
  | .noTokenStart => "found character that cannot start any token"
  | .unknownDirective => "found unknown directive name"
  | .noDirectiveName => "could not find expected directive name"
  | .nonAlphabetic => "found unexpected non-alphabetical character"
  | .noCommentOrBreak => "did not find expected comment or line break"
  | .noVersionPoint => "did not find expected digit or '.' character"
  | .longVersion => "found extremely long version number"
  | .noVersionNumber => "did not find expected version number"
  | .noWhitespace => "did not find expected whitespace"
  | .noWhitespaceOrBreak => "did not find expected whitespace or line break"
  | .noTagBang => "did not find expected '!'"
  | .noTagAddress => "did not find expected tag URI"
  | .noTagClose => "did not find the expected '>'"
  | .noEscapedOctet => "did not find URI escaped octet"
  | .badLeadingOctet => "found an incorrect leading UTF-8 octet"
  | .badTrailingOctet => "found an incorrect trailing UTF-8 octet"
  | .noAnchorName => "did not find expected alphabetic or numeric character"
  | .zeroIndentation => "found an indentation indicator equal to 0"
  | .tabInIndentation => "found a tab character where an indentation space is expected"
  | .documentMarker => "found unexpected document indicator"
  | .endOfStream => "found unexpected end of stream"
  | .unknownEscape => "found unknown escape character"
  | .noHexadecimal => "did not find expected hexadecimal number"
  | .badCodePoint => "found invalid Unicode character escape code"
  | .unexpectedColon => "found unexpected ':'"
  | .tabBreaksIndentation => "found a tab character that violates indentation"
  | .noDocumentStart => "did not find expected <document start>"
  | .duplicateVersion => "found duplicate %YAML directive"
  | .incompatibleVersion => "found incompatible YAML document"
  | .duplicateTagHandle => "found duplicate %TAG directive"
  | .undefinedTagHandle => "found undefined tag handle"
  | .noNodeContent => "did not find expected node content"
  | .noDashIndicator => "did not find expected '-' indicator"
  | .noKey => "did not find expected key"
  | .noCommaOrBracket => "did not find expected ',' or ']'"
  | .noCommaOrBrace => "did not find expected ',' or '\x7d'"

/-- What was being read when a problem was met. -/
inductive Activity where
  | nextToken
  | simpleKey
  | directive
  | versionDirective
  | tagDirective
  | tagDirectiveStart
  | tagDirectiveHandle
  | tagDirectiveEnd
  | tag
  | tagAddress
  | anchor
  | alias
  | blockScalar
  | quotedScalar
  | quotedEscape
  | plainScalar
  | node
  | blockNode
  | flowNode
  | blockCollection
  | blockMapping
  | flowSequence
  | flowMapping
  deriving DecidableEq, Repr

def Activity.message : Activity → String
  | .nextToken => "while scanning for the next token"
  | .simpleKey => "while scanning a simple key"
  | .directive => "while scanning a directive"
  | .versionDirective => "while scanning a %YAML directive"
  | .tagDirective => "while parsing a %TAG directive"
  | .tagDirectiveStart => "while scanning a tag directive"
  | .tagDirectiveHandle => "while parsing a tag directive"
  | .tagDirectiveEnd => "while scanning a %TAG directive"
  | .tag => "while scanning a tag"
  | .tagAddress => "while parsing a tag"
  | .anchor => "while scanning an anchor"
  | .alias => "while scanning an alias"
  | .blockScalar => "while scanning a block scalar"
  | .quotedScalar => "while scanning a quoted scalar"
  | .quotedEscape => "while parsing a quoted scalar"
  | .plainScalar => "while scanning a plain scalar"
  | .node => "while parsing a node"
  | .blockNode => "while parsing a block node"
  | .flowNode => "while parsing a flow node"
  | .blockCollection => "while parsing a block collection"
  | .blockMapping => "while parsing a block mapping"
  | .flowSequence => "while parsing a flow sequence"
  | .flowMapping => "while parsing a flow mapping"

structure Fault where
  problem : Problem
  place : Place := .start
  /-- For a character that no document may hold, how many bytes come before it. -/
  offset : Nat := 0
  /-- What was being read, and where that started. -/
  context? : Option (Activity × Place) := none
  deriving DecidableEq, Repr

/-- The wording of a fault. The first place of a document is not named, and neither is a starting
place in the line and column of the problem itself. -/
def Fault.message (fault : Fault) : String :=
  let where_ :=
    if fault.place.isFirst && fault.offset != 0 then " at position " ++ toString fault.offset
    else fault.place.suffix
  let context :=
    match fault.context? with
    | none => ""
    | some (activity, place) =>
      ", " ++ activity.message ++
        (if place.line == fault.place.line && place.column == fault.place.column then ""
          else place.suffix)
  fault.problem.message ++ where_ ++ context

def Fault.during (activity : Activity) (start : Place) (problem : Problem) (place : Place) :
    Fault :=
  { problem, place, context? := some (activity, start) }

end Seedbed.Yaml
