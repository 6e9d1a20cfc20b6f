import TaggedConfig.Yaml.Mark

/-!
# What can be wrong with the form of a document

A syntax error names one problem, the place where it was noticed, and, where one is known, the
larger construct that was being read with the place where that construct began.  The wording is
produced in one function from these parts.
-/

namespace TaggedConfig.Yaml

/-- The problems that the form of a document can have. -/
inductive Problem where
  | cannotStartToken
  | expectedColon
  | blockEntryNotAllowed
  | keyNotAllowed
  | valueNotAllowed
  | unknownDirective
  | expectedCommentOrBreak
  | expectedDirectiveName
  | nonAlphabetical
  | expectedDigitOrDot
  | versionTooLong
  | expectedVersionNumber
  | expectedWhitespace
  | expectedGap
  | expectedNameCharacter
  | expectedTagEnd
  | expectedBang
  | expectedTagUri
  | expectedOctet
  | incorrectLeadingOctet
  | incorrectTrailingOctet
  | zeroIndentation
  | tabForIndentation
  | tabAgainstIndentation
  | unexpectedDocumentMarker
  | unexpectedEnd
  | unknownEscape
  | expectedHexadecimal
  | invalidCodePoint
  | unexpectedColon
  | expectedDocumentStart
  | duplicateVersion
  | incompatibleVersion
  | duplicateHandle
  | undefinedHandle
  | expectedNodeContent
  | expectedDash
  | expectedKey
  | expectedCommaOrBracket
  | expectedCommaOrBrace
  deriving DecidableEq, Repr

def Problem.describe : Problem → String
  | .cannotStartToken => "found character that cannot start any token"
  | .expectedColon => "could not find expected ':'"
  | .blockEntryNotAllowed => "block sequence entries are not allowed in this context"
  | .keyNotAllowed => "mapping keys are not allowed in this context"
  | .valueNotAllowed => "mapping values are not allowed in this context"
  | .unknownDirective => "found unknown directive name"
  | .expectedCommentOrBreak => "did not find expected comment or line break"
  | .expectedDirectiveName => "could not find expected directive name"
  | .nonAlphabetical => "found unexpected non-alphabetical character"
  | .expectedDigitOrDot => "did not find expected digit or '.' character"
  | .versionTooLong => "found extremely long version number"
  | .expectedVersionNumber => "did not find expected version number"
  | .expectedWhitespace => "did not find expected whitespace"
  | .expectedGap => "did not find expected whitespace or line break"
  | .expectedNameCharacter => "did not find expected alphabetic or numeric character"
  | .expectedTagEnd => "did not find the expected '>'"
  | .expectedBang => "did not find expected '!'"
  | .expectedTagUri => "did not find expected tag URI"
  | .expectedOctet => "did not find URI escaped octet"
  | .incorrectLeadingOctet => "found an incorrect leading UTF-8 octet"
  | .incorrectTrailingOctet => "found an incorrect trailing UTF-8 octet"
  | .zeroIndentation => "found an indentation indicator equal to 0"
  | .tabForIndentation => "found a tab character where an indentation space is expected"
  | .tabAgainstIndentation => "found a tab character that violates indentation"
  | .unexpectedDocumentMarker => "found unexpected document indicator"
  | .unexpectedEnd => "found unexpected end of stream"
  | .unknownEscape => "found unknown escape character"
  | .expectedHexadecimal => "did not find expected hexadecimal number"
  | .invalidCodePoint => "found invalid Unicode character escape code"
  | .unexpectedColon => "found unexpected ':'"
  | .expectedDocumentStart => "did not find expected <document start>"
  | .duplicateVersion => "found duplicate %YAML directive"
  | .incompatibleVersion => "found incompatible YAML document"
  | .duplicateHandle => "found duplicate %TAG directive"
  | .undefinedHandle => "found undefined tag handle"
  | .expectedNodeContent => "did not find expected node content"
  | .expectedDash => "did not find expected '-' indicator"
  | .expectedKey => "did not find expected key"
  | .expectedCommaOrBracket => "did not find expected ',' or ']'"
  | .expectedCommaOrBrace => "did not find expected ',' or '\x7d'"

/-- The constructs that can be under way when a problem is noticed. -/
inductive Context where
  | nextToken
  | simpleKey
  | directive
  | versionDirective
  | handleDirective
  | handleOfDirective
  | restOfHandle
  | uriOfDirective
  | anchor
  | alias
  | tag
  | uriOfTag
  | blockScalar
  | quotedScalar
  | escape
  | plainScalar
  | node
  | blockNode
  | flowNode
  | blockCollection
  | blockMapping
  | flowSequence
  | flowMapping
  deriving DecidableEq, Repr

def Context.describe : Context → String
  | .nextToken => "while scanning for the next token"
  | .simpleKey => "while scanning a simple key"
  | .directive => "while scanning a directive"
  | .versionDirective => "while scanning a %YAML directive"
  | .handleDirective => "while scanning a %TAG directive"
  | .handleOfDirective => "while scanning a tag directive"
  | .restOfHandle => "while parsing a tag directive"
  | .uriOfDirective => "while parsing a %TAG directive"
  | .anchor => "while scanning an anchor"
  | .alias => "while scanning an alias"
  | .tag => "while scanning a tag"
  | .uriOfTag => "while parsing a tag"
  | .blockScalar => "while scanning a block scalar"
  | .quotedScalar => "while scanning a quoted scalar"
  | .escape => "while parsing a quoted scalar"
  | .plainScalar => "while scanning a plain scalar"
  | .node => "while parsing a node"
  | .blockNode => "while parsing a block node"
  | .flowNode => "while parsing a flow node"
  | .blockCollection => "while parsing a block collection"
  | .blockMapping => "while parsing a block mapping"
  | .flowSequence => "while parsing a flow sequence"
  | .flowMapping => "while parsing a flow mapping"

/-- A fault in the form of a document. -/
inductive SyntaxError where
  /-- A character that no document may hold, at a byte offset. -/
  | forbidden (offset : Nat)
  | malformed (problem : Problem) (mark : Mark) (context : Option (Context × Mark))
  deriving DecidableEq, Repr

namespace SyntaxError

/-- A problem noticed inside a construct. -/
def within (context : Context) (began : Mark) (problem : Problem) (mark : Mark) : SyntaxError :=
  .malformed problem mark (some (context, began))

def alone (problem : Problem) (mark : Mark) : SyntaxError := .malformed problem mark none

/-- The place that a caller is told; a forbidden character is reported for the whole text. -/
def mark : SyntaxError → Mark
  | .forbidden _ => .start
  | .malformed _ mark _ => mark

/--
The wording of an error.  A place is left out when it is the very first one, and the place where
the construct began also when the problem was noticed right there.
-/
def message : SyntaxError → String
  | .forbidden offset =>
      "control characters are not allowed"
        ++ (if offset = 0 then "" else " at position " ++ toString offset)
  | .malformed problem mark context =>
      problem.describe ++ (if mark.isOrigin then "" else " at " ++ mark.describe)
        ++ match context with
          | none => ""
          | some (context, began) =>
              ", " ++ context.describe
                ++ (if began.isOrigin || began.samePlace mark then ""
                  else " at " ++ began.describe)

end SyntaxError

end TaggedConfig.Yaml
