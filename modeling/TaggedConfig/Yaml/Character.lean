/-!
# Character classes of YAML 1.1

Line breaks, blanks, the letters of names and the characters a document may hold at all.  The end
of the text behaves like a blank wherever a blank has to follow.
-/

namespace TaggedConfig.Yaml

/-- Line feed, carriage return, next line, line separator and paragraph separator. -/
def isBreak (c : Char) : Bool :=
  c == '\n' || c == '\r' || c == '\u0085' || c == '\u2028' || c == '\u2029'

def isBlank (c : Char) : Bool := c == ' ' || c == '\t'

/-- The characters of anchors, handles and directive names. -/
def isNameChar (c : Char) : Bool := c.isAlphanum || c == '_' || c == '-'

/-- The brackets and the comma, which end a plain scalar inside a flow collection. -/
def isFlowIndicator (c : Char) : Bool :=
  c == ',' || c == '[' || c == ']' || c == '{' || c == '}'

/-- The characters that a document may hold; every other one is refused before anything is read. -/
def isAllowed (c : Char) : Bool :=
  c == '\t' || c == '\n' || c == '\r' || (' ' ≤ c && c ≤ '~') || c == '\u0085'
    || ('\u00a0' ≤ c && c.toNat ≤ 0xfffd) || 0x10000 ≤ c.toNat

def hexValue? (c : Char) : Option Nat :=
  if c.isDigit then some (c.toNat - '0'.toNat)
  else if 'a' ≤ c && c ≤ 'f' then some (c.toNat - 'a'.toNat + 10)
  else if 'A' ≤ c && c ≤ 'F' then some (c.toNat - 'A'.toNat + 10)
  else none

def startsWithBreak : List Char → Bool
  | [] => true
  | c :: _ => isBreak c

def startsWithGap : List Char → Bool
  | [] => true
  | c :: _ => isBlank c || isBreak c

/-- The text goes on with three times `sign` and a gap, as document markers do. -/
def startsWithMarker (sign : Char) : List Char → Bool
  | first :: second :: third :: rest =>
      first == sign && second == sign && third == sign && startsWithGap rest
  | _ => false

def startsWithDocumentMarker (text : List Char) : Bool :=
  startsWithMarker '-' text || startsWithMarker '.' text

/-- What a line break stands for inside a scalar: the two Unicode separators are kept. -/
def breakText (c : Char) : Char :=
  if c == '\u2028' || c == '\u2029' then c else '\n'

end TaggedConfig.Yaml
