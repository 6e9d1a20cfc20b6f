import TaggedConfig.Yaml.Character
import TaggedConfig.Yaml.Scalar

/-!
# Writing scalars

A string is written plainly if it then reads back as the same string; otherwise between single
quotes, as a literal block if it has line feeds, or between double quotes, which can hold anything.
Lines are never folded.
-/

namespace TaggedConfig.Yaml.Writing

/-- The characters that stand for themselves outside double quotes. -/
def isPrintable (c : Char) : Bool :=
  c == '\n' || (' ' ≤ c && c ≤ '~')
    || ('\u00a0' ≤ c && c.toNat ≤ 0xfffd && c != '\ufeff') || 0x10000 ≤ c.toNat

def isGap (c : Char) : Bool := isBlank c || isBreak c || c == '\x00'

def startsWithWordEnd : List Char → Bool
  | [] => true
  | c :: _ => isGap c

/-- The characters that mean something at the beginning of a node. -/
def isIndicator (c : Char) : Bool :=
  isFlowIndicator c || c == '#' || c == '&' || c == '*' || c == '!' || c == '|' || c == '>'
    || c == '\'' || c == '"' || c == '%' || c == '@' || c == '\x60'

/-- A text that would be taken for something else from its first characters. -/
def beginsLikeMarkup : List Char → Bool
  | [] => false
  | '-' :: '-' :: '-' :: _ | '.' :: '.' :: '.' :: _ => true
  | c :: rest =>
      isIndicator c || ((c == '?' || c == ':' || c == '-') && startsWithWordEnd rest)

/-- A colon in front of a gap, or a number sign behind one, beyond the first character. -/
def holdsMarkup (afterGap : Bool) : List Char → Bool
  | [] => false
  | c :: rest =>
      (c == ':' && startsWithWordEnd rest) || (c == '#' && afterGap) || holdsMarkup (isGap c) rest

def isLikeMarkup (text : List Char) : Bool :=
  beginsLikeMarkup text
    || match text with
      | [] => false
      | c :: rest => holdsMarkup (isGap c) rest

def hasPair (first second : Char → Bool) : List Char → Bool
  | c :: d :: rest => (first c && second d) || hasPair first second (d :: rest)
  | _ => false

def isSpaceChar (c : Char) : Bool := c == ' '

/-- A character that cannot begin or end a plain scalar. -/
def isEdgeGap (c : Char) : Bool := isSpaceChar c || isBreak c

/-- A text that can only be written between double quotes: spaces end a line, or a character is not
printable. -/
def needsEscapes (text : List Char) : Bool :=
  hasPair isSpaceChar isBreak text || text.any fun c => !isPrintable c

def allowsPlain (text : List Char) : Bool :=
  !needsEscapes text && !text.any isBreak && !text.head?.any isEdgeGap
    && !text.getLast?.any isEdgeGap && !isLikeMarkup text

def allowsSingleQuotes (text : List Char) : Bool :=
  !needsEscapes text && !hasPair isBreak isSpaceChar text

def allowsLiteral (text : List Char) : Bool :=
  !needsEscapes text && !text.getLast?.any isSpaceChar

/-- A string that would be read as something else if it were plain. -/
def isMistakable (text : String) : Bool :=
  match Scalar.plain text with
  | .ok (.string _) => Scalar.isPaddedDigits text.toList
  | _ => true

def styleOf (text : String) : ScalarStyle :=
  let chars := text.toList
  if chars.contains '\n' then
    if allowsLiteral chars then .literal else .doubleQuoted
  else if !isMistakable text && allowsPlain chars then .plain
  else if allowsSingleQuotes chars then .singleQuoted
  else .doubleQuoted

def indentation (indent : Nat) : List Char := List.replicate indent ' '

/-- A text between single quotes; a quote is written twice, and lines are indented. -/
def singleQuotedFrom (indent : Nat) : (afterBreak : Bool) → List Char → List Char
  | afterBreak, [] => if afterBreak then indentation indent else []
  | afterBreak, c :: rest =>
      if isBreak c then c :: singleQuotedFrom indent true rest
      else
        (if afterBreak then indentation indent else [])
          ++ (if c == '\'' then ['\'', c] else [c]) ++ singleQuotedFrom indent false rest

def escapeLetter? (c : Char) : Option Char :=
  match c with
  | '\x00' => some '0'
  | '\x07' => some 'a'
  | '\x08' => some 'b'
  | '\t' => some 't'
  | '\n' => some 'n'
  | '\x0b' => some 'v'
  | '\x0c' => some 'f'
  | '\r' => some 'r'
  | '\x1b' => some 'e'
  | '"' => some '"'
  | '\\' => some '\\'
  | '\u0085' => some 'N'
  | '\u00a0' => some '_'
  | '\u2028' => some 'L'
  | '\u2029' => some 'P'
  | _ => none

def hexDigits (width code : Nat) : List Char :=
  let digits := (Nat.toDigits 16 code).map Char.toUpper
  List.replicate (width - digits.length) '0' ++ digits

def doubleQuotedChar (c : Char) : List Char :=
  if isPrintable c && !isBreak c && c != '"' && c != '\\' then [c]
  else
    match escapeLetter? c with
    | some letter => ['\\', letter]
    | none =>
        if c.toNat ≤ 0xff then '\\' :: 'x' :: hexDigits 2 c.toNat
        else if c.toNat ≤ 0xffff then '\\' :: 'u' :: hexDigits 4 c.toNat
        else '\\' :: 'U' :: hexDigits 8 c.toNat

def literalLines (indent : Nat) : (atLineStart : Bool) → List Char → List Char
  | _, [] => []
  | atLineStart, c :: rest =>
      if isBreak c then c :: literalLines indent true rest
      else (if atLineStart then indentation indent else []) ++ c :: literalLines indent false rest

def indentationHint (text : List Char) : List Char :=
  if text.head?.any isEdgeGap then ['2'] else []

/-- The mark for a block that does not end with exactly one line break. -/
def chompingHint (text : List Char) : List Char :=
  match text.reverse with
  | [] => ['-']
  | last :: before =>
      if !isBreak last then ['-'] else if before.head?.all isBreak then ['+'] else []

def literal (indent : Nat) (text : List Char) : List Char :=
  '|' :: indentationHint text ++ chompingHint text ++ '\n' :: literalLines indent true text

def string (indent : Nat) (text : String) : List Char :=
  let chars := text.toList
  match styleOf text with
  | .literal => literal indent chars
  | .singleQuoted => '\'' :: singleQuotedFrom indent false chars ++ ['\'']
  | .doubleQuoted => '"' :: chars.flatMap doubleQuotedChar ++ ['"']
  | _ => chars

def endLine (text : List Char) : List Char :=
  if text.getLast?.any isBreak then text else text ++ ['\n']

end TaggedConfig.Yaml.Writing
