import TaggedConfig.Yaml.Character
import TaggedConfig.Yaml.Token
import TaggedConfig.Yaml.SyntaxError

/-!
# Tags, anchors and directives

A tag is written with a handle and a suffix, or verbatim between angle brackets.  Its suffix is a
URI, in which octets can be written as a percent sign and two hexadecimal digits; the octets of one
character have to stand together.
-/

namespace TaggedConfig.Yaml.Tag

def asciiOctets (text : List Char) : List UInt8 := text.map (fun c => UInt8.ofNat c.toNat)

/-- The characters of a URI; a verbatim tag and a directive may hold commas and brackets too. -/
def isUriChar (verbatim : Bool) (c : Char) : Bool :=
  isNameChar c || [';', '/', '?', ':', '@', '&', '=', '+', '$', '.', '%', '!', '~', '*', '\'', '(',
    ')'].contains c || (verbatim && (c == ',' || c == '[' || c == ']'))

/-- How many octets a character has whose first octet is given; zero if none begins so. -/
def octetCount (octet : Nat) : Nat :=
  if octet < 0x80 then 1
  else if octet < 0xc0 then 0
  else if octet < 0xe0 then 2
  else if octet < 0xf0 then 3
  else if octet < 0xf8 then 4
  else 0

def isContinuation (octet : Nat) : Bool := 0x80 ≤ octet && octet < 0xc0

/--
Read the octets of a URI, in reverse, where `awaited` octets are missing of a character that was
begun as an escape.
-/
def scanUri (verbatim : Bool) (context : Context) (began : Mark) :
    List Char → Mark → (awaited : Nat) → List UInt8 → Except SyntaxError (List UInt8 × Cursor)
  | [], mark, awaited, done =>
      if 0 < awaited then .error (.within context began .expectedOctet mark)
      else .ok (done.reverse, ⟨[], mark⟩)
  | '%' :: high :: low :: rest, mark, awaited, done =>
      match hexValue? high, hexValue? low with
      | some high, some low =>
          let octet := high * 16 + low
          let continueWith (awaited : Nat) :=
            scanUri verbatim context began rest (mark.advance 3) awaited (UInt8.ofNat octet :: done)
          if 0 < awaited then
            if isContinuation octet then continueWith (awaited - 1)
            else .error (.within context began .incorrectTrailingOctet mark)
          else if octetCount octet = 0 then
            .error (.within context began .incorrectLeadingOctet mark)
          else continueWith (octetCount octet - 1)
      | _, _ => .error (.within context began .expectedOctet mark)
  | c :: rest, mark, awaited, done =>
      if 0 < awaited || c == '%' then .error (.within context began .expectedOctet mark)
      else if isUriChar verbatim c then
        scanUri verbatim context began rest (mark.next c) 0 (UInt8.ofNat c.toNat :: done)
      else .ok (done.reverse, ⟨c :: rest, mark⟩)

/-- A URI that may not be empty unless something stood before it; it is cut at a zero octet. -/
def uri (verbatim : Bool) (context : Context) (began : Mark) (before : List Char)
    (cursor : Cursor) : Except SyntaxError (List UInt8 × Cursor) := do
  let (octets, after) ← scanUri verbatim context began cursor.rest cursor.mark 0 []
  if before.isEmpty && octets.isEmpty then
    throw (.within context began .expectedTagUri after.mark)
  return ((asciiOctets (before.drop 1) ++ octets).takeWhile (· != 0), after)

/-- An exclamation mark, name characters, and a second exclamation mark if there is one. -/
def handle (cursor : Cursor) : List Char × Cursor :=
  let (name, after) := cursor.skip.span isNameChar
  if after.rest.head? == some '!' then ('!' :: name ++ ['!'], after.skip) else ('!' :: name, after)

/-- Whether a handle is closed by a second exclamation mark. -/
def isClosedHandle (handle : List Char) : Bool :=
  2 ≤ handle.length && handle.getLast? == some '!'

def scan (inFlow : Bool) (cursor : Cursor) :
    Except SyntaxError (List Char × List UInt8 × Cursor) := do
  let began := cursor.mark
  let (handle, suffix, after) ← match cursor.rest with
    | _ :: '<' :: _ => do
        let (suffix, after) ← uri true .uriOfTag began [] (cursor.skipMany 2)
        if after.rest.head? != some '>' then
          throw (.within .tag began .expectedTagEnd after.mark)
        pure ([], suffix, after.skip)
    | _ => do
        let (handle, after) := handle cursor
        if isClosedHandle handle then
          let (suffix, after) ← uri false .uriOfTag began [] after
          pure (handle, suffix, after)
        else
          let (suffix, after) ← uri false .uriOfTag began handle after
          if suffix.isEmpty then pure ([], asciiOctets ['!'], after)
          else pure (['!'], suffix, after)
  if !(inFlow && after.rest.head? == some ',') && !startsWithGap after.rest then
    throw (.within .tag began .expectedGap after.mark)
  return (handle, suffix, after)

end TaggedConfig.Yaml.Tag

namespace TaggedConfig.Yaml.Anchor

/-- The characters other than a gap that may follow the name of an anchor or alias. -/
def mayFollow (text : List Char) : Bool :=
  startsWithGap text || match text with
    | c :: _ => ['?', ':', ',', ']', '\x7d', '%', '@', '\x60'].contains c
    | [] => true

def scan (context : Context) (cursor : Cursor) : Except SyntaxError (List Char × Cursor) := do
  let (name, after) := cursor.skip.span isNameChar
  if name.isEmpty || !mayFollow after.rest then
    throw (.within context cursor.mark .expectedNameCharacter after.mark)
  return (name, after)

end TaggedConfig.Yaml.Anchor

namespace TaggedConfig.Yaml.Directive

def versionDigits : Nat := 9

def versionPart (began : Mark) (cursor : Cursor) : Except SyntaxError (Nat × Cursor) := do
  let (digits, after) := cursor.span Char.isDigit
  if versionDigits < digits.length then
    throw (.within .versionDirective began .versionTooLong
      (cursor.mark.advance versionDigits))
  if digits.isEmpty then
    throw (.within .versionDirective began .expectedVersionNumber after.mark)
  return (digits.foldl (fun value c => value * 10 + (c.toNat - '0'.toNat)) 0, after)

def version (began : Mark) (cursor : Cursor) : Except SyntaxError (TokenKind × Cursor) := do
  let (major, after) ← versionPart began (cursor.skipWhile isBlank)
  if after.rest.head? != some '.' then
    throw (.within .versionDirective began .expectedDigitOrDot after.mark)
  let (minor, after) ← versionPart began after.skip
  return (.versionDirective major minor, after)

def handleExpansion (began : Mark) (cursor : Cursor) :
    Except SyntaxError (TokenKind × Cursor) := do
  let cursor := cursor.skipWhile isBlank
  if cursor.rest.head? != some '!' then
    throw (.within .handleOfDirective began .expectedBang cursor.mark)
  let (handle, after) := Tag.handle cursor
  if !Tag.isClosedHandle handle && handle != ['!'] then
    throw (.within .restOfHandle began .expectedBang after.mark)
  if !(after.rest.head?.any isBlank) then
    throw (.within .handleDirective began .expectedWhitespace after.mark)
  let (expansion, after) ←
    Tag.uri true .uriOfDirective began [] (after.skipWhile isBlank)
  if !startsWithGap after.rest then
    throw (.within .handleDirective began .expectedGap after.mark)
  return (.handleDirective handle expansion, after)

/-- Read the directive whose percent sign stands at the cursor, up to the end of its line. -/
def scan (cursor : Cursor) : Except SyntaxError (TokenKind × Cursor) := do
  let began := cursor.mark
  let (name, after) := cursor.skip.span isNameChar
  if name.isEmpty then
    throw (.within .directive began .expectedDirectiveName after.mark)
  if !startsWithGap after.rest then
    throw (.within .directive began .nonAlphabetical after.mark)
  if name = ['Y', 'A', 'M', 'L'] then version began after
  else if name = ['T', 'A', 'G'] then handleExpansion began after
  else throw (.within .directive began .unknownDirective after.mark)

end TaggedConfig.Yaml.Directive
