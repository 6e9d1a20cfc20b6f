import TaggedConfig.Yaml.Folding
import TaggedConfig.Yaml.SyntaxError

/-!
# Quoted scalars

Line breaks fold as in plain scalars.  Between single quotes the only escape is a doubled quote;
between double quotes a backslash starts an escape, and before a line break it joins the lines.
-/

namespace TaggedConfig.Yaml.Quoted

inductive Quote where
  | single
  | double
  deriving DecidableEq, Repr

def Quote.char : Quote → Char
  | .single => '\''
  | .double => '"'

def escapedChar? : Char → Option Char
  | '0' => some '\x00'
  | 'a' => some '\x07'
  | 'b' => some '\x08'
  | 't' => some '\t'
  | '\t' => some '\t'
  | 'n' => some '\n'
  | 'v' => some '\x0b'
  | 'f' => some '\x0c'
  | 'r' => some '\r'
  | 'e' => some '\x1b'
  | ' ' => some ' '
  | '"' => some '"'
  | '/' => some '/'
  | '\\' => some '\\'
  | 'N' => some '\u0085'
  | '_' => some '\u00a0'
  | 'L' => some '\u2028'
  | 'P' => some '\u2029'
  | _ => none

/-- How many hexadecimal digits follow an escape letter. -/
def escapeWidth? : Char → Option Nat
  | 'x' => some 2
  | 'u' => some 4
  | 'U' => some 8
  | _ => none

/-- The character with a code, unless it is a surrogate or beyond Unicode. -/
def charOfCode? (code : Nat) : Option Char :=
  if h : code.isValidChar then some (Char.ofNatAux code h) else none

/-- Where the reader stands: in the text, behind a backslash, or inside a hexadecimal code. -/
inductive Mode where
  | text
  | escape (backslash : Mark)
  | code (remaining value : Nat) (began : Mark)

/-- The quoted scalar's text and the place behind the closing quote. -/
structure Scalar where
  text : List Char
  after : Cursor

/-- Read on, with the white space since the last word and the reversed text up to it. -/
def scanFrom (quote : Quote) (began : Mark) :
    List Char → Mark → Mode → Folding → List Char → Except SyntaxError Scalar
  | [], mark, .text, _, _ => .error (.within .quotedScalar began .unexpectedEnd mark)
  | [], _, .escape backslash, _, _ =>
      .error (.within .escape began .unknownEscape backslash)
  | [], _, .code _ _ digits, _, _ =>
      .error (.within .escape began .expectedHexadecimal digits)
  | '\r' :: '\n' :: rest, mark, .text, pending, done =>
      scanFrom quote began rest (mark.nextLine 2) .text (pending.addBreak '\n') done
  | '\r' :: '\n' :: rest, mark, .escape _, _, done =>
      scanFrom quote began rest (mark.nextLine 2) .text .escapedBreak done
  | '\'' :: '\'' :: rest, mark, .text, pending, done =>
      match quote with
      | .single =>
          scanFrom quote began rest (mark.advance 2) .text .empty
            ('\'' :: (pending.reversedText ++ done))
      | .double =>
          scanFrom quote began rest (mark.advance 2) .text .empty
            ('\'' :: '\'' :: (pending.reversedText ++ done))
  | c :: rest, mark, .text, pending, done =>
      if isBlank c then scanFrom quote began rest (mark.next c) .text (pending.addBlank c) done
      else if isBreak c then
        scanFrom quote began rest (mark.nextLine c.utf8Size) .text (pending.addBreak c) done
      else if mark.column == 0 && startsWithDocumentMarker (c :: rest) then
        .error (.within .quotedScalar began .unexpectedDocumentMarker mark)
      else if c == quote.char then
        .ok ⟨(pending.reversedText ++ done).reverse, ⟨rest, mark.next c⟩⟩
      else if quote == .double && c == '\\' then
        scanFrom quote began rest (mark.next c) (.escape mark) .empty (pending.reversedText ++ done)
      else
        scanFrom quote began rest (mark.next c) .text .empty (c :: (pending.reversedText ++ done))
  | c :: rest, mark, .escape backslash, _, done =>
      if isBreak c then
        scanFrom quote began rest (mark.nextLine c.utf8Size) .text .escapedBreak done
      else
        match escapedChar? c, escapeWidth? c with
        | some plain, _ => scanFrom quote began rest (mark.next c) .text .empty (plain :: done)
        | none, some width =>
            scanFrom quote began rest (mark.next c) (.code width 0 (mark.next c)) .empty done
        | none, none => .error (.within .escape began .unknownEscape backslash)
  | c :: rest, mark, .code remaining value digits, _, done =>
      match hexValue? c with
      | none => .error (.within .escape began .expectedHexadecimal digits)
      | some digit =>
          let value := value * 16 + digit
          if 1 < remaining then
            scanFrom quote began rest (mark.next c) (.code (remaining - 1) value digits) .empty done
          else
            match charOfCode? value with
            | some meant => scanFrom quote began rest (mark.next c) .text .empty (meant :: done)
            | none => .error (.within .escape began .invalidCodePoint digits)

def scan (quote : Quote) (cursor : Cursor) : Except SyntaxError Scalar :=
  let opened := cursor.skip
  scanFrom quote cursor.mark opened.rest opened.mark .text .empty []

end TaggedConfig.Yaml.Quoted
