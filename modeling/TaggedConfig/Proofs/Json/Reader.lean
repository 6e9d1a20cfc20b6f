import TaggedConfig.Number.Integer
import TaggedConfig.Number.Reading
import TaggedConfig.Value

/-!
# A reader of JSON

What RFC 8259 calls JSON, and nothing else: a text is cut into lexemes, between which there may be
white space, and each lexeme takes the reader one step further.  The members of an object are kept in
order.  A number with neither point nor exponent is an integer with 64 bits, and any other number is
rounded to the nearest finite one with a fraction.
-/

namespace TaggedConfig.Json

def isSpace (c : Char) : Bool := [' ', '\t', '\n', '\r'].contains c

def isMark (c : Char) : Bool := ['[', ']', '\x7b', '\x7d', ':', ','].contains c

/-- A character that words and numbers consist of, well-formed or not. -/
def isBare (c : Char) : Bool := !isSpace c && !isMark c && c != '"'

/-- Where the reader of a text stands. -/
inductive Lexer where
  /-- Behind some characters of a word or a number, or between lexemes. -/
  | bare (before : List Char)
  /-- Inside a string, perhaps behind a backslash. -/
  | quoted (before : List Char) (escaped : Bool)

namespace Lexer

def pending : Lexer → List (List Char)
  | .bare [] => []
  | .bare before => [before]
  | .quoted before _ => [before]

/-- One character further: the lexemes that end there, and where the reader stands then. -/
def step : Lexer → Char → List (List Char) × Lexer
  | .quoted before true, c => ([], .quoted (before ++ [c]) false)
  | .quoted before false, c =>
      if c = '"' then ([before ++ [c]], .bare []) else ([], .quoted (before ++ [c]) (c == '\\'))
  | .bare before, c =>
      if isSpace c then (pending (.bare before), .bare [])
      else if isMark c then (pending (.bare before) ++ [[c]], .bare [])
      else if c = '"' then (pending (.bare before), .quoted [c] false)
      else ([], .bare (before ++ [c]))

def lexemes : Lexer → List Char → List (List Char)
  | lexer, [] => lexer.pending
  | lexer, c :: rest => (lexer.step c).1 ++ (lexer.step c).2.lexemes rest

end Lexer

def lexemes (text : List Char) : List (List Char) := (Lexer.bare []).lexemes text

/-- A character inside a string, or a code unit of UTF-16 by its digits. -/
inductive Piece where
  | char (c : Char)
  | unit (code : Nat)

def escaped? : Char → Option Char
  | '"' => some '"'
  | '\\' => some '\\'
  | '/' => some '/'
  | 'b' => some '\x08'
  | 'f' => some '\x0c'
  | 'n' => some '\n'
  | 'r' => some '\r'
  | 't' => some '\t'
  | _ => none

/-- The pieces of a string behind its opening quote, up to the closing one at the end. -/
def pieces? : List Char → Option (List Piece)
  | [] => none
  | ['"'] => some []
  | '\\' :: 'u' :: first :: second :: third :: fourth :: rest =>
      match natInBase? 16 [first, second, third, fourth] with
      | some code => (pieces? rest).map (.unit code :: ·)
      | none => none
  | '\\' :: letter :: rest =>
      match escaped? letter with
      | some c => (pieces? rest).map (.char c :: ·)
      | none => none
  | c :: rest =>
      if c = '"' || c = '\\' || c.toNat < 0x20 then none else (pieces? rest).map (.char c :: ·)

def isHighSurrogate (code : Nat) : Bool := 0xd800 ≤ code && code < 0xdc00

def isLowSurrogate (code : Nat) : Bool := 0xdc00 ≤ code && code < 0xe000

/-- The characters of pieces; no half of a pair stands alone. -/
def characters? : List Piece → Option (List Char)
  | [] => some []
  | .char c :: rest => (characters? rest).map (c :: ·)
  | .unit code :: rest =>
      if isHighSurrogate code then
        match rest with
        | .unit low :: rest =>
            if isLowSurrogate low then
              let large := 0x10000 + (code - 0xd800) * 0x400 + (low - 0xdc00)
              (characters? rest).map (Char.ofNat large :: ·)
            else none
        | _ => none
      else if isLowSurrogate code then none
      else (characters? rest).map (Char.ofNat code :: ·)

def string? : List Char → Option String
  | '"' :: rest => ((pieces? rest).bind characters?).map String.ofList
  | _ => none

def isDigits (text : List Char) : Bool := !text.isEmpty && text.all Char.isDigit

def isWhole (text : List Char) : Bool :=
  isDigits text && (text.length == 1 || text.head? != some '0')

def isExponent : List Char → Bool
  | [] => true
  | c :: rest => (c == 'e' || c == 'E') && isDigits (splitSign rest).2

def isFraction : List Char → Bool
  | '.' :: rest =>
      isDigits (rest.takeWhile Char.isDigit) && isExponent (rest.dropWhile Char.isDigit)
  | rest => isExponent rest

def isUnsigned (text : List Char) : Bool :=
  isWhole (text.takeWhile Char.isDigit) && isFraction (text.dropWhile Char.isDigit)

def isFractional (text : List Char) : Bool := text.any fun c => c == '.' || c == 'e' || c == 'E'

/-- The value of a number without sign, once its sign is known. -/
def unsigned? (negative : Bool) (text : List Char) : Option Value :=
  if !isUnsigned text then none
  else if isFractional text then
    (((Decimal.parse? text).map (Decimal.toBinary negative)).filter Binary.isFinite).map .float
  else
    ((natInBase? 10 text).bind fun (value : Nat) =>
      int64? (if negative then -(value : Int) else value)).map .integer

def number? : List Char → Option Value
  | '-' :: rest => unsigned? true rest
  | text => unsigned? false text

def scalar? (lexeme : List Char) : Option Value :=
  match lexeme with
  | ['n', 'u', 'l', 'l'] => some .null
  | ['t', 'r', 'u', 'e'] => some (.bool true)
  | ['f', 'a', 'l', 's', 'e'] => some (.bool false)
  | '"' :: _ => (string? lexeme).map .string
  | _ => number? lexeme

inductive Begun where
  | items (before : List Value)
  /-- The key belongs to the member whose value is being read. -/
  | entries (before : List (String × Value)) (key : String)

/-- What is to be read next, inside collections of which the innermost one comes first. -/
inductive Reader where
  | value (outer : List Begun)
  /-- Behind an opening bracket: a value, or the end. -/
  | firstItem (outer : List Begun)
  /-- Behind an opening brace: a key, or the end. -/
  | firstKey (outer : List Begun)
  /-- Behind a comma between members. -/
  | nextKey (before : List (String × Value)) (outer : List Begun)
  | colon (before : List (String × Value)) (key : String) (outer : List Begun)
  /-- Behind a value. -/
  | done (value : Value) (outer : List Begun)

namespace Reader

def open? (outer : List Begun) : List Char → Option Reader
  | ['['] => some (.firstItem outer)
  | ['\x7b'] => some (.firstKey outer)
  | lexeme => (scalar? lexeme).map (.done · outer)

def step? : Reader → List Char → Option Reader
  | .value outer, lexeme => open? outer lexeme
  | .firstItem outer, lexeme =>
      if lexeme = [']'] then some (.done (.sequence []) outer) else open? (.items [] :: outer) lexeme
  | .firstKey outer, lexeme =>
      if lexeme = ['\x7d'] then some (.done (.mapping []) outer)
      else (string? lexeme).map (.colon [] · outer)
  | .nextKey before outer, lexeme => (string? lexeme).map (.colon before · outer)
  | .colon before key outer, [':'] => some (.value (.entries before key :: outer))
  | .done item (.items before :: outer), [','] => some (.value (.items (before ++ [item]) :: outer))
  | .done item (.items before :: outer), [']'] => some (.done (.sequence (before ++ [item])) outer)
  | .done item (.entries before key :: outer), [','] =>
      some (.nextKey (before ++ [(key, item)]) outer)
  | .done item (.entries before key :: outer), ['\x7d'] =>
      some (.done (.mapping (before ++ [(key, item)])) outer)
  | _, _ => none

def run? (reader : Reader) (lexemes : List (List Char)) : Option Reader := lexemes.foldlM step? reader

end Reader

def read? (text : String) : Option Value :=
  match (Reader.value []).run? (lexemes text.toList) with
  | some (.done value []) => some value
  | _ => none

end TaggedConfig.Json
