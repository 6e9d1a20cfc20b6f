import TaggedConfig.Value

/-!
# Values as JSON

Mappings keep their order.  Numbers without a value and infinities become null.  The compact form has
no white space; the indented one has one item on each line.
-/

namespace TaggedConfig

namespace Json

def escapedCode (code : Nat) : List Char :=
  let digits := Nat.toDigits 16 code
  '\\' :: 'u' :: List.replicate (4 - digits.length) '0' ++ digits

def stringChar (c : Char) : List Char :=
  if c == '"' || c == '\\' then ['\\', c]
  else if c == '\x08' then ['\\', 'b']
  else if c == '\t' then ['\\', 't']
  else if c == '\n' then ['\\', 'n']
  else if c == '\x0c' then ['\\', 'f']
  else if c == '\r' then ['\\', 'r']
  else if c.toNat < 0x20 then escapedCode c.toNat
  else [c]

def string (text : String) : String :=
  String.ofList ('"' :: text.toList.flatMap stringChar ++ ['"'])

def float (value : Binary64) : String :=
  if value.isFinite then FloatStyle.json.render value else "null"

def lineStart (depth : Nat) : String := String.ofList ('\n' :: List.replicate (2 * depth) ' ')

end Json

namespace Value

mutual

def toJson : Value → String
  | .null => "null"
  | .bool value => if value then "true" else "false"
  | .integer value => toString value.toInt
  | .float value => Json.float value
  | .string text => Json.string text
  | .sequence items => "[" ++ itemsToJson items ++ "]"
  | .mapping entries => "\x7b" ++ entriesToJson entries ++ "\x7d"

def itemsToJson : List Value → String
  | [] => ""
  | [item] => item.toJson
  | item :: rest => item.toJson ++ "," ++ itemsToJson rest

def entriesToJson : List (String × Value) → String
  | [] => ""
  | [(key, value)] => Json.string key ++ ":" ++ value.toJson
  | (key, value) :: rest =>
      Json.string key ++ ":" ++ value.toJson ++ "," ++ entriesToJson rest

end

mutual

/-- The indented form at some depth; empty collections stay on their line. -/
def toIndentedJson (depth : Nat) : Value → String
  | .sequence (item :: items) =>
      "[" ++ itemsToIndentedJson (depth + 1) (item :: items) ++ Json.lineStart depth ++ "]"
  | .mapping (entry :: entries) =>
      "\x7b" ++ entriesToIndentedJson (depth + 1) (entry :: entries) ++ Json.lineStart depth
        ++ "\x7d"
  | .sequence [] => "[]"
  | .mapping [] => "\x7b\x7d"
  | .null => toJson .null
  | .bool value => toJson (.bool value)
  | .integer value => toJson (.integer value)
  | .float value => toJson (.float value)
  | .string text => toJson (.string text)

def itemsToIndentedJson (depth : Nat) : List Value → String
  | [] => ""
  | [item] => Json.lineStart depth ++ item.toIndentedJson depth
  | item :: rest =>
      Json.lineStart depth ++ item.toIndentedJson depth ++ "," ++ itemsToIndentedJson depth rest

def entriesToIndentedJson (depth : Nat) : List (String × Value) → String
  | [] => ""
  | [(key, value)] =>
      Json.lineStart depth ++ Json.string key ++ ": " ++ value.toIndentedJson depth
  | (key, value) :: rest =>
      Json.lineStart depth ++ Json.string key ++ ": " ++ value.toIndentedJson depth ++ ","
        ++ entriesToIndentedJson depth rest

end

/-- The indented form. -/
def toPrettyJson (value : Value) : String := value.toIndentedJson 0

end Value

end TaggedConfig
