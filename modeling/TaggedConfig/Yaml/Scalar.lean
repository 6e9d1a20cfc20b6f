import TaggedConfig.Number.Integer
import TaggedConfig.Number.Reading
import TaggedConfig.Text.Quoted
import TaggedConfig.Yaml.Node
import TaggedConfig.Yaml.Token

/-!
# What the text of a scalar stands for

A plain scalar is null, a boolean, an integer or a floating point number if it is spelled as one,
and a string otherwise.  A standard tag asks for one of these types, whatever the quotes.
-/

namespace TaggedConfig.Yaml

/-- The types that a standard tag can ask for. -/
inductive ScalarType where
  | bool
  | int
  | float
  | null
  deriving DecidableEq, Repr

def ScalarType.describe : ScalarType → String
  | .bool => "a boolean"
  | .int => "an integer"
  | .float => "a float"
  | .null => "null"

/-- What can be wrong with the content of a well-formed document. -/
inductive ContentIssue where
  /-- An integer beyond 64 bits but within 128. -/
  | tooLarge (value : Int)
  /-- A text that is not of the type its tag asks for. -/
  | mistyped (text : String) (expected : ScalarType)
  | duplicateKey (key : Node)
  deriving Repr

def Node.describeKey : Node → String
  | .null => "with null key"
  | .bool value => "with key `" ++ toString value ++ "`"
  | .integer value => "with key " ++ toString value
  | .float value => "with key " ++ FloatStyle.yaml.render value
  | .string text => "with key " ++ Text.quoted text
  | .sequence _ | .mapping _ | .tagged _ _ => "in YAML map"

def ContentIssue.describe : ContentIssue → String
  | .tooLarge value =>
      "invalid type: integer `" ++ toString value ++ "` as " ++ (if value < 0 then "i128" else "u128")
        ++ ", expected any YAML value"
  | .mistyped text expected =>
      "invalid value: string " ++ Text.quoted text ++ ", expected " ++ expected.describe
  | .duplicateKey key => "duplicate entry " ++ key.describeKey

namespace Scalar

def isNull (text : String) : Bool :=
  text == "null" || text == "Null" || text == "NULL" || text == "~"

def bool? (text : String) : Option Bool :=
  if text == "true" || text == "True" || text == "TRUE" then some true
  else if text == "false" || text == "False" || text == "FALSE" then some false
  else none

/-- Digits with a leading zero are a string and no number. -/
def isPaddedDigits (text : List Char) : Bool :=
  let digits := (splitSign text).2
  1 < digits.length && digits.head? == some '0' && digits.all Char.isDigit

/-- The value of digits in base 16, 8 or 2 behind their mark, or of decimal digits. -/
def unsigned? : List Char → Option Nat
  | '0' :: 'x' :: digits => natInBase? 16 digits
  | '0' :: 'o' :: digits => natInBase? 8 digits
  | '0' :: 'b' :: digits => natInBase? 2 digits
  | digits => natInBase? 10 digits

/-- The value of an integer's spelling: with a sign or without, and not padded. -/
def integer? (text : List Char) : Option Int :=
  if isPaddedDigits text then none
  else
    let (negative, digits) := splitSign text
    (unsigned? digits).map fun value => if negative then -(value : Int) else value

def fitsNode (value : Int) : Bool := leastInteger ≤ value && value ≤ greatestUnsigned

def isRecognised (value : Int) : Bool := -(Nat.pow 2 127 : Nat) ≤ value && value < Nat.pow 2 128

def intNode? (text : List Char) : Option (Except ContentIssue Node) :=
  match integer? text with
  | none => none
  | some value =>
      if fitsNode value then some (.ok (.integer value))
      else if isRecognised value then some (.error (.tooLarge value))
      else none

/-- A text as a floating point number, if it is finite or one of the names with a full stop. -/
def float? (text : List Char) : Option Binary64 :=
  let (negative, unsigned) := splitSign text
  let name := String.ofList unsigned
  if name = ".inf" || name = ".Inf" || name = ".INF" then some (.infinity negative)
  else
    let name := String.ofList text
    if name = ".nan" || name = ".NaN" || name = ".NAN" then some .nan
    else (Binary.ofDecimalText? text).filter Binary.isFinite

def plain (text : String) : Except ContentIssue Node :=
  if text.isEmpty || isNull text then .ok .null
  else
    match bool? text with
    | some value => .ok (.bool value)
    | none =>
        match intNode? text.toList with
        | some result => result
        | none =>
            if isPaddedDigits text.toList then .ok (.string text)
            else
              match float? text.toList with
              | some value => .ok (.float value)
              | none => .ok (.string text)

def typed (expected : ScalarType) (text : String) : Except ContentIssue Node :=
  let reading : Option (Except ContentIssue Node) :=
    match expected with
    | .bool => (bool? text).map (fun value => .ok (.bool value))
    | .int => intNode? text.toList
    | .float => (float? text.toList).map (fun value => .ok (.float value))
    | .null => if isNull text then some (.ok .null) else none
  reading.getD (.error (.mistyped text expected))

/-- What a scalar without a tag stands for: only a plain one is typed by its spelling. -/
def untagged (text : String) (style : ScalarStyle) : Except ContentIssue Node :=
  if style = .plain then plain text else .ok (.string text)

end Scalar

end TaggedConfig.Yaml
