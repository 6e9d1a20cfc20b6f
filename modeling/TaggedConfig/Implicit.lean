import TaggedConfig.Text.Space
import TaggedConfig.Text.Word

/-!
# Scalars that are tagged by their text alone

A text of the form `name <= value` assigns a variable, and `$name` reads one.  A name is a run of word
characters.  The value is on one line and is not empty; white space around the arrow, line breaks
included, belongs to neither side as far as that leaves a value.
-/

namespace TaggedConfig

/-- What a text that is shaped like a tag asks for. -/
inductive Implicit where
  | assignment (name valueText : String)
  | reference (name : String)
  deriving DecidableEq, Inhabited, Repr

namespace Implicit

/-- A non-empty name at the beginning of a text, and the rest. -/
def splitName? (text : List Char) : Option (List Char × List Char) :=
  match text.takeWhile Text.isWord with
  | [] => none
  | name => some (name, text.dropWhile Text.isWord)

def isValue (text : List Char) : Bool := !text.isEmpty && !text.contains '\n'

/--
The value behind an arrow: what follows the longest run of white space that leaves a value.  If the
text is all white space, that is its last character.
-/
def valueAfter? : List Char → Option (List Char)
  | [] => none
  | c :: rest =>
      let later? := if Text.isSpace c then valueAfter? rest else none
      match later? with
      | some value => some value
      | none => if isValue (c :: rest) then some (c :: rest) else none

def assignment? (text : String) : Option (String × String) :=
  match splitName? text.toList with
  | none => none
  | some (name, rest) =>
      match rest.dropWhile Text.isSpace with
      | '<' :: '=' :: rest =>
          (valueAfter? rest).map fun value => (String.ofList name, String.ofList value)
      | _ => none

def reference? (text : String) : Option String :=
  match text.toList with
  | '$' :: rest =>
      match splitName? rest with
      | some (name, []) => some (String.ofList name)
      | _ => none
  | _ => none

/-- What a text asks for; an ordinary string asks for nothing. -/
def ofText? (text : String) : Option Implicit :=
  match assignment? text with
  | some (name, valueText) => some (.assignment name valueText)
  | none => (reference? text).map .reference

end Implicit

end TaggedConfig
