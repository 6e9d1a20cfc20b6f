import TaggedConfig.Value
import TaggedConfig.Yaml.Writing

/-!
# Values as YAML

Collections are written as blocks, with two more spaces for each level; only the items of a sequence
stand right below the key that it belongs to.  Empty collections are written as brackets.  A long key,
or one on several lines, is marked by a question mark.  There are no tags.
-/

namespace TaggedConfig

namespace Value

open Yaml.Writing

def longestSimpleKey : Nat := 128

/-- A key that stands in front of its colon without a mark. -/
def isSimpleKey (key : String) : Bool :=
  key.utf8ByteSize ≤ longestSimpleKey && !key.toList.any Yaml.isBreak

/-- A scalar or an empty collection on a line that has been begun; further lines are indented. -/
def leafToBlock (indent : Nat) : Value → List Char
  | .null => endLine "null".toList
  | .bool value => endLine (if value then "true" else "false").toList
  | .integer value => endLine (toString value.toInt).toList
  | .float value => endLine (FloatStyle.yaml.render value).toList
  | .string text => endLine (Yaml.Writing.string indent text)
  | .sequence _ => endLine ['[', ']']
  | .mapping _ => endLine ['\x7b', '\x7d']

def lineStart (begun : Bool) (indent : Nat) : List Char := if begun then [] else indentation indent

mutual

/-- A value on a line that has been begun, with the indentation of its further lines. -/
def toBlock (indent : Nat) : Value → List Char
  | .sequence (item :: rest) => itemsToBlock true indent (item :: rest)
  | .mapping (entry :: rest) => entriesToBlock true indent (entry :: rest)
  | .sequence [] => leafToBlock indent (.sequence [])
  | .mapping [] => leafToBlock indent (.mapping [])
  | .null => leafToBlock indent .null
  | .bool value => leafToBlock indent (.bool value)
  | .integer value => leafToBlock indent (.integer value)
  | .float value => leafToBlock indent (.float value)
  | .string text => leafToBlock indent (.string text)

/-- A value behind a key and its colon, where the key has some indentation. -/
def toEntryValue (indent : Nat) : Value → List Char
  | .sequence (item :: rest) => '\n' :: itemsToBlock false indent (item :: rest)
  | .mapping (entry :: rest) => '\n' :: entriesToBlock false (indent + 2) (entry :: rest)
  | .sequence [] => ' ' :: leafToBlock indent (.sequence [])
  | .mapping [] => ' ' :: leafToBlock indent (.mapping [])
  | .null => ' ' :: leafToBlock indent .null
  | .bool value => ' ' :: leafToBlock indent (.bool value)
  | .integer value => ' ' :: leafToBlock indent (.integer value)
  | .float value => ' ' :: leafToBlock indent (.float value)
  | .string text => ' ' :: leafToBlock (indent + 2) (.string text)

def itemsToBlock (begun : Bool) (indent : Nat) : List Value → List Char
  | [] => []
  | item :: rest =>
      lineStart begun indent ++ '-' :: ' ' :: item.toBlock (indent + 2)
        ++ itemsToBlock false indent rest

def entriesToBlock (begun : Bool) (indent : Nat) : List (String × Value) → List Char
  | [] => []
  | (key, value) :: rest =>
      let keyText := Yaml.Writing.string (indent + 2) key
      let entry :=
        if isSimpleKey key then keyText ++ ':' :: value.toEntryValue indent
        else
          '?' :: ' ' :: endLine keyText ++ indentation indent
            ++ ':' :: ' ' :: value.toBlock (indent + 2)
      lineStart begun indent ++ entry ++ entriesToBlock false indent rest

end

/-- A value as a YAML document; only the further lines of a single string are indented. -/
def toYaml (value : Value) : String :=
  String.ofList (value.toBlock (if value.text?.isSome then 2 else 0))

end Value

end TaggedConfig
