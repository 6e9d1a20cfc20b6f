import TaggedConfig.Config.Basic

/-!
# Summaries

A box with one row for each leaf of a configuration: its keys with full stops between them, a colon,
and its value.  Rows are as wide as the box unless their content is wider.
-/

namespace TaggedConfig

namespace Summary

def keyWidth : Nat := 25

def leastWidth : Nat := keyWidth + 8

def usualWidth : Nat := 80

def fill (c : Char) (width : Nat) (text : String) : String :=
  text ++ String.ofList (List.replicate (width - text.length) c)

def row (width : Nat) (key : String) (value : Value) : String :=
  fill ' ' (width - 1) ("| " ++ fill ' ' keyWidth key ++ ": " ++ value.display) ++ "|\n"

def header (width : Nat) : String := fill '-' (width - 1) "+--[ Configuration ]" ++ "+\n"

/-- The last line of a box. -/
def footer (width : Nat) : String := fill '-' (width - 1) "+" ++ "+"

mutual

/-- The leaves of a value under its keys; an empty mapping is a leaf. -/
def leaves (key : String) : Value → List (String × Value)
  | .mapping (entry :: entries) => leavesOfEntries (key ++ ".") (entry :: entries)
  | .mapping [] => [(key, .mapping [])]
  | .null => [(key, .null)]
  | .bool value => [(key, .bool value)]
  | .integer value => [(key, .integer value)]
  | .float value => [(key, .float value)]
  | .string text => [(key, .string text)]
  | .sequence items => [(key, .sequence items)]

def leavesOfEntries (before : String) : List (String × Value) → List (String × Value)
  | [] => []
  | (key, value) :: rest => leaves (before ++ key) value ++ leavesOfEntries before rest

end

def render (values : Entries Value) (width : Nat) : String :=
  let width := max width leastWidth
  header width
    ++ String.join ((leavesOfEntries "" values).map fun leaf => row width leaf.1 leaf.2)
    ++ footer width

end Summary

namespace Config

/-- The box of a configuration. -/
def summary (config : Config) (width : Nat) : String := Summary.render config.values width

def display (config : Config) : String := config.summary Summary.usualWidth

end Config

end TaggedConfig
