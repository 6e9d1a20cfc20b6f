import TaggedConfig.Config.Basic
import TaggedConfig.Number.Reading
import TaggedConfig.Text.Cut
import TaggedConfig.Text.Space

/-!
# Dotted paths

A path names a value by keys and positions with full stops between them.  A key is looked up as it is
written, then with underscores for hyphens, then with hyphens for underscores.
-/

namespace TaggedConfig

def replaceChar (old new : Char) (text : String) : String :=
  String.ofList (text.toList.map fun c => if c = old then new else c)

def spellings (key : String) : List String :=
  [key, replaceChar '-' '_' key, replaceChar '_' '-' key]

/-- The position that a piece of a path names; a plus sign may stand in front. -/
def position? (piece : String) : Option Nat :=
  match piece.toList with
  | '+' :: digits => natInBase? 10 digits
  | digits => natInBase? 10 digits

def Value.child? (value : Value) (piece : String) : Option Value :=
  match value with
  | .mapping entries => (spellings piece).findSome? (Entries.get? entries)
  | .sequence items => (position? piece).bind (items[·]?)
  | _ => none

namespace Config

def lookup? (config : Config) (pieces : List String) : Option Value :=
  pieces.foldlM Value.child? config.toValue

/-- The value at a path; the empty path leads to the whole mapping. -/
def getValue (config : Config) (path : String) : Except ConfigError Value :=
  let path := String.ofList (Text.trim path.toList)
  if path.isEmpty then .ok config.toValue
  else
    match config.lookup? (Text.pieces '.' path) with
    | some value => .ok value
    | none => .error (.ofCause (.missingKey path))

def has (config : Config) (path : String) : Bool := (config.getValue path).isOk

def getKeys (config : Config) (path : String) : Except ConfigError (List String) := do
  match ← config.getValue path with
  | .mapping entries => return Entries.keys entries
  | other =>
      throw (.ofCause (.conversion "a mapping" ("a " ++ other.kind.name ++ " at `" ++ path ++ "`")))

end Config

end TaggedConfig
