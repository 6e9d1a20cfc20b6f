import TaggedConfig.ConfigError
import TaggedConfig.Number.Integer
import TaggedConfig.Yaml.Reading

/-!
# Documents

A document is the tree of a YAML text and the directory that its relative paths are seen from.  A tree
without tags can be taken as a value as it is; this is what resolving comes to if there is nothing to
resolve.
-/

namespace TaggedConfig

/-- The name of a tag, without any exclamation mark in front. -/
def tagName (tag : String) : String := String.ofList (tag.toList.dropWhile (· == '!'))

def Value.asKey (value : Value) : Except Cause String :=
  match value.key? with
  | some key => .ok key
  | none => .error (.conversion "a scalar mapping key" ("a " ++ value.kind.name))

namespace Value

/-- An integer of a document; those above 64 bits become numbers with a fraction. -/
def ofInteger (value : Int) : Value :=
  match int64? value with
  | some value => .integer value
  | none => .float (.ofInt value)

mutual

/-- A tree as a value, if it has no tags and the keys of its mappings are scalars. -/
def ofNode : Yaml.Node → Except Cause Value
  | .null => .ok .null
  | .bool value => .ok (.bool value)
  | .integer value => .ok (ofInteger value)
  | .float value => .ok (.float value)
  | .string text => .ok (.string text)
  | .sequence items => do return .sequence (← ofNodes items)
  | .mapping entries => do return .mapping (Entries.ofList (← ofNodeEntries entries))
  | .tagged tag _ => .error (.unknownTag (tagName tag))

def ofNodes : List Yaml.Node → Except Cause (List Value)
  | [] => .ok []
  | item :: rest => do
      let value ← ofNode item
      return value :: (← ofNodes rest)

def ofNodeEntries : List (Yaml.Node × Yaml.Node) → Except Cause (List (String × Value))
  | [] => .ok []
  | (key, value) :: rest => do
      let key ← (← ofNode key).asKey
      let value ← ofNode value
      return (key, value) :: (← ofNodeEntries rest)

end

end Value

/-- The tree of one text, with what is known about the text. -/
structure Document where
  root : Yaml.Node
  /-- The directory that relative paths are seen from. -/
  directory : Path
  /-- The file of the text, if it has one. -/
  origin : Option Path

namespace Document

def directoryOf (origin : Option Path) : Path :=
  match origin.bind Path.parent? with
  | some parent => if parent.text.isEmpty then ⟨"."⟩ else parent
  | none => ⟨"."⟩

def causeOf (origin : Option Path) (error : Yaml.ReadError) : Cause :=
  .malformed error.message origin (error.mark?.map fun mark => mark.line + 1)
    (error.mark?.map fun mark => mark.column + 1)

def parse (text : String) (origin : Option Path) : Except ConfigError Document :=
  match Yaml.Node.parse text.toList with
  | .ok root => .ok ⟨root, directoryOf origin, origin⟩
  | .error error => .error (.ofCause (causeOf origin error))

end Document

end TaggedConfig
