import TaggedConfig.Number.Binary

/-!
# Nodes

The tree that a document stands for: typed scalars, sequences, mappings in the order of writing,
and nodes with a tag.  Keys of mappings are nodes themselves.
-/

namespace TaggedConfig.Yaml

/-- A node of a document; a tag is kept without its exclamation mark. -/
inductive Node where
  | null
  | bool (value : Bool)
  | integer (value : Int)
  | float (value : Binary64)
  | string (text : String)
  | sequence (items : List Node)
  | mapping (entries : List (Node × Node))
  | tagged (tag : String) (content : Node)
  deriving Inhabited, Repr

namespace Node

mutual

/--
Two nodes are the same key.  Zeros count as one, and so do the codes of no number; the order of a
mapping does not count.
-/
def same : Node → Node → Bool
  | .null, .null => true
  | .bool a, .bool b => a == b
  | .integer a, .integer b => a == b
  | .float a, .float b => a.same b
  | .string a, .string b => a == b
  | .sequence a, .sequence b => sameItems a b
  | .mapping a, .mapping b => a.length == b.length && sameEntries a b
  | .tagged tag a, .tagged other b => tag == other && same a b
  | _, _ => false

def sameItems : List Node → List Node → Bool
  | [], [] => true
  | a :: rest, b :: others => same a b && sameItems rest others
  | _, _ => false

def sameEntries : List (Node × Node) → List (Node × Node) → Bool
  | [], _ => true
  | (key, value) :: rest, others =>
      others.any (fun other => same key other.1 && same value other.2) && sameEntries rest others

end

end Node

end TaggedConfig.Yaml
