import TaggedConfig.Yaml.Token.Lexer

/-!
# Events

The nodes of a document in the order of reading: scalars, aliases, and the beginnings and ends of
collections.  Anchors and tags belong to the node that follows them.
-/

namespace TaggedConfig.Yaml

/-- The name and the tag that a node carries; a tag is a sequence of octets. -/
structure Properties where
  anchor : Option (List Char)
  tag : Option (List UInt8)
  deriving DecidableEq, Repr

def Properties.none : Properties := ⟨.none, .none⟩

/-- What is reported about a document, in order. -/
inductive Event where
  | documentStart
  | documentEnd
  | streamEnd
  | alias (name : List Char)
  | scalar (properties : Properties) (text : List Char) (style : ScalarStyle)
  | sequenceStart (properties : Properties)
  | sequenceEnd
  | mappingStart (properties : Properties)
  | mappingEnd
  deriving DecidableEq, Repr

/-- An event and the place where its node begins. -/
structure PlacedEvent where
  event : Event
  mark : Mark
  deriving Repr

/-- An empty scalar, which stands for a node that was left out. -/
def PlacedEvent.omitted (mark : Mark) : PlacedEvent := ⟨.scalar .none [] .plain, mark⟩

end TaggedConfig.Yaml
