import TaggedConfig.ConfigError
import TaggedConfig.Tag

/-!
# Arguments of tags

What the content of a tagged node has to be.  A complaint names the tag.
-/

namespace TaggedConfig.Tag

def mismatch (tag : Tag) (issue : Mismatch) : Cause := .typeMismatch tag.name issue

def scalarText (tag : Tag) : Value → Except Cause String
  | .string text => .ok text
  | .bool value => .ok (Value.bool value).display
  | .integer value => .ok (Value.integer value).display
  | .float value => .ok (Value.float value).display
  | other => .error (tag.mismatch (.noScalar other.kind))

def sequenceItems (tag : Tag) : Value → Except Cause (List Value)
  | .sequence items => .ok items
  | other => .error (tag.mismatch (.noSequence other.kind))

end TaggedConfig.Tag
