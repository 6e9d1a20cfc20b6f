import TaggedConfig.ConfigError

/-!
# Trails

A trail leads from the root of a document to one of its nodes, through keys and positions.
-/

namespace TaggedConfig

/-- One step of a trail. -/
inductive Segment where
  | key (text : String)
  | index (position : Nat)
  deriving DecidableEq, Inhabited, Repr

/-- The steps from the root inwards. -/
abbrev Trail := List Segment

namespace Trail

/-- Write one more step; a key has a full stop in front unless nothing has been written. -/
def extend (written : String) : Segment → String
  | .key text => if written.isEmpty then text else written ++ "." ++ text
  | .index position => written ++ "[" ++ toString position ++ "]"

/-- The text of a trail. -/
def describe (trail : Trail) : String := trail.foldl extend ""

end Trail

/-- An error in a document, with the trail to the node where it was met. -/
structure Failure where
  trail : Trail
  error : ConfigError
  deriving Inhabited, Repr

namespace Failure

def here (cause : Cause) : Failure := ⟨[], .ofCause cause⟩

def under (segment : Segment) (failure : Failure) : Failure :=
  { failure with trail := segment :: failure.trail }

def toError (origin : Option Path) (failure : Failure) : ConfigError :=
  failure.error.within ⟨origin, failure.trail.describe⟩

end Failure

end TaggedConfig
