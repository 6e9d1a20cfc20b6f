import TaggedConfig.Loader

/-!
# Configurations

A configuration is the mapping at the root of a document, together with the file it was read from.
-/

namespace TaggedConfig

/-- A resolved mapping and its file. -/
structure Config where
  values : Entries Value
  origin : Option Path
  deriving Inhabited, Repr

namespace Config

def ofValue (value : Value) (origin : Option Path) : Except ConfigError Config :=
  match value with
  | .mapping values => .ok ⟨values, origin⟩
  | other => .error (.ofCause (.conversion "a top-level mapping" ("a " ++ other.kind.name)))

def toValue (config : Config) : Value := .mapping config.values

def locate (config : Config) (path : String) : Location := ⟨config.origin, path⟩

def load (loader : Loader) (host : Surroundings) (source : Source) :
    Dialogue ConfigError Config := do
  let value ← loader.load host source
  .ofExcept (ofValue value source.origin)

/-- The error of a source that could not be read at all. -/
def isUnreadable (error : ConfigError) : Bool :=
  match error with
  | ⟨[], .unreadableFile _ _⟩ => true
  | _ => false

/-- Load the configuration of a file, or of another file if the first one cannot be read. -/
def loadWithFallback (loader : Loader) (host : Surroundings) (primary fallback : Path) :
    Dialogue ConfigError Config :=
  (load loader host (.file primary)).andThen fun
    | .error error =>
        if isUnreadable error then load loader host (.file fallback) else .fail error
    | .ok config => .ofValue config

end Config

end TaggedConfig
