import TaggedConfig.Config.Conversion
import TaggedConfig.Config.Lookup
import TaggedConfig.Text.LowerCase

/-!
# Typed access

A value is looked up and converted.  A path that leads nowhere is an error of its own; a value of the
wrong type is an error at the path.
-/

namespace TaggedConfig.Config

def get (config : Config) (target : Target) (path : String) : Except ConfigError target.Carrier := do
  let value ← config.getValue path
  match target.convert value with
  | .ok converted => return converted
  | .error cause => throw ((ConfigError.ofCause cause).within (config.locate path))

/-- The value at a path, or nothing if the path leads nowhere. -/
def getOptional (config : Config) (target : Target) (path : String) :
    Except ConfigError (Option target.Carrier) :=
  match config.get target path with
  | .ok converted => .ok (some converted)
  | .error ⟨[], .missingKey _⟩ => .ok none
  | .error error => .error error

def getOr (config : Config) (target : Target) (path : String) (default : target.Carrier) :
    target.Carrier :=
  match config.get target path with
  | .ok converted => converted
  | .error _ => default

def getValidated (config : Config) (target : Target) (path : String)
    (isValid : target.Carrier → Bool) (expected : String) : Except ConfigError target.Carrier := do
  let raw ← config.getValue path
  let converted ← config.get target path
  if isValid converted then return converted
  else
    throw ((ConfigError.ofCause (.conversion expected raw.display)).within (config.locate path))

/-- The string at a path, which has to be one of several, whatever the case of their letters. -/
def getOneOf (config : Config) (path : String) (allowed : List String) :
    Except ConfigError String := do
  let text ← config.get .string path
  let lower := Text.toLower text
  if allowed.any fun other => Text.toLower other = lower then return text
  else
    let found := "`" ++ text ++ "` (allowed: " ++ ", ".intercalate allowed ++ ")"
    throw ((ConfigError.ofCause (.conversion "one of the allowed values" found)).within
      (config.locate path))

end TaggedConfig.Config
