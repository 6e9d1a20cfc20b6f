import TaggedConfig.Config.Basic

/-!
# Overrides

Two mappings are merged key by key, in depth; otherwise the later value replaces the earlier one.
Keys keep their places, and new ones go to the end.
-/

namespace TaggedConfig

namespace Value

mutual

def merge (present : Value) : (incoming : Value) → Value
  | .mapping entries =>
      match present with
      | .mapping existing => .mapping (mergeEntries existing entries)
      | _ => .mapping entries
  | .null => .null
  | .bool value => .bool value
  | .integer value => .integer value
  | .float value => .float value
  | .string text => .string text
  | .sequence items => .sequence items

def mergeEntries (existing : Entries Value) : List (String × Value) → Entries Value
  | [] => existing
  | (key, value) :: rest =>
      let merged :=
        match existing.get? key with
        | some present => merge present value
        | none => value
      mergeEntries (existing.put key merged) rest

end

end Value

/-- The configuration under overrides, which are applied one after the other. -/
def Config.withOverrides (config : Config) (overrides : List (String × Value)) : Config :=
  { config with values := Value.mergeEntries config.values overrides }

end TaggedConfig
