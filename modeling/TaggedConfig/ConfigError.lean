import TaggedConfig.File.Failure
import TaggedConfig.Path
import TaggedConfig.Value

/-!
# Errors

An error has one cause and the places where it was met: one for each document on the way, from the
outermost one inwards.  Every cause has a stable code, and some come with a hint.
-/

namespace TaggedConfig

structure Location where
  /-- The file of the document; text from memory has none. -/
  file : Option Path
  /-- The keys and positions from the root of the document to the place. -/
  node : String
  deriving DecidableEq, Inhabited, Repr

def Location.describe (location : Location) : String :=
  let file := location.file.elim "<memory>" Path.text
  if location.node.isEmpty then file else file ++ " at `" ++ location.node ++ "`"

/-- Why the content of a tagged node does not suit its tag. -/
inductive Mismatch where
  | noScalar (found : Kind)
  | noSequence (found : Kind)
  | noMapping (found : Kind)
  | noNumber (found : Value)
  | noPathElements
  | noPathElement (found : Value)
  /-- A text without an arrow. -/
  | noAssignment (text : String)
  /-- Neither a pair nor a text. -/
  | notAssignable (found : Value)
  | noVariableName (found : Kind)
  | noPair (size : Nat)
  | stated (reason : String)
  deriving Inhabited, Repr

def Mismatch.message : Mismatch → String
  | .noScalar found => "expected a scalar, got a " ++ found.name
  | .noSequence found => "expected a sequence, got a " ++ found.name
  | .noMapping found => "expected a mapping of cases, got a " ++ found.name
  | .noNumber found => "expected numbers, got a " ++ found.kind.name ++ " (" ++ found.display ++ ")"
  | .noPathElements => "expected at least one path element"
  | .noPathElement found =>
      "path elements must be strings, got a " ++ found.kind.name ++ " (" ++ found.display ++ ")"
  | .noAssignment text => "expected `key <= value`, got `" ++ text ++ "`"
  | .notAssignable found => "expected `[key, value]` or `key <= value`, got " ++ found.display
  | .noVariableName found => "variable name must be a scalar, got a " ++ found.name
  | .noPair size => "expected `[key, value]`, got " ++ toString size ++ " elements"
  | .stated reason => reason

/-- What is wrong with a template of a date. -/
inductive TemplateIssue where
  | unclosed
  | unopened
  | unknownField (name : String)
  | fieldWithFormat (name : String)
  | unknownPlaceholder (name : String)
  | badDirective (format : String)
  | unrenderable (format : String)
  | stated (reason : String)
  deriving DecidableEq, Inhabited, Repr

def TemplateIssue.message : TemplateIssue → String
  | .unclosed => "unclosed `\x7b`"
  | .unopened => "single `\x7d` outside a placeholder"
  | .unknownField name => "unknown field `" ++ name ++ "`"
  | .fieldWithFormat name => "format spec on `" ++ name ++ "` is not supported"
  | .unknownPlaceholder name => "unknown placeholder `\x7b" ++ name ++ "\x7d`"
  | .badDirective format => "bad strftime directive in `" ++ format ++ "`"
  | .unrenderable format => "`" ++ format ++ "` cannot be rendered"
  | .stated reason => reason

/-- Why a configuration could not be loaded or a value not be had. -/
inductive Cause where
  | malformed (message : String) (file : Option Path) (line column : Option Nat)
  | unknownTag (tag : String)
  | undefinedVariable (name : String)
  | typeMismatch (tag : String) (issue : Mismatch)
  | noMatchingCase (runMode : Option String) (cases : List String)
  | includeNotFound (path : Path) (failure : ReadFailure)
  | includeDepthExceeded (limit : Nat) (path : Path)
  | invalidFormat (tag : String) (issue : TemplateIssue)
  | arithmeticOverflow (tag : String)
  | unreadableFile (path : Path) (failure : ReadFailure)
  | missingKey (path : String)
  | conversion (expected found : String)
  deriving Inhabited, Repr

namespace Cause

def code : Cause → Nat
  | .malformed .. => 201
  | .unknownTag _ => 202
  | .undefinedVariable _ => 203
  | .typeMismatch .. => 204
  | .noMatchingCase .. => 205
  | .invalidFormat .. => 206
  | .arithmeticOverflow _ => 207
  | .includeNotFound .. => 301
  | .includeDepthExceeded .. => 302
  | .unreadableFile .. => 303
  | .missingKey _ => 304
  | .conversion .. => 401

def hint? : Cause → Option String
  | .unknownTag _ =>
      some ("Known tags: datetime, product, sum, join, pathjoin, abspath, abspathjoin, include, "
        ++ "store, load (switchcmd needs a run mode)")
  | .undefinedVariable _ =>
      some "Store the variable earlier in document order, e.g. `name <= value`"
  | .noMatchingCase .. => some "Add a `default` case"
  | .includeNotFound .. => some "Include paths are relative to the including file's directory"
  | .includeDepthExceeded .. => some "Check for include cycles"
  | .invalidFormat .. =>
      some ("Use \x7bnow\x7d, \x7bnow:%Y-%m-%d\x7d or \x7bnow.year\x7d; "
        ++ "write \x7b\x7b and \x7d\x7d for literal braces")
  | _ => none

def describePosition (line column : Option Nat) : String :=
  match line, column with
  | some line, some column =>
      " (line " ++ toString line ++ ", column " ++ toString column ++ ")"
  | some line, none => " (line " ++ toString line ++ ")"
  | none, _ => ""

def message : Cause → String
  | .malformed message file line column =>
      "parse error in " ++ file.elim "<memory>" (fun path => "'" ++ path.text ++ "'") ++ ": "
        ++ message ++ describePosition line column
  | .unknownTag tag => "unknown tag `!" ++ tag ++ "`"
  | .undefinedVariable name => "undefined variable `" ++ name ++ "`"
  | .typeMismatch tag issue => "type mismatch in `!" ++ tag ++ "`: " ++ issue.message
  | .noMatchingCase runMode cases =>
      "no case matches run mode " ++ runMode.elim "<unset>" (fun mode => "`" ++ mode ++ "`")
        ++ " and no `default` case is given (cases: " ++ ", ".intercalate cases ++ ")"
  | .includeNotFound path failure =>
      "included file '" ++ path.text ++ "' could not be read: " ++ failure.message
  | .includeDepthExceeded limit path =>
      "include depth limit of " ++ toString limit ++ " exceeded at '" ++ path.text ++ "'"
  | .invalidFormat tag issue => "invalid format string in `!" ++ tag ++ "`: " ++ issue.message
  | .arithmeticOverflow tag => "arithmetic overflow in `!" ++ tag ++ "`"
  | .unreadableFile path failure => "file error '" ++ path.text ++ "': " ++ failure.message
  | .missingKey path => "key `" ++ path ++ "` not found"
  | .conversion expected found => "expected " ++ expected ++ ", got " ++ found

end Cause

/-- A cause with the places where it was met, outermost first. -/
structure ConfigError where
  locations : List Location
  cause : Cause
  deriving Inhabited, Repr

namespace ConfigError

def ofCause (cause : Cause) : ConfigError := ⟨[], cause⟩

/-- The error as it is met from outside a place. -/
def within (location : Location) (error : ConfigError) : ConfigError :=
  { error with locations := location :: error.locations }

def code (error : ConfigError) : Nat := error.cause.code

def hint? (error : ConfigError) : Option String := error.cause.hint?

def message (error : ConfigError) : String :=
  error.locations.foldr (fun location inner => location.describe ++ ": " ++ inner)
    error.cause.message

end ConfigError

end TaggedConfig
