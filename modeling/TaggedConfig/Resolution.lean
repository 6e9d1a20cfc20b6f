import TaggedConfig.DateTime.Template
import TaggedConfig.Dialogue
import TaggedConfig.Document
import TaggedConfig.Implicit
import TaggedConfig.Tag.PathElements
import TaggedConfig.Tag.Reduction
import TaggedConfig.Trail

/-!
# Resolution

Resolving a tree replaces every tag, written or implied, by its value.  A tree is walked depth first
in the order of the document, a key before its value.  A tag receives the value of its collection,
resolved, or its scalar as it is written.
-/

namespace TaggedConfig

/-- What the tags of one document depend on. -/
structure Scope where
  tags : TagTable
  runMode : Option String
  /-- The directory of the document. -/
  directory : Path
  workingDirectory : Except ReadFailure Path
  now : Moment
  /-- The value of the document that a text names. -/
  includeText : String → Dialogue ConfigError Value

abbrev Resolving (α : Type) := Dialogue Failure α

namespace Resolving

def fail {α : Type} (cause : Cause) : Resolving α := Dialogue.fail (.here cause)

def ofExcept {α : Type} : Except Cause α → Resolving α
  | .ok value => .ofValue value
  | .error cause => fail cause

/-- Resolve something one step further inside. -/
def under {α : Type} (segment : Segment) (resolving : Resolving α) : Resolving α :=
  resolving.mapError (Failure.under segment)

def lookUp (name : String) : Resolving Value := do
  match ← Dialogue.readVariable name with
  | some value => return value
  | none => fail (.undefinedVariable name)

def assign (name : String) (value : Value) : Resolving Value := do
  Dialogue.assignVariable name value
  return value

end Resolving

namespace Scope

/-- How the text behind an arrow is resolved. -/
abbrev OnValueText := String → Resolving Value

def assignText (onValueText : OnValueText) (name valueText : String) : Resolving Value := do
  let value ← onValueText valueText
  Resolving.assign name value

/-- Assign a variable by a tag: from a text with an arrow, or from a name and a value. -/
def applyStore (onValueText : OnValueText) (input : Value) : Resolving Value :=
  let mismatch (issue : Mismatch) : Resolving Value := .fail (Tag.store.mismatch issue)
  match input with
  | .string text =>
      match Implicit.assignment? text with
      | some (name, valueText) => assignText onValueText name valueText
      | none => mismatch (.noAssignment text)
  | .sequence [name, value] =>
      match name.key? with
      | some key => .assign key value
      | none => mismatch (.noVariableName name.kind)
  | .sequence items => mismatch (.noPair items.length)
  | other => mismatch (.notAssignable other)

def applyLoad (input : Value) : Resolving Value := do
  let text ← .ofExcept (Tag.load.scalarText input)
  .lookUp ((Implicit.reference? text).getD text)

def selectCase (runMode : Option String) (input : Value) : Except Cause Value :=
  match input with
  | .mapping cases =>
      match runMode.bind (Entries.get? cases) with
      | some value => .ok value
      | none =>
          match Entries.get? cases "default" with
          | some value => .ok value
          | none => .error (.noMatchingCase runMode (Entries.keys cases))
  | other => .error (Tag.switchCommand.mismatch (.noMapping other.kind))

def renderTemplate (now : Moment) (input : Value) : Except Cause Value := do
  let template ← Tag.dateTime.scalarText input
  match Template.render template now with
  | .ok text => return .string text
  | .error issue => throw (.invalidFormat Tag.dateTime.name issue)

def applyInclude (scope : Scope) (input : Value) : Resolving Value := do
  let text ← .ofExcept (Tag.includeFile.scalarText input)
  (scope.includeText text).mapError fun error => ⟨[], error⟩

/-- The value of a tag for its content. -/
def applyTag (scope : Scope) (onValueText : OnValueText) (tag : Tag) (input : Value) :
    Resolving Value :=
  match tag with
  | .dateTime => .ofExcept (renderTemplate scope.now input)
  | .product => .ofExcept input.product
  | .sum => .ofExcept input.sum
  | .join => .ofExcept input.join
  | .pathJoin => .ofExcept input.pathJoin
  | .absPath => .ofExcept (input.absPath scope.workingDirectory scope.directory)
  | .absPathJoin => .ofExcept (input.absPathJoin scope.workingDirectory scope.directory)
  | .includeFile => scope.applyInclude input
  | .store => applyStore onValueText input
  | .load => applyLoad input
  | .switchCommand => .ofExcept (selectCase scope.runMode input)

def resolveText (onValueText : OnValueText) (text : String) : Resolving Value :=
  match Implicit.ofText? text with
  | none => .ofValue (.string text)
  | some (.assignment name valueText) => assignText onValueText name valueText
  | some (.reference name) => .lookUp name

/-- A node that is resolved before its tag sees it. -/
def isCollection : Yaml.Node → Bool
  | .sequence _ | .mapping _ => true
  | _ => false

mutual

/-- The value of a node. -/
def resolveNode (scope : Scope) (onValueText : OnValueText) : Yaml.Node → Resolving Value
  | .null => .ofValue .null
  | .bool value => .ofValue (.bool value)
  | .integer value => .ofValue (.ofInteger value)
  | .float value => .ofValue (.float value)
  | .string text => resolveText onValueText text
  | .sequence items => do return .sequence (← resolveItems scope onValueText 0 items)
  | .mapping entries => do
      return .mapping (Entries.ofList (← resolveEntries scope onValueText entries))
  | .tagged tag content =>
      match scope.tags.get? (tagName tag) with
      | none => .fail (.unknownTag (tagName tag))
      | some known => do
          let input ←
            if isCollection content then resolveNode scope onValueText content
            else .ofExcept (Value.ofNode content)
          scope.applyTag onValueText known input

def resolveItems (scope : Scope) (onValueText : OnValueText) :
    Nat → List Yaml.Node → Resolving (List Value)
  | _, [] => .ofValue []
  | position, item :: rest => do
      let value ← (resolveNode scope onValueText item).under (.index position)
      let values ← resolveItems scope onValueText (position + 1) rest
      return value :: values

def resolveEntries (scope : Scope) (onValueText : OnValueText) :
    List (Yaml.Node × Yaml.Node) → Resolving (List (String × Value))
  | [] => .ofValue []
  | (keyNode, valueNode) :: rest => do
      let keyValue ← resolveNode scope onValueText keyNode
      let key ← .ofExcept keyValue.asKey
      let value ← (resolveNode scope onValueText valueNode).under (.key key)
      let entries ← resolveEntries scope onValueText rest
      return (key, value) :: entries

end

section

variable {scope : Scope} {onValueText : OnValueText} {name : String} {content : Yaml.Node}

/-- A tag that is not known fails, and nothing below it is resolved. -/
theorem resolveNode_of_unknown (unknown : scope.tags.get? (tagName name) = none) :
    scope.resolveNode onValueText (.tagged name content) = .fail (.unknownTag (tagName name)) := by
  rw [resolveNode, unknown]

/-- A tag that is known is applied to its collection, resolved, or to its scalar as it is written. -/
theorem resolveNode_of_known {tag : Tag} (known : scope.tags.get? (tagName name) = some tag) :
    scope.resolveNode onValueText (.tagged name content) =
      (if isCollection content then scope.resolveNode onValueText content
        else .ofExcept (Value.ofNode content)).bind (scope.applyTag onValueText tag) := by
  rw [resolveNode, known]
  cases isCollection content with
  | true => rfl
  | false => rfl

end

/-- A text that is null apart from white space around it. -/
def isNullText (text : String) : Bool :=
  Yaml.Scalar.isNull (String.ofList (Text.trim text.toList))

def typedText (text : String) : Value :=
  if isNullText text then .null
  else if text.toList.contains '#' then .string text
  else
    match Yaml.Node.parse text.toList with
    | .ok (.bool value) => .bool value
    | .ok (.integer value) => .ofInteger value
    | .ok (.float value) => .float value
    | _ => .string text

/--
The value of a text behind an arrow, where `onInner` resolves the value texts inside it.  A text may
imply a tag or begin with one.
-/
def resolveValueTextWith (scope : Scope) (onInner : OnValueText) (text : String) :
    Resolving Value :=
  match Implicit.ofText? text with
  | some (.assignment name valueText) => assignText onInner name valueText
  | some (.reference name) => .lookUp name
  | none =>
      if text.toList.head? == some '!' then
        match Yaml.Node.parse text.toList with
        | .ok (.tagged tag content) => scope.resolveNode onInner (.tagged tag content)
        | _ => .ofValue (.string text)
      else .ofValue (typedText text)

/--
The value of a text behind an arrow.  The value texts inside it are shorter, so that its length is
enough of an allowance; the empty text stands for itself.
-/
def resolveValueTextWithin (scope : Scope) : (allowance : Nat) → String → Resolving Value
  | 0, text => .ofValue (.string text)
  | allowance + 1, text =>
      scope.resolveValueTextWith
        (fun inner =>
          if inner.length < text.length then scope.resolveValueTextWithin allowance inner
          else .ofValue (.string inner))
        text

/-- The value of a text behind an arrow. -/
def resolveValueText (scope : Scope) (text : String) : Resolving Value :=
  scope.resolveValueTextWithin text.length text

/-- The value of a tree. -/
def resolve (scope : Scope) (node : Yaml.Node) : Resolving Value :=
  scope.resolveNode scope.resolveValueText node

/-- The empty text stands for itself, however its value texts are resolved. -/
theorem resolveValueTextWith_empty (scope : Scope) (onInner : OnValueText) :
    scope.resolveValueTextWith onInner "" = .ofValue (.string "") := by
  rfl

/-- Two allowances that are both enough lead to the same value. -/
theorem resolveValueTextWithin_congr (scope : Scope) (first second : Nat) (text : String)
    (fits : text.length ≤ first) (alsoFits : text.length ≤ second) :
    scope.resolveValueTextWithin first text = scope.resolveValueTextWithin second text := by
  induction first generalizing second text with
  | zero =>
      have : text = "" := by simpa using fits
      subst this
      cases second with
      | zero => rfl
      | succ second => exact (resolveValueTextWith_empty scope _).symm
  | succ first ih =>
      cases second with
      | zero =>
          have : text = "" := by simpa using alsoFits
          subst this
          exact resolveValueTextWith_empty scope _
      | succ second =>
          simp only [resolveValueTextWithin]
          congr 1
          funext inner
          split
          · exact ih second inner (by omega) (by omega)
          · rfl

end Scope

end TaggedConfig
