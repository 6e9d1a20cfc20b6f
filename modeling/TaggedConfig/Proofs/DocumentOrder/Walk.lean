import TaggedConfig.Proofs.Dialogue.Ensures
import TaggedConfig.Proofs.DocumentOrder.Request

/-!
# Document order

A walk goes through a tree in the order in which it is written: depth first, a key before its value,
and entries from left to right.  The text behind an arrow is walked before its variable is assigned,
the content of a tag before the tag is applied, and a nested document where it is named.  A walk says
which accesses to variables it makes and how it ends; what a read finds is left open.
-/

namespace TaggedConfig

def taggedNode? (text : String) : Option Yaml.Node :=
  if text.toList.head? == some '!' then
    match Yaml.Node.parse text.toList with
    | .ok (.tagged tag content) => some (.tagged tag content)
    | _ => none
  else none

/-- The value of a text behind an arrow that neither implies a tag nor begins with one. -/
def literalValue (text : String) : Value :=
  if text.toList.head? == some '!' then .string text else Scope.typedText text

def Surroundings.atRoot : Surroundings :=
  ({ workingDirectory := ⟨"/"⟩, home := ⟨"/"⟩, now := default } : Host)

/-- Where a document is walked: its directory, and how deep it is nested. -/
structure Standpoint where
  directory : Path
  depth : Nat

/-- The file that a text names from a standpoint. -/
def Standpoint.target (host : Surroundings) (here : Standpoint) (text : String) :
    Except ReadFailure Path :=
  Path.ofIncludeText host.workingDirectory host.home here.directory text

def Source.content (files : Dialogue.Files) : Source → Except Cause String
  | .text content => .ok content
  | .file path => (files path).mapError (.unreadableFile path)
  | .stream bytes name => bytes.text.mapError (.unreadableFile (name.getD streamName))

/-- The document of a source, with what the files hold. -/
def Source.read (files : Dialogue.Files) (source : Source) : Except ConfigError Document :=
  match source.content files with
  | .ok content => Document.parse content source.origin
  | .error cause => .error (.ofCause cause)

section

variable (loader : Loader) (host : Surroundings) (files : Dialogue.Files)

mutual

inductive NodeWalk : Standpoint → Yaml.Node → List Access → Except Stop Value → Prop
  | null {here : Standpoint} : NodeWalk here .null [] (.ok .null)
  | bool {here : Standpoint} (value : Bool) : NodeWalk here (.bool value) [] (.ok (.bool value))
  | integer {here : Standpoint} (value : Int) :
      NodeWalk here (.integer value) [] (.ok (.ofInteger value))
  | float {here : Standpoint} (value : Binary64) :
      NodeWalk here (.float value) [] (.ok (.float value))
  | text {here : Standpoint} {text : String} {history : List Access} {result : Except Stop Value}
      (asked : RequestWalk here (.ofText text) history result) :
      NodeWalk here (.string text) history result
  | sequence {here : Standpoint} {items : List Yaml.Node} {history : List Access}
      {result : Except Stop (List Value)} (inner : ItemsWalk here items history result) :
      NodeWalk here (.sequence items) history (result.map .sequence)
  | mapping {here : Standpoint} {entries : List (Yaml.Node × Yaml.Node)} {history : List Access}
      {result : Except Stop (List (String × Value))}
      (inner : EntriesWalk here entries history result) :
      NodeWalk here (.mapping entries) history
        (result.map fun list => .mapping (Entries.ofList list))
  | unknownTag {here : Standpoint} {name : String} {content : Yaml.Node}
      (unknown : loader.tags.get? (tagName name) = none) :
      NodeWalk here (.tagged name content) [] (.error (.failed (.unknownTag (tagName name))))
  /-- The content of a tag is a collection that stops. -/
  | contentStop {here : Standpoint} {name : String} {tag : Tag} {content : Yaml.Node}
      {history : List Access} {stop : Stop} (known : loader.tags.get? (tagName name) = some tag)
      (collection : Scope.isCollection content = true)
      (inner : NodeWalk here content history (.error stop)) :
      NodeWalk here (.tagged name content) history (.error stop)
  /-- A tag is applied behind its collection. -/
  | collection {here : Standpoint} {name : String} {tag : Tag} {content : Yaml.Node}
      {before after : List Access} {input : Value} {result : Except Stop Value}
      (known : loader.tags.get? (tagName name) = some tag)
      (collection : Scope.isCollection content = true)
      (inner : NodeWalk here content before (.ok input))
      (asked : RequestWalk here (.ofTag loader host here.directory tag input) after result) :
      NodeWalk here (.tagged name content) (before ++ after) result
  /-- The content of a tag is no collection and has no value without being resolved. -/
  | noLiteral {here : Standpoint} {name : String} {tag : Tag} {content : Yaml.Node} {cause : Cause}
      (known : loader.tags.get? (tagName name) = some tag)
      (scalar : Scope.isCollection content = false)
      (unfit : Value.ofNode content = .error cause) :
      NodeWalk here (.tagged name content) [] (.error (.failed cause))
  /-- A tag is applied to its scalar as it is written. -/
  | scalar {here : Standpoint} {name : String} {tag : Tag} {content : Yaml.Node}
      {history : List Access} {input : Value} {result : Except Stop Value}
      (known : loader.tags.get? (tagName name) = some tag)
      (scalar : Scope.isCollection content = false) (literal : Value.ofNode content = .ok input)
      (asked : RequestWalk here (.ofTag loader host here.directory tag input) history result) :
      NodeWalk here (.tagged name content) history result

inductive ItemsWalk :
    Standpoint → List Yaml.Node → List Access → Except Stop (List Value) → Prop
  | nil {here : Standpoint} : ItemsWalk here [] [] (.ok [])
  | stop {here : Standpoint} {item : Yaml.Node} {rest : List Yaml.Node} {history : List Access}
      {stop : Stop} (first : NodeWalk here item history (.error stop)) :
      ItemsWalk here (item :: rest) history (.error stop)
  | cons {here : Standpoint} {item : Yaml.Node} {rest : List Yaml.Node}
      {before after : List Access} {value : Value} {result : Except Stop (List Value)}
      (first : NodeWalk here item before (.ok value)) (others : ItemsWalk here rest after result) :
      ItemsWalk here (item :: rest) (before ++ after) (result.map (value :: ·))

inductive EntriesWalk : Standpoint → List (Yaml.Node × Yaml.Node) → List Access →
    Except Stop (List (String × Value)) → Prop
  | nil {here : Standpoint} : EntriesWalk here [] [] (.ok [])
  | keyStop {here : Standpoint} {keyNode valueNode : Yaml.Node}
      {rest : List (Yaml.Node × Yaml.Node)} {history : List Access} {stop : Stop}
      (keyWalk : NodeWalk here keyNode history (.error stop)) :
      EntriesWalk here ((keyNode, valueNode) :: rest) history (.error stop)
  /-- The value of the key is no key. -/
  | noKey {here : Standpoint} {keyNode valueNode : Yaml.Node}
      {rest : List (Yaml.Node × Yaml.Node)} {history : List Access} {keyValue : Value}
      {cause : Cause} (keyWalk : NodeWalk here keyNode history (.ok keyValue))
      (unfit : keyValue.asKey = .error cause) :
      EntriesWalk here ((keyNode, valueNode) :: rest) history (.error (.failed cause))
  | valueStop {here : Standpoint} {keyNode valueNode : Yaml.Node}
      {rest : List (Yaml.Node × Yaml.Node)} {before after : List Access} {keyValue : Value}
      {key : String} {stop : Stop} (keyWalk : NodeWalk here keyNode before (.ok keyValue))
      (fit : keyValue.asKey = .ok key) (valueWalk : NodeWalk here valueNode after (.error stop)) :
      EntriesWalk here ((keyNode, valueNode) :: rest) (before ++ after) (.error stop)
  | cons {here : Standpoint} {keyNode valueNode : Yaml.Node}
      {rest : List (Yaml.Node × Yaml.Node)} {before between after : List Access}
      {keyValue value : Value} {key : String} {result : Except Stop (List (String × Value))}
      (keyWalk : NodeWalk here keyNode before (.ok keyValue)) (fit : keyValue.asKey = .ok key)
      (valueWalk : NodeWalk here valueNode between (.ok value))
      (others : EntriesWalk here rest after result) :
      EntriesWalk here ((keyNode, valueNode) :: rest) (before ++ (between ++ after))
        (result.map ((key, value) :: ·))

inductive RequestWalk : Standpoint → Request → List Access → Except Stop Value → Prop
  | settled {here : Standpoint} (result : Except Cause Value) :
      RequestWalk here (.settled result) [] (settled result)
  /-- A variable that is found has the value that was found, as it is. -/
  | found {here : Standpoint} (name : String) (value : Value) :
      RequestWalk here (.lookUp name) [.read name (some value)] (.ok value)
  | missing {here : Standpoint} (name : String) :
      RequestWalk here (.lookUp name) [.read name none] (.error (.failed (.undefinedVariable name)))
  | assign {here : Standpoint} (name : String) (value : Value) :
      RequestWalk here (.assign name value) [.assign name value] (.ok value)
  | textStop {here : Standpoint} {name valueText : String} {history : List Access} {stop : Stop}
      (inner : ValueTextWalk here valueText history (.error stop)) :
      RequestWalk here (.assignText name valueText) history (.error stop)
  | assignText {here : Standpoint} {name valueText : String} {history : List Access}
      {value : Value} (inner : ValueTextWalk here valueText history (.ok value)) :
      RequestWalk here (.assignText name valueText) (history ++ [.assign name value]) (.ok value)
  | document {here : Standpoint} {text : String} {history : List Access}
      {result : Except Stop Value} (inner : DocumentWalk here text history result) :
      RequestWalk here (.document text) history result

inductive ValueTextWalk : Standpoint → String → List Access → Except Stop Value → Prop
  | implied {here : Standpoint} {text : String} {implied : Implicit} {history : List Access}
      {result : Except Stop Value} (shaped : Implicit.ofText? text = some implied)
      (asked : RequestWalk here (.ofText text) history result) :
      ValueTextWalk here text history result
  | tagged {here : Standpoint} {text : String} {node : Yaml.Node} {history : List Access}
      {result : Except Stop Value} (ordinary : Implicit.ofText? text = none)
      (begun : taggedNode? text = some node) (inner : NodeWalk here node history result) :
      ValueTextWalk here text history result
  | literal {here : Standpoint} {text : String} (ordinary : Implicit.ofText? text = none)
      (untagged : taggedNode? text = none) :
      ValueTextWalk here text [] (.ok (literalValue text))

inductive DocumentWalk : Standpoint → String → List Access → Except Stop Value → Prop
  /-- The text names no file, for want of a directory. -/
  | nameless {here : Standpoint} {text : String} {failure : ReadFailure}
      (untold : here.target host text = .error failure) :
      DocumentWalk here text [] (.error (.failed (.includeNotFound ⟨text⟩ failure)))
  | tooDeep {here : Standpoint} {text : String} {file : Path} {limit : Nat}
      (named : here.target host text = .ok file)
      (exceeded : loader.exceeds? (here.depth + 1) = some limit) :
      DocumentWalk here text [] (.error (.failed (.includeDepthExceeded limit file)))
  | unreadable {here : Standpoint} {text : String} {file : Path} {failure : ReadFailure}
      (named : here.target host text = .ok file)
      (allowed : loader.exceeds? (here.depth + 1) = none) (read : files file = .error failure) :
      DocumentWalk here text [] (.error (.failed (.includeNotFound file failure)))
  | malformed {here : Standpoint} {text content : String} {file : Path} {error : ConfigError}
      (named : here.target host text = .ok file)
      (allowed : loader.exceeds? (here.depth + 1) = none) (read : files file = .ok content)
      (parsed : Document.parse content (some file) = .error error) :
      DocumentWalk here text [] (.error (.failed error.cause))
  | cutOff {here : Standpoint} {text content : String} {file : Path} {document : Document}
      (named : here.target host text = .ok file)
      (allowed : loader.exceeds? (here.depth + 1) = none) (read : files file = .ok content)
      (parsed : Document.parse content (some file) = .ok document)
      (deep : loader.allowance host ≤ here.depth + 1) : DocumentWalk here text [] (.error .cutOff)
  | nested {here : Standpoint} {text content : String} {file : Path} {document : Document}
      {history : List Access} {result : Except Stop Value}
      (named : here.target host text = .ok file)
      (allowed : loader.exceeds? (here.depth + 1) = none) (read : files file = .ok content)
      (parsed : Document.parse content (some file) = .ok document)
      (inner : NodeWalk ⟨document.directory, here.depth + 1⟩ document.root history result) :
      DocumentWalk here text history result

end

/-- The document of a source is walked from its root. -/
inductive LoadWalk (source : Source) : List Access → Except Stop Value → Prop
  | unread {error : ConfigError} (failed : source.read files = .error error) :
      LoadWalk source [] (.error (.failed error.cause))
  | document {document : Document} {history : List Access} {result : Except Stop Value}
      (read : source.read files = .ok document)
      (inner : NodeWalk loader host files ⟨document.directory, 0⟩ document.root history result) :
      LoadWalk source history result

end

end TaggedConfig
