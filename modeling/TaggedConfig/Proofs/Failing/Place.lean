import TaggedConfig.Proofs.DocumentOrder.Walk

/-!
# Where a resolution fails

A walk through a document goes on as long as every node before has a value.  The first node that has
none is the place of a failure: its trail consists of the keys and positions from the root down to it.
The node fails itself, or it names a document that cannot be resolved; then the failure has a place in
that document too.
-/

namespace TaggedConfig

/-- Why a walk cannot go on at a node: the node fails itself, or it names a document. -/
inductive Obstacle where
  | cause (cause : Cause)
  | document (text : String)

/-- A dialogue has a value and leaves a store. -/
def Dialogue.Yields {ε α : Type} (files : Files) (dialogue : Dialogue ε α) (store : Store)
    (value : α) (left : Store) : Prop :=
  dialogue.run files store = (some (.ok value), left)

/-- What a tag receives: its collection, resolved, or its scalar as it is written. -/
def Scope.content (scope : Scope) (content : Yaml.Node) : Resolving Value :=
  if isCollection content then scope.resolve content else .ofExcept (Value.ofNode content)

theorem Scope.resolve_of_known {scope : Scope} {name : String} {content : Yaml.Node} {tag : Tag}
    (known : scope.tags.get? (tagName name) = some tag) :
    scope.resolve (.tagged name content) =
      (scope.content content).bind (scope.applyTag scope.resolveValueText tag) :=
  resolveNode_of_known known

/-- What the nodes of a document at a standpoint depend on. -/
def Standpoint.scope (loader : Loader) (host : Surroundings) (here : Standpoint) : Scope :=
  loader.scopeFor host here.directory
    (loader.includeWith host
      (loader.resolveWithin host (loader.allowance host - (here.depth + 1)) (here.depth + 1))
      (here.depth + 1) here.directory)

section

variable (loader : Loader) (host : Surroundings) (files : Dialogue.Files) (here : Standpoint)

abbrev ItemsYield (items : List Yaml.Node) (store left : Store) : Prop :=
  let scope := here.scope loader host
  ∃ values, (scope.resolveItems scope.resolveValueText 0 items).Yields files store values left

abbrev EntriesYield (entries : List (Yaml.Node × Yaml.Node)) (store left : Store) : Prop :=
  let scope := here.scope loader host
  ∃ list, (scope.resolveEntries scope.resolveValueText entries).Yields files store list left

mutual

/--
From a store, a walk through a node gets as far as the node at a trail, with the store that it has
there, and meets an obstacle.
-/
inductive NodeMeets : Store → Yaml.Node → Trail → Store → Obstacle → Prop
  | text {store left : Store} {text : String} {trail : Trail} {obstacle : Obstacle}
      (asked : RequestMeets store (.ofText text) trail left obstacle) :
      NodeMeets store (.string text) trail left obstacle
  | item {store middle left : Store} {before after : List Yaml.Node} {item : Yaml.Node}
      {trail : Trail} {obstacle : Obstacle}
      (earlier : ItemsYield loader host files here before store middle)
      (inner : NodeMeets middle item trail left obstacle) :
      NodeMeets store (.sequence (before ++ item :: after)) (.index before.length :: trail) left
        obstacle
  /-- A place inside a key has no step for the key. -/
  | key {store middle left : Store} {before after : List (Yaml.Node × Yaml.Node)}
      {keyNode valueNode : Yaml.Node} {trail : Trail} {obstacle : Obstacle}
      (earlier : EntriesYield loader host files here before store middle)
      (inner : NodeMeets middle keyNode trail left obstacle) :
      NodeMeets store (.mapping (before ++ (keyNode, valueNode) :: after)) trail left obstacle
  /-- A key that is no scalar is a failure of the mapping. -/
  | noKey {store middle left : Store} {before after : List (Yaml.Node × Yaml.Node)}
      {keyNode valueNode : Yaml.Node} {keyValue : Value} {cause : Cause}
      (earlier : EntriesYield loader host files here before store middle)
      (keyRun : ((here.scope loader host).resolve keyNode).Yields files middle keyValue left)
      (unfit : keyValue.asKey = .error cause) :
      NodeMeets store (.mapping (before ++ (keyNode, valueNode) :: after)) [] left (.cause cause)
  | value {store middle between left : Store} {before after : List (Yaml.Node × Yaml.Node)}
      {keyNode valueNode : Yaml.Node} {keyValue : Value} {key : String} {trail : Trail}
      {obstacle : Obstacle} (earlier : EntriesYield loader host files here before store middle)
      (keyRun : ((here.scope loader host).resolve keyNode).Yields files middle keyValue between)
      (fit : keyValue.asKey = .ok key) (inner : NodeMeets between valueNode trail left obstacle) :
      NodeMeets store (.mapping (before ++ (keyNode, valueNode) :: after)) (.key key :: trail) left
        obstacle
  | unknownTag {store : Store} {name : String} {content : Yaml.Node}
      (unknown : loader.tags.get? (tagName name) = none) :
      NodeMeets store (.tagged name content) [] store (.cause (.unknownTag (tagName name)))
  | content {store left : Store} {name : String} {tag : Tag} {content : Yaml.Node} {trail : Trail}
      {obstacle : Obstacle} (known : loader.tags.get? (tagName name) = some tag)
      (collection : Scope.isCollection content = true)
      (inner : NodeMeets store content trail left obstacle) :
      NodeMeets store (.tagged name content) trail left obstacle
  /-- What is no collection has no value without being resolved. -/
  | noLiteral {store : Store} {name : String} {tag : Tag} {content : Yaml.Node} {cause : Cause}
      (known : loader.tags.get? (tagName name) = some tag)
      (scalar : Scope.isCollection content = false)
      (unfit : Value.ofNode content = .error cause) :
      NodeMeets store (.tagged name content) [] store (.cause cause)
  /-- A tag cannot be applied to its content. -/
  | tag {store middle left : Store} {name : String} {tag : Tag} {content : Yaml.Node}
      {input : Value} {trail : Trail} {obstacle : Obstacle}
      (known : loader.tags.get? (tagName name) = some tag)
      (contentRun : ((here.scope loader host).content content).Yields files store input middle)
      (asked : RequestMeets middle (.ofTag loader host here.directory tag input) trail left
        obstacle) :
      NodeMeets store (.tagged name content) trail left obstacle

inductive RequestMeets : Store → Request → Trail → Store → Obstacle → Prop
  | settled (store : Store) (cause : Cause) :
      RequestMeets store (.settled (.error cause)) [] store (.cause cause)
  | missing {store : Store} {name : String} (absent : store.get? name = none) :
      RequestMeets store (.lookUp name) [] store (.cause (.undefinedVariable name))
  /-- A place inside a value text follows the scalar's own. -/
  | valueText {store left : Store} {name valueText : String} {trail : Trail} {obstacle : Obstacle}
      (inner : ValueTextMeets store valueText trail left obstacle) :
      RequestMeets store (.assignText name valueText) trail left obstacle
  | document (store : Store) (text : String) :
      RequestMeets store (.document text) [] store (.document text)

/-- Resolving the text behind an arrow comes to an obstacle. -/
inductive ValueTextMeets : Store → String → Trail → Store → Obstacle → Prop
  | implied {store left : Store} {text : String} {implied : Implicit} {trail : Trail}
      {obstacle : Obstacle} (shaped : Implicit.ofText? text = some implied)
      (asked : RequestMeets store (.ofText text) trail left obstacle) :
      ValueTextMeets store text trail left obstacle
  | tagged {store left : Store} {text : String} {node : Yaml.Node} {trail : Trail}
      {obstacle : Obstacle} (ordinary : Implicit.ofText? text = none)
      (begun : taggedNode? text = some node)
      (inner : NodeMeets store node trail left obstacle) :
      ValueTextMeets store text trail left obstacle

end

end

/-- A document that is being resolved, with the trail to the node that has been reached. -/
structure Frame where
  document : Document
  trail : Trail

/-- The place of a frame: the file of its document, and the trail as it is written. -/
def Frame.location (frame : Frame) : Location := ⟨frame.document.origin, frame.trail.describe⟩

def DocumentMeets (loader : Loader) (host : Surroundings) (files : Dialogue.Files) (depth : Nat)
    (store : Store) (document : Document) (trail : Trail) (left : Store) (obstacle : Obstacle) :
    Prop :=
  NodeMeets loader host files ⟨document.directory, depth⟩ store document.root trail left obstacle

/-- The file that a text names in a document. -/
def Document.target (host : Surroundings) (document : Document) (text : String) :
    Except ReadFailure Path :=
  Path.ofIncludeText host.workingDirectory host.home document.directory text

/--
Resolving a document fails with a cause.  The frames are the documents that are being resolved then,
each of which names the next one; the last of them has the place where nothing more can be resolved.
-/
inductive DocumentFails (loader : Loader) (host : Surroundings) (files : Dialogue.Files) :
    Nat → Store → Document → List Frame → Cause → Prop
  /-- A node of the document fails itself. -/
  | here {depth : Nat} {store left : Store} {document : Document} {trail : Trail} {cause : Cause}
      (met : DocumentMeets loader host files depth store document trail left (.cause cause)) :
      DocumentFails loader host files depth store document [⟨document, trail⟩] cause
  /-- A node names no file, for want of a directory. -/
  | nameless {depth : Nat} {store left : Store} {document : Document} {trail : Trail}
      {text : String} {failure : ReadFailure}
      (met : DocumentMeets loader host files depth store document trail left (.document text))
      (untold : document.target host text = .error failure) :
      DocumentFails loader host files depth store document [⟨document, trail⟩]
        (.includeNotFound ⟨text⟩ failure)
  | tooDeep {depth limit : Nat} {store left : Store} {document : Document} {trail : Trail}
      {text : String} {file : Path}
      (met : DocumentMeets loader host files depth store document trail left (.document text))
      (named : document.target host text = .ok file)
      (exceeded : loader.exceeds? (depth + 1) = some limit) :
      DocumentFails loader host files depth store document [⟨document, trail⟩]
        (.includeDepthExceeded limit file)
  | unreadable {depth : Nat} {store left : Store} {document : Document} {trail : Trail}
      {text : String} {file : Path} {failure : ReadFailure}
      (met : DocumentMeets loader host files depth store document trail left (.document text))
      (named : document.target host text = .ok file)
      (allowed : loader.exceeds? (depth + 1) = none) (read : files file = .error failure) :
      DocumentFails loader host files depth store document [⟨document, trail⟩]
        (.includeNotFound file failure)
  | malformed {depth : Nat} {store left : Store} {document : Document} {trail : Trail}
      {text content : String} {file : Path} {error : Yaml.ReadError}
      (met : DocumentMeets loader host files depth store document trail left (.document text))
      (named : document.target host text = .ok file)
      (allowed : loader.exceeds? (depth + 1) = none) (read : files file = .ok content)
      (parsed : Yaml.Node.parse content.toList = .error error) :
      DocumentFails loader host files depth store document [⟨document, trail⟩]
        (Document.causeOf (some file) error)
  /-- The document that a node names fails. -/
  | nested {depth : Nat} {store left : Store} {document inner : Document} {trail : Trail}
      {text content : String} {file : Path} {frames : List Frame} {cause : Cause}
      (met : DocumentMeets loader host files depth store document trail left (.document text))
      (named : document.target host text = .ok file)
      (allowed : loader.exceeds? (depth + 1) = none) (read : files file = .ok content)
      (parsed : Document.parse content (some file) = .ok inner)
      (fails : DocumentFails loader host files (depth + 1) left inner frames cause) :
      DocumentFails loader host files depth store document (⟨document, trail⟩ :: frames) cause

end TaggedConfig
