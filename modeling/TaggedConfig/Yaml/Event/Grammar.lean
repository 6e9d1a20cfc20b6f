import TaggedConfig.Yaml.Event

/-!
# From tokens to events

The grammar is read with one token of lookahead.  A state says what is expected next; the states to
return to once a node is complete are kept on a stack, and so are the places where the open
collections began.
-/

namespace TaggedConfig.Yaml

inductive Expectation where
  | streamStart
  | firstDocument
  | document
  | documentContent
  | documentEnd
  | blockNode
  | blockSequenceFirst
  | blockSequenceEntry
  | indentlessEntry
  | blockMappingFirst
  | blockMappingKey
  | blockMappingValue
  | flowSequenceFirst
  | flowSequenceEntry
  | pairKey
  | pairValue
  | pairEnd
  | flowMappingFirst
  | flowMappingKey
  | flowMappingValue
  | flowMappingNoValue
  | nothing
  deriving DecidableEq, Repr

/-- The state of reading events. -/
structure Grammar where
  /-- The tokens before the first fault. -/
  tokens : List Token
  /-- The fault behind them, if there is one. -/
  fault : Option SyntaxError
  expected : Expectation
  returns : List Expectation
  /-- Where the open collections began, the innermost first. -/
  opened : List Mark
  /-- What the handles of tags stand for in this document. -/
  handles : List (List Char × List UInt8)

namespace Grammar

/-- Reading stops at a fault of the document, or because the tokens are used up. -/
abbrev Stop := Option SyntaxError

def standardHandles : List (List Char × List UInt8) :=
  [(['!'], Tag.asciiOctets ['!']),
    (['!', '!'], Tag.asciiOctets "tag:yaml.org,2002:".toList)]

def ofText (text : List Char) : Grammar :=
  let (tokens, fault) := Yaml.tokens text
  { tokens, fault, expected := .streamStart, returns := [], opened := [], handles := [] }

def peek (grammar : Grammar) : Except Stop Token :=
  match grammar.tokens with
  | token :: _ => .ok token
  | [] => .error grammar.fault

def skip (grammar : Grammar) : Grammar := { grammar with tokens := grammar.tokens.drop 1 }

def expect (grammar : Grammar) (expected : Expectation) : Grammar := { grammar with expected }

def return? (grammar : Grammar) : Grammar :=
  { grammar with
    expected := grammar.returns.head?.getD .nothing
    returns := grammar.returns.drop 1 }

/-- Put an expectation aside until the next node is complete. -/
def thenExpect (grammar : Grammar) (expected : Expectation) : Grammar :=
  { grammar with returns := expected :: grammar.returns }

def enter (grammar : Grammar) (mark : Mark) : Grammar :=
  { grammar with opened := mark :: grammar.opened }

def leave (grammar : Grammar) : Grammar := { grammar with opened := grammar.opened.drop 1 }

def faultIn {α : Type} (grammar : Grammar) (context : Context) (problem : Problem)
    (token : Token) : Except Stop α :=
  .error (some (.within context (grammar.opened.head?.getD .start) problem token.start))

def faultAt {α : Type} (problem : Problem) (mark : Mark) : Except Stop α :=
  .error (some (.alone problem mark))

def leaveOut (grammar : Grammar) (mark : Mark) : PlacedEvent × Grammar := (.omitted mark, grammar)

def expandTag? (grammar : Grammar) (handle : List Char) (suffix : List UInt8) :
    Option (List UInt8) :=
  if handle.isEmpty then some suffix
  else (grammar.handles.find? (fun entry => entry.1 == handle)).map (fun entry => entry.2 ++ suffix)

/-- The anchor and the tag before a node, in either order, and where they begin. -/
structure NodeHead where
  anchor : Option (List Char)
  tag : Option (Token × List Char × List UInt8)
  mark : Mark

def takeAnchor (grammar : Grammar) : Except Stop (Option (List Char) × Grammar) := do
  match (← grammar.peek).kind with
  | .anchor name => return (some name, grammar.skip)
  | _ => return (none, grammar)

def takeTag (grammar : Grammar) :
    Except Stop (Option (Token × List Char × List UInt8) × Grammar) := do
  let token ← grammar.peek
  match token.kind with
  | .tag handle suffix => return (some (token, handle, suffix), grammar.skip)
  | _ => return (none, grammar)

def takeHead (grammar : Grammar) : Except Stop (NodeHead × Grammar) := do
  let first ← grammar.peek
  let (anchor, grammar) ← grammar.takeAnchor
  let (tag, grammar) ← grammar.takeTag
  if anchor.isSome || tag.isNone then return (⟨anchor, tag, first.start⟩, grammar)
  let (anchor, grammar) ← grammar.takeAnchor
  return (⟨anchor, tag, first.start⟩, grammar)

def NodeHead.properties (head : NodeHead) (grammar : Grammar) : Except Stop Properties :=
  match head.tag with
  | none => .ok ⟨head.anchor, none⟩
  | some (token, handle, suffix) =>
      match grammar.expandTag? handle suffix with
      | some tag => .ok ⟨head.anchor, some tag⟩
      | none => .error (some (.within .node head.mark .undefinedHandle token.start))

/--
Read the beginning of a node.  Block collections are allowed in block context only; the entries of a
sequence that is the value of a key need no indentation of their own.
-/
def node (grammar : Grammar) (inBlock indentless : Bool) :
    Except Stop (PlacedEvent × Grammar) := do
  let token ← grammar.peek
  if let .alias name := token.kind then
    return (⟨.alias name, token.start⟩, grammar.skip.return?)
  let (head, grammar) ← grammar.takeHead
  let properties ← head.properties grammar
  let token ← grammar.peek
  let begin (event : Event) (expected : Expectation) : Except Stop (PlacedEvent × Grammar) :=
    .ok (⟨event, head.mark⟩, grammar.expect expected)
  match token.kind, inBlock with
  | .blockEntry, _ =>
      if indentless then begin (.sequenceStart properties) .indentlessEntry
      else otherwise grammar head properties token
  | .scalar text style, _ =>
      return (⟨.scalar properties text style, head.mark⟩, grammar.skip.return?)
  | .flowSequenceStart, _ => begin (.sequenceStart properties) .flowSequenceFirst
  | .flowMappingStart, _ => begin (.mappingStart properties) .flowMappingFirst
  | .blockSequenceStart, true => begin (.sequenceStart properties) .blockSequenceFirst
  | .blockMappingStart, true => begin (.mappingStart properties) .blockMappingFirst
  | _, _ => otherwise grammar head properties token
where
  /-- No content follows: properties alone make an empty scalar. -/
  otherwise (grammar : Grammar) (head : NodeHead) (properties : Properties) (token : Token) :
      Except Stop (PlacedEvent × Grammar) :=
    if properties.anchor.isSome || properties.tag.isSome then
      .ok (⟨.scalar properties [] .plain, head.mark⟩, grammar.return?)
    else
      .error (some (.within (if inBlock then .blockNode else .flowNode) head.mark
        .expectedNodeContent token.start))

def nodeUnless (grammar : Grammar) (closers : List TokenKind) (inBlock indentless : Bool)
    (next : Expectation) (omitted : Mark) : Except Stop (PlacedEvent × Grammar) := do
  let token ← grammar.peek
  if closers.contains token.kind then return (grammar.expect next).leaveOut omitted
  else (grammar.thenExpect next).node inBlock indentless

def directives : (fuel : Nat) → (hasVersion : Bool) → Grammar → Except Stop Grammar
  | 0, _, grammar => .ok grammar
  | fuel + 1, hasVersion, grammar => do
      let token ← grammar.peek
      match token.kind with
      | .versionDirective major minor =>
          if hasVersion then faultAt .duplicateVersion token.start
          else if major != 1 || (minor != 1 && minor != 2) then
            faultAt .incompatibleVersion token.start
          else directives fuel true grammar.skip
      | .handleDirective handle expansion =>
          if grammar.handles.any (fun entry => entry.1 == handle) then
            faultAt .duplicateHandle token.start
          else
            directives fuel hasVersion
              { grammar.skip with handles := grammar.handles ++ [(handle, expansion)] }
      | _ => return grammar

def addStandardHandles (grammar : Grammar) : Grammar :=
  let missing := standardHandles.filter fun entry =>
    !grammar.handles.any (fun own => own.1 == entry.1)
  { grammar with handles := grammar.handles ++ missing }

def skipDocumentEnds (grammar : Grammar) : Grammar :=
  { grammar with tokens := grammar.tokens.dropWhile (fun token => token.kind == .documentEnd) }

/-- A document begins with its directives and a marker; the first may begin with its content. -/
def documentStart (grammar : Grammar) (isFirst : Bool) :
    Except Stop (PlacedEvent × Grammar) := do
  let grammar := if isFirst then grammar else grammar.skipDocumentEnds
  let token ← grammar.peek
  match token.kind with
  | .streamEnd => return (⟨.streamEnd, token.start⟩, grammar.skip.expect .nothing)
  | .versionDirective _ _ | .handleDirective _ _ | .documentStart => explicit grammar token
  | _ =>
      if isFirst then
        return (⟨.documentStart, token.start⟩,
          (grammar.addStandardHandles.thenExpect .documentEnd).expect .blockNode)
      else explicit grammar token
where
  /-- The marker has to follow the directives. -/
  explicit (grammar : Grammar) (first : Token) : Except Stop (PlacedEvent × Grammar) := do
    let grammar ← directives grammar.tokens.length false grammar
    let token ← grammar.peek
    if token.kind = .documentStart then
      return (⟨.documentStart, first.start⟩,
        (grammar.addStandardHandles.skip.thenExpect .documentEnd).expect .documentContent)
    else faultAt .expectedDocumentStart token.start

def documentContent (grammar : Grammar) : Except Stop (PlacedEvent × Grammar) := do
  let token ← grammar.peek
  match token.kind with
  | .versionDirective _ _ | .handleDirective _ _ | .documentStart | .documentEnd | .streamEnd =>
      return grammar.return?.leaveOut token.start
  | _ => grammar.node true false

def documentEnd (grammar : Grammar) : Except Stop (PlacedEvent × Grammar) := do
  let token ← grammar.peek
  let grammar := if token.kind = .documentEnd then grammar.skip else grammar
  return (⟨.documentEnd, token.start⟩, { grammar.expect .document with handles := [] })

def close (grammar : Grammar) (event : Event) (token : Token) : PlacedEvent × Grammar :=
  (⟨event, token.start⟩, grammar.skip.return?.leave)

def blockSequenceEntry (grammar : Grammar) : Except Stop (PlacedEvent × Grammar) := do
  let token ← grammar.peek
  match token.kind with
  | .blockEntry =>
      grammar.skip.nodeUnless [.blockEntry, .blockEnd] true false .blockSequenceEntry token.stop
  | .blockEnd => return grammar.close .sequenceEnd token
  | _ => grammar.faultIn .blockCollection .expectedDash token

/-- The next entry of a sequence without indentation of its own. -/
def indentlessEntry (grammar : Grammar) : Except Stop (PlacedEvent × Grammar) := do
  let token ← grammar.peek
  match token.kind with
  | .blockEntry =>
      grammar.skip.nodeUnless [.blockEntry, .key, .value, .blockEnd] true false .indentlessEntry
        token.stop
  | _ => return (⟨.sequenceEnd, token.start⟩, grammar.return?)

def blockMappingKey (grammar : Grammar) : Except Stop (PlacedEvent × Grammar) := do
  let token ← grammar.peek
  match token.kind with
  | .key =>
      grammar.skip.nodeUnless [.key, .value, .blockEnd] true true .blockMappingValue token.stop
  | .blockEnd => return grammar.close .mappingEnd token
  | _ => grammar.faultIn .blockMapping .expectedKey token

def blockMappingValue (grammar : Grammar) : Except Stop (PlacedEvent × Grammar) := do
  let token ← grammar.peek
  match token.kind with
  | .value =>
      grammar.skip.nodeUnless [.key, .value, .blockEnd] true true .blockMappingKey token.stop
  | _ => return (grammar.expect .blockMappingKey).leaveOut token.start

/-- The entries of a flow collection are separated by commas; one may follow the last. -/
def separator (grammar : Grammar) (isFirst : Bool) (closer : TokenKind) (context : Context)
    (problem : Problem) : Except Stop Grammar := do
  let token ← grammar.peek
  if isFirst || token.kind == closer then return grammar
  if token.kind = .flowEntry then return grammar.skip
  grammar.faultIn context problem token

def flowSequenceEntry (grammar : Grammar) (isFirst : Bool) :
    Except Stop (PlacedEvent × Grammar) := do
  let grammar ←
    grammar.separator isFirst .flowSequenceEnd .flowSequence .expectedCommaOrBracket
  let token ← grammar.peek
  match token.kind with
  | .key => return (⟨.mappingStart .none, token.start⟩, grammar.skip.expect .pairKey)
  | .flowSequenceEnd => return grammar.close .sequenceEnd token
  | _ => (grammar.thenExpect .flowSequenceEntry).node false false

/-- The key of a single pair; the token that shows that it was left out is used up. -/
def pairKey (grammar : Grammar) : Except Stop (PlacedEvent × Grammar) := do
  let token ← grammar.peek
  match token.kind with
  | .value | .flowEntry | .flowSequenceEnd =>
      return (grammar.skip.expect .pairValue).leaveOut token.stop
  | _ => (grammar.thenExpect .pairValue).node false false

def pairValue (grammar : Grammar) : Except Stop (PlacedEvent × Grammar) := do
  let token ← grammar.peek
  match token.kind with
  | .value =>
      let grammar := grammar.skip
      let token ← grammar.peek
      grammar.nodeUnless [.flowEntry, .flowSequenceEnd] false false .pairEnd token.start
  | _ => return (grammar.expect .pairEnd).leaveOut token.start

def pairEnd (grammar : Grammar) : Except Stop (PlacedEvent × Grammar) := do
  let token ← grammar.peek
  return (⟨.mappingEnd, token.start⟩, grammar.expect .flowSequenceEntry)

/-- The next key of a flow mapping; without a question mark or a colon it has no value. -/
def flowMappingKey (grammar : Grammar) (isFirst : Bool) :
    Except Stop (PlacedEvent × Grammar) := do
  let grammar ← grammar.separator isFirst .flowMappingEnd .flowMapping .expectedCommaOrBrace
  let token ← grammar.peek
  match token.kind with
  | .key =>
      let grammar := grammar.skip
      let token ← grammar.peek
      grammar.nodeUnless [.value, .flowEntry, .flowMappingEnd] false false .flowMappingValue
        token.start
  | .flowMappingEnd => return grammar.close .mappingEnd token
  | _ => (grammar.thenExpect .flowMappingNoValue).node false false

def flowMappingValue (grammar : Grammar) : Except Stop (PlacedEvent × Grammar) := do
  let token ← grammar.peek
  match token.kind with
  | .value =>
      let grammar := grammar.skip
      let token ← grammar.peek
      grammar.nodeUnless [.flowEntry, .flowMappingEnd] false false .flowMappingKey token.start
  | _ => return (grammar.expect .flowMappingKey).leaveOut token.start

/-- The opening token of a collection is used up before its first entry. -/
def enterCollection (grammar : Grammar) : Except Stop Grammar := do
  let token ← grammar.peek
  return grammar.skip.enter token.start

def step (grammar : Grammar) : Except Stop (PlacedEvent × Grammar) := do
  match grammar.expected with
  | .streamStart => (grammar.skip.expect .firstDocument).documentStart true
  | .firstDocument => grammar.documentStart true
  | .document => grammar.documentStart false
  | .documentContent => grammar.documentContent
  | .documentEnd => grammar.documentEnd
  | .blockNode => grammar.node true false
  | .blockSequenceFirst => (← grammar.enterCollection).blockSequenceEntry
  | .blockSequenceEntry => grammar.blockSequenceEntry
  | .indentlessEntry => grammar.indentlessEntry
  | .blockMappingFirst => (← grammar.enterCollection).blockMappingKey
  | .blockMappingKey => grammar.blockMappingKey
  | .blockMappingValue => grammar.blockMappingValue
  | .flowSequenceFirst => (← grammar.enterCollection).flowSequenceEntry true
  | .flowSequenceEntry => grammar.flowSequenceEntry false
  | .pairKey => grammar.pairKey
  | .pairValue => grammar.pairValue
  | .pairEnd => grammar.pairEnd
  | .flowMappingFirst => (← grammar.enterCollection).flowMappingKey true
  | .flowMappingKey => grammar.flowMappingKey false
  | .flowMappingValue => grammar.flowMappingValue
  | .flowMappingNoValue => do
      let token ← grammar.peek
      return (grammar.expect .flowMappingKey).leaveOut token.start
  | .nothing => .error none

/-- The events up to the end of the stream or the first fault. -/
def eventsFrom : (fuel : Nat) → Grammar → List PlacedEvent × Option SyntaxError
  | 0, _ => ([], none)
  | fuel + 1, grammar =>
      match grammar.step with
      | .error fault => ([], fault)
      | .ok (event, grammar) =>
          let (events, fault) := eventsFrom fuel grammar
          (event :: events, fault)

end Grammar

/--
The events of a text before its first fault, and that fault.  At most three events are made without
using up a token in between.
-/
def events (text : List Char) : List PlacedEvent × Option SyntaxError :=
  let grammar := Grammar.ofText text
  Grammar.eventsFrom (4 * (grammar.tokens.length + 2)) grammar

end TaggedConfig.Yaml
