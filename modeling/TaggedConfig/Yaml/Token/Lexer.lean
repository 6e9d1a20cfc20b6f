import TaggedConfig.Yaml.Token.Block
import TaggedConfig.Yaml.Token.Plain
import TaggedConfig.Yaml.Token.Quoted
import TaggedConfig.Yaml.Token.Tag

/-!
# From characters to tokens

Tokens are put into a queue as they are found.  A token after which a colon would make it a key is
held back until this is decided: the key token, and the start of a mapping if one is due, then go
in front of it.  Such a candidate is dropped at the end of its line and after 1024 bytes.

Tokens are handed out one at a time, and only those before the first fault can be seen.
-/

namespace TaggedConfig.Yaml

/-- A token that turns out to begin a key if a colon follows. -/
structure KeyCandidate where
  /-- At the indentation of the block, a colon has to follow. -/
  required : Bool
  /-- The position of the token among all tokens. -/
  number : Nat
  mark : Mark
  deriving Inhabited

/-- The state of reading tokens. -/
structure Lexer where
  cursor : Cursor
  /-- The column of the innermost open block collection, -1 outside of any. -/
  indent : Int
  outerIndents : List Int
  /-- Whether a key may begin at this place. -/
  keyAllowed : Bool
  /-- The candidate of each flow level, the innermost first; the last is that of the block. -/
  candidates : List (Option KeyCandidate)
  queue : List Token
  /-- The number of tokens handed out. -/
  taken : Nat
  deriving Inhabited

namespace Lexer

/-- How far behind the beginning of a key its colon may stand. -/
def keyReach : Nat := 1024

/-- The state before a text: the start of the stream is the first token. -/
def ofText (text : List Char) : Lexer :=
  { cursor := .ofText text
    indent := -1
    outerIndents := []
    keyAllowed := true
    candidates := [none]
    queue := [⟨.streamStart, .start, .start⟩]
    taken := 0 }

def inFlow (lexer : Lexer) : Bool := 1 < lexer.candidates.length

def mark (lexer : Lexer) : Mark := lexer.cursor.mark

def candidate? (lexer : Lexer) : Option KeyCandidate := lexer.candidates.head?.join

def push (lexer : Lexer) (kind : TokenKind) (start stop : Mark) : Lexer :=
  { lexer with queue := lexer.queue ++ [⟨kind, start, stop⟩] }

def insert (lexer : Lexer) (number : Nat) (kind : TokenKind) (mark : Mark) : Lexer :=
  let index := number - lexer.taken
  { lexer with
    queue := lexer.queue.take index ++ (⟨kind, mark, mark⟩ :: lexer.queue.drop index) }

def setCandidate (lexer : Lexer) (candidate : Option KeyCandidate) : Lexer :=
  { lexer with candidates := candidate :: lexer.candidates.drop 1 }

def moveTo (lexer : Lexer) (cursor : Cursor) : Lexer := { lexer with cursor }

/-- Say whether a key may begin at the cursor. -/
def allowKey (lexer : Lexer) (allowed : Bool) : Lexer := { lexer with keyAllowed := allowed }

/-- A candidate is out of reach on a later line or too many bytes on. -/
def isStale (mark : Mark) (candidate : KeyCandidate) : Bool :=
  candidate.mark.line < mark.line || candidate.mark.index + keyReach < mark.index

def abandon (lexer : Lexer) (candidate : KeyCandidate) :
    Except SyntaxError (Option KeyCandidate) :=
  if candidate.required then
    .error (.within .simpleKey candidate.mark .expectedColon lexer.mark)
  else .ok none

def keepCandidate (lexer : Lexer) :
    Option KeyCandidate → Except SyntaxError (Option KeyCandidate)
  | none => .ok none
  | some candidate =>
      if isStale lexer.mark candidate then lexer.abandon candidate else .ok (some candidate)

def dropStale (lexer : Lexer) : Except SyntaxError Lexer := do
  let candidates ← lexer.candidates.mapM lexer.keepCandidate
  return { lexer with candidates }

def dropCandidate (lexer : Lexer) : Except SyntaxError Lexer :=
  match lexer.candidate? with
  | none => .ok lexer
  | some candidate => lexer.abandon candidate |>.map lexer.setCandidate

/-- The token that comes next may be a key, if keys are allowed here. -/
def saveCandidate (lexer : Lexer) : Except SyntaxError Lexer :=
  if lexer.keyAllowed then do
    let required := !lexer.inFlow && lexer.indent == (lexer.mark.column : Int)
    let lexer ← lexer.dropCandidate
    return lexer.setCandidate (some ⟨required, lexer.taken + lexer.queue.length, lexer.mark⟩)
  else .ok lexer

def closeBlocks (lexer : Lexer) (column : Int) : Lexer :=
  if lexer.inFlow then lexer
  else
    let rec close (indent : Int) : List Int → List Token → Int × List Int × List Token
      | [], queue => (indent, [], queue)
      | outer :: rest, queue =>
          if column < indent then
            close outer rest (queue ++ [⟨.blockEnd, lexer.mark, lexer.mark⟩])
          else (indent, outer :: rest, queue)
    let (indent, outerIndents, queue) := close lexer.indent lexer.outerIndents lexer.queue
    { lexer with indent, outerIndents, queue }

def openBlock (lexer : Lexer) (column : Nat) (place : Option Nat) (kind : TokenKind)
    (mark : Mark) : Lexer :=
  if lexer.inFlow || (column : Int) ≤ lexer.indent then lexer
  else
    let opened :=
      { lexer with indent := column, outerIndents := lexer.indent :: lexer.outerIndents }
    match place with
    | some number => opened.insert number kind mark
    | none => opened.push kind mark mark

/--
Step over spaces, comments, line breaks, and tabs where they are no indentation.  A byte order mark
may begin a line.  Behind a line break of block context a key may begin.
-/
def skipGap (inFlow : Bool) :
    List Char → Mark → (keyAllowed inComment : Bool) → Cursor × Bool
  | [], mark, keyAllowed, _ => (⟨[], mark⟩, keyAllowed)
  | '\r' :: '\n' :: rest, mark, keyAllowed, _ =>
      skipGap inFlow rest (mark.nextLine 2) (keyAllowed || !inFlow) false
  | c :: rest, mark, keyAllowed, inComment =>
      if isBreak c then
        skipGap inFlow rest (mark.nextLine c.utf8Size) (keyAllowed || !inFlow) false
      else if inComment || c == ' ' || (c == '\ufeff' && mark.column == 0)
          || (c == '\t' && (inFlow || !keyAllowed)) then
        skipGap inFlow rest (mark.next c) keyAllowed inComment
      else if c == '#' then skipGap inFlow rest (mark.next c) keyAllowed true
      else (⟨c :: rest, mark⟩, keyAllowed)

def pushSign (lexer : Lexer) (kind : TokenKind) (width : Nat) : Lexer :=
  let cursor := lexer.cursor.skipMany width
  (lexer.push kind lexer.mark cursor.mark).moveTo cursor

/-- The end of the text, which counts as a line of its own unless it stands at the start of one. -/
def fetchStreamEnd (lexer : Lexer) : Except SyntaxError Lexer := do
  let mark := lexer.mark
  let mark := if mark.column = 0 then mark else ⟨mark.index, mark.line + 1, 0⟩
  let lexer ← ((lexer.moveTo ⟨[], mark⟩).closeBlocks (-1)).dropCandidate
  return (lexer.allowKey false).push .streamEnd mark mark

def fetchDirective (lexer : Lexer) : Except SyntaxError Lexer := do
  let began := lexer.mark
  let lexer ← (lexer.closeBlocks (-1)).dropCandidate
  let (kind, after) ← Directive.scan lexer.cursor
  let lineEnd := Block.skipToLineEnd after
  if !startsWithBreak lineEnd.rest then
    throw (.within .directive began .expectedCommentOrBreak lineEnd.mark)
  return ((lexer.allowKey false).push kind began after.mark).moveTo (Block.skipBreak lineEnd)

def fetchDocumentMarker (lexer : Lexer) (kind : TokenKind) : Except SyntaxError Lexer := do
  let lexer ← (lexer.closeBlocks (-1)).dropCandidate
  return (lexer.allowKey false).pushSign kind 3

/-- An opening bracket or brace: it may begin a key, and keys are allowed behind it. -/
def fetchFlowStart (lexer : Lexer) (kind : TokenKind) : Except SyntaxError Lexer := do
  let lexer ← lexer.saveCandidate
  let lexer := { lexer with candidates := none :: lexer.candidates }
  return (lexer.allowKey true).pushSign kind 1

/-- A closing bracket or brace; a stray one leaves the outermost level alone. -/
def fetchFlowEnd (lexer : Lexer) (kind : TokenKind) : Except SyntaxError Lexer := do
  let lexer ← lexer.dropCandidate
  let lexer :=
    if lexer.inFlow then { lexer with candidates := lexer.candidates.drop 1 } else lexer
  return (lexer.allowKey false).pushSign kind 1

/-- A comma between the entries of a flow collection. -/
def fetchFlowEntry (lexer : Lexer) : Except SyntaxError Lexer := do
  let lexer ← lexer.dropCandidate
  return (lexer.allowKey true).pushSign .flowEntry 1

def fetchBlockEntry (lexer : Lexer) : Except SyntaxError Lexer := do
  if !lexer.inFlow && !lexer.keyAllowed then
    throw (.alone .blockEntryNotAllowed lexer.mark)
  let lexer ←
    (lexer.openBlock lexer.mark.column none .blockSequenceStart lexer.mark).dropCandidate
  return (lexer.allowKey true).pushSign .blockEntry 1

def fetchKey (lexer : Lexer) : Except SyntaxError Lexer := do
  if !lexer.inFlow && !lexer.keyAllowed then
    throw (.alone .keyNotAllowed lexer.mark)
  let lexer ←
    (lexer.openBlock lexer.mark.column none .blockMappingStart lexer.mark).dropCandidate
  return (lexer.allowKey !lexer.inFlow).pushSign .key 1

def fetchValue (lexer : Lexer) : Except SyntaxError Lexer :=
  match lexer.candidate? with
  | some candidate =>
      let lexer := lexer.insert candidate.number .key candidate.mark
      let lexer := lexer.openBlock candidate.mark.column (some candidate.number)
        .blockMappingStart candidate.mark
      .ok (((lexer.setCandidate none).allowKey false).pushSign .value 1)
  | none =>
      if !lexer.inFlow && !lexer.keyAllowed then
        .error (.alone .valueNotAllowed lexer.mark)
      else
        let lexer := lexer.openBlock lexer.mark.column none .blockMappingStart lexer.mark
        .ok ((lexer.allowKey !lexer.inFlow).pushSign .value 1)

def fetchAnchor (lexer : Lexer) (context : Context) (kind : List Char → TokenKind) :
    Except SyntaxError Lexer := do
  let lexer ← lexer.saveCandidate
  let (name, after) ← Anchor.scan context lexer.cursor
  return ((lexer.allowKey false).push (kind name) lexer.mark after.mark).moveTo after

def fetchTag (lexer : Lexer) : Except SyntaxError Lexer := do
  let lexer ← lexer.saveCandidate
  let (handle, suffix, after) ← Tag.scan lexer.inFlow lexer.cursor
  return ((lexer.allowKey false).push (.tag handle suffix) lexer.mark after.mark).moveTo after

def fetchBlockScalar (lexer : Lexer) (style : ScalarStyle) : Except SyntaxError Lexer := do
  let lexer ← lexer.dropCandidate
  let scalar ← Block.scan (style == .folded) lexer.indent lexer.cursor
  return ((lexer.allowKey true).push (.scalar scalar.text style) lexer.mark
    scalar.after.mark).moveTo scalar.after

def fetchQuoted (lexer : Lexer) (quote : Quoted.Quote) (style : ScalarStyle) :
    Except SyntaxError Lexer := do
  let lexer ← lexer.saveCandidate
  let scalar ← Quoted.scan quote lexer.cursor
  return ((lexer.allowKey false).push (.scalar scalar.text style) lexer.mark
    scalar.after.mark).moveTo scalar.after

/-- A plain scalar; behind its last line break a key may begin. -/
def fetchPlain (lexer : Lexer) : Except SyntaxError Lexer := do
  let lexer ← lexer.saveCandidate
  let scalar ← Plain.scan lexer.inFlow (lexer.indent + 1).toNat lexer.cursor
  return ((lexer.allowKey scalar.broken).push (.scalar scalar.text .plain) lexer.mark
    scalar.after.mark).moveTo scalar.after

/-- The characters that cannot begin a plain scalar wherever they stand. -/
def isIndicator (c : Char) : Bool :=
  ['-', '?', ':', ',', '[', ']', '\x7b', '\x7d', '#', '&', '*', '!', '|', '>', '\'', '"', '%',
    '@', '\x60'].contains c

def startsPlain (inFlow : Bool) : List Char → Bool
  | [] => false
  | c :: rest =>
      (!isBlank c && !isBreak c && !isIndicator c)
        || (c == '-' && !(rest.head?.any isBlank))
        || (!inFlow && (c == '?' || c == ':') && !startsWithGap rest)

/-- Step over what stands before the next token, and close the blocks that end before it. -/
def prepare (lexer : Lexer) : Except SyntaxError Lexer := do
  let (cursor, keyAllowed) :=
    skipGap lexer.inFlow lexer.cursor.rest lexer.mark lexer.keyAllowed false
  let lexer ← ((lexer.moveTo cursor).allowKey keyAllowed).dropStale
  return lexer.closeBlocks lexer.mark.column

/-- Read the token that begins with `c` at the cursor. -/
def fetchFrom (lexer : Lexer) (c : Char) (rest : List Char) : Except SyntaxError Lexer :=
  let atLineStart := lexer.mark.column == 0
  if atLineStart && c == '%' then lexer.fetchDirective
  else if atLineStart && startsWithMarker '-' (c :: rest) then
    lexer.fetchDocumentMarker .documentStart
  else if atLineStart && startsWithMarker '.' (c :: rest) then
    lexer.fetchDocumentMarker .documentEnd
  else if c == '[' then lexer.fetchFlowStart .flowSequenceStart
  else if c == '\x7b' then lexer.fetchFlowStart .flowMappingStart
  else if c == ']' then lexer.fetchFlowEnd .flowSequenceEnd
  else if c == '\x7d' then lexer.fetchFlowEnd .flowMappingEnd
  else if c == ',' then lexer.fetchFlowEntry
  else if c == '-' && startsWithGap rest then lexer.fetchBlockEntry
  else if c == '?' && (lexer.inFlow || startsWithGap rest) then lexer.fetchKey
  else if c == ':' && (lexer.inFlow || startsWithGap rest) then lexer.fetchValue
  else if c == '*' then lexer.fetchAnchor .alias .alias
  else if c == '&' then lexer.fetchAnchor .anchor .anchor
  else if c == '!' then lexer.fetchTag
  else if c == '|' && !lexer.inFlow then lexer.fetchBlockScalar .literal
  else if c == '>' && !lexer.inFlow then lexer.fetchBlockScalar .folded
  else if c == '\'' then lexer.fetchQuoted .single .singleQuoted
  else if c == '"' then lexer.fetchQuoted .double .doubleQuoted
  else if startsPlain lexer.inFlow (c :: rest) then lexer.fetchPlain
  else .error (.within .nextToken lexer.mark .cannotStartToken lexer.mark)

def dispatch (lexer : Lexer) : Except SyntaxError Lexer :=
  match lexer.cursor.rest with
  | [] => lexer.fetchStreamEnd
  | c :: rest => lexer.fetchFrom c rest

/-- Find the next token, or the tokens that it makes necessary before it. -/
def fetch (lexer : Lexer) : Except SyntaxError Lexer := do (← lexer.prepare).dispatch

/-- The first token of the queue cannot be handed out yet. -/
def isUnsettled (lexer : Lexer) : Bool :=
  lexer.queue.isEmpty || lexer.candidates.any fun
    | none => false
    | some candidate => candidate.number == lexer.taken

/-- Find tokens until the first of the queue is settled. -/
def settle : (fuel : Nat) → Lexer → Except SyntaxError Lexer
  | 0, lexer => .ok lexer
  | fuel + 1, lexer => do
      let lexer ← if lexer.queue.isEmpty then .ok lexer else lexer.dropStale
      if lexer.isUnsettled then settle fuel (← lexer.fetch) else return lexer

/-- Hand out tokens up to the end of the stream or the first fault. -/
def tokensFrom : (fuel : Nat) → Lexer → List Token × Option SyntaxError
  | 0, _ => ([], none)
  | fuel + 1, lexer =>
      match settle (fuel + 1) lexer with
      | .error fault => ([], some fault)
      | .ok lexer =>
          match lexer.queue with
          | [] => ([], none)
          | token :: queue =>
              if token.kind = .streamEnd then ([token], none)
              else
                let (tokens, fault) := tokensFrom fuel { lexer with queue, taken := lexer.taken + 1 }
                (token :: tokens, fault)

end Lexer

/-- The number of bytes that are taken from a text at a time. -/
def blockSize : Nat := 16384

/--
The first character that no document may hold: the byte offset of the block in which it is taken, and
its own.  A block ends in front of a character that does not fit into it.
-/
def forbidden? : List Char → (block offset : Nat) → Option (Nat × Nat)
  | [], _, _ => none
  | c :: rest, block, offset =>
      let after := offset + c.utf8Size
      let block := if block + blockSize < after then offset else block
      if isAllowed c then forbidden? rest block after else some (block, offset)

def beforeOffset (offset : Nat) : List Char → List Char
  | [] => []
  | c :: rest =>
      if c.utf8Size ≤ offset then c :: beforeOffset (offset - c.utf8Size) rest else []

namespace Lexer

/--
The tokens of a text before its first fault, and that fault.  A token stands for a character, for
the beginning or the end of a block, or for a key whose colon is a character, so five for each
character are enough.
-/
def tokensOf (text : List Char) : List Token × Option SyntaxError :=
  tokensFrom (5 * (text.length + 2)) (ofText text)

end Lexer

/--
The tokens of a text before its first fault, and that fault.  A forbidden character is met as soon as
its block is needed, so only the blocks before it can hold another fault.
-/
def tokens (text : List Char) : List Token × Option SyntaxError :=
  match forbidden? text 0 0 with
  | none => Lexer.tokensOf text
  | some (block, offset) =>
      let (tokens, fault) := Lexer.tokensOf (beforeOffset block text)
      let isBefore (mark : Mark) := decide (mark.index < block)
      match fault.filter (isBefore ·.mark) with
      | some fault => (tokens, some fault)
      | none => (tokens.takeWhile (isBefore ·.stop), some (.forbidden offset))

end TaggedConfig.Yaml
