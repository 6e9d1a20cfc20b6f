import TaggedConfig.Yaml.Tree

/-!
# From a text to a node

Reading follows aliases, types scalars, keeps local tags and refuses repeated keys.  Collections may
be nested 128 deep, which also stops a node that contains itself, and aliases may be followed a
hundred times for each event of the document.

An error inside the part of a document before its first syntax error comes first, since it is met
first; a second document, whatever its form, is refused as such.
-/

namespace TaggedConfig.Yaml

/-- A step from a node to one inside it. -/
inductive PathStep where
  | index (position : Nat)
  | key (text : String)
  /-- Below a key that is no scalar. -/
  | unknown
  /-- From an alias to the node that it stands for. -/
  | alias
  deriving DecidableEq, Repr

/-- The text of a path whose innermost step comes first; the whole document is a full stop. -/
def describePath : List PathStep → String
  | [] => "."
  | .alias :: outer => describePath outer
  | .index position :: outer => describePath outer ++ "[" ++ toString position ++ "]"
  | .key text :: outer => inside outer ++ text
  | .unknown :: outer => inside outer ++ "?"
where
  /-- What stands before a key: nothing for the whole document, unless an alias stands for it. -/
  inside : List PathStep → String
    | [] => ""
    | step :: outer => describePath (step :: outer) ++ "."

/-- Why a text is no document. -/
inductive ReadError where
  | malformed (fault : SyntaxError)
  | unknownAnchor (mark : Mark)
  | exhausted
  | nestedTooDeep (mark : Mark)
  | tooManyAliases
  | severalDocuments
  | content (issue : ContentIssue) (path : List PathStep) (mark : Mark)
  deriving Repr

namespace ReadError

def ofBreak : Tree.Break → ReadError
  | .malformed fault => .malformed fault
  | .unknownAnchor mark => .unknownAnchor mark
  | .exhausted => .exhausted

def mark? : ReadError → Option Mark
  | .malformed fault => some fault.mark
  | .unknownAnchor mark | .nestedTooDeep mark | .content _ _ mark => some mark
  | .exhausted | .tooManyAliases | .severalDocuments => none

def atMark (mark : Mark) : String := if mark.isOrigin then "" else " at " ++ mark.describe

/-- A path in front of a message, unless it reads like that of the whole document. -/
def pathBefore (path : List PathStep) : String :=
  if describePath path == "." then "" else describePath path ++ ": "

def message : ReadError → String
  | .malformed fault => fault.message
  | .unknownAnchor mark => "unknown anchor" ++ atMark mark
  | .exhausted => "EOF while parsing a value"
  | .nestedTooDeep mark => "recursion limit exceeded" ++ atMark mark
  | .tooManyAliases => "repetition limit exceeded"
  | .severalDocuments =>
      "deserializing from YAML containing more than one document is not supported"
  | .content issue path mark => pathBefore path ++ issue.describe ++ atMark mark

end ReadError

namespace Tree

/-- How deep collections may be nested. -/
def depthLimit : Nat := 128

def aliasesPerEvent : Nat := 100

/-- What is known about the whole document while a part of it is read. -/
structure Surroundings where
  /-- The nodes with an anchor, by their number. -/
  anchored : List (Option Tree)
  aliasLimit : Nat
  /-- The error that is met where the document breaks off. -/
  ending : ReadError

abbrev Reader (α : Type) := StateT Nat (Except ReadError) α

/-- The tree that an alias leads to; other trees lead to themselves. -/
def follow (document : Surroundings) : Tree → Reader Tree
  | .alias anchor => do
      let followed := (← get) + 1
      set followed
      if document.aliasLimit < followed then throw .tooManyAliases
      match document.anchored[anchor]?.join with
      | some tree => return tree
      | none => throw document.ending
  | tree => return tree

def stepOfKey : Tree → PathStep
  | .scalar _ _ text _ _ => .key text
  | _ => .unknown

def readItems (document : Surroundings) (readItem : Nat → Tree → Reader Node) (closed : Bool) :
    Nat → List Tree → Reader (List Node)
  | _, [] => if closed then return [] else throw document.ending
  | position, tree :: rest => do
      let item ← readItem position tree
      let items ← readItems document readItem closed (position + 1) rest
      return item :: items

def readEntries (document : Surroundings) (readKey : Tree → Reader Node)
    (readValue : PathStep → Tree → Reader Node) (duplicate : Node → ReadError) (closed : Bool) :
    List (Node × Node) → List Tree → Reader (List (Node × Node))
  | done, [] => if closed then return done.reverse else throw document.ending
  | done, keyTree :: rest => do
      let key ← readKey keyTree
      match done.find? (fun entry => entry.1.same key) with
      | some entry => throw (duplicate entry.1)
      | none =>
          match rest with
          | [] => throw document.ending
          | valueTree :: rest => do
              let value ← readValue (stepOfKey keyTree) valueTree
              readEntries document readKey readValue duplicate closed ((key, value) :: done) rest

def wrapTag (tag : NodeTag) (content : Node) : Node :=
  match tag with
  | .named name => .tagged name content
  | _ => content

def readScalar (tag : NodeTag) (text : String) (style : ScalarStyle) : Except ContentIssue Node :=
  match tag with
  | .absent | .nameless => Scalar.untagged text style
  | .named name => (Scalar.untagged text style).map (.tagged name)
  | .standard type => Scalar.typed type text
  | .foreign => .ok (.string text)

def pathOf (path : List PathStep) : Tree → List PathStep
  | .alias _ => .alias :: path
  | _ => path

/-- Read a node at a path below which `depth` more collections may be nested. -/
def read (document : Surroundings) : (depth : Nat) → List PathStep → Tree → Reader Node
  | depth, outer, tree => do
      let path := pathOf outer tree
      match ← follow document tree with
      | .alias _ => throw document.ending
      | .scalar _ tag text style mark =>
          match readScalar tag text style with
          | .ok node => return node
          | .error issue => throw (.content issue path mark)
      | .sequence _ tag items closed mark =>
          match depth with
          | 0 => throw (.nestedTooDeep mark)
          | depth + 1 => do
              let readItem (position : Nat) (item : Tree) :=
                read document depth (.index position :: path) item
              let items ← readItems document readItem closed 0 items
              return wrapTag tag (.sequence items)
      | .mapping _ tag children closed mark =>
          match depth with
          | 0 => throw (.nestedTooDeep mark)
          | depth + 1 => do
              let readKey (key : Tree) := read document depth path key
              let readValue (step : PathStep) (value : Tree) :=
                read document depth (step :: path) value
              let duplicate (key : Node) : ReadError := .content (.duplicateKey key) path mark
              let entries ← readEntries document readKey readValue duplicate closed [] children
              return wrapTag tag (.mapping entries)

end Tree

namespace Node

/-- The node of the only document of a text; a text without one stands for null. -/
def parse (text : List Char) : Except ReadError Node :=
  let (events, fault) := events text
  let written := Tree.build fault events .empty
  match written.root, written.ending with
  | none, none => .ok .null
  | none, some ending => .error (.ofBreak ending)
  | some root, ending => do
      let document : Tree.Surroundings :=
        { anchored := (List.range written.anchors).map (Tree.find? · root)
          aliasLimit := Tree.aliasesPerEvent * written.size
          ending := .ofBreak (ending.getD .exhausted) }
      let (node, _) ← (root.read document Tree.depthLimit []).run 0
      match ending with
      | some ending => throw (.ofBreak ending)
      | none =>
          match written.rest with
          | [⟨.streamEnd, _⟩] => return node
          | _ => throw .severalDocuments

end Node

end TaggedConfig.Yaml
