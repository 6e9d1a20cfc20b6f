import TaggedConfig.Yaml.Event.Grammar
import TaggedConfig.Yaml.Scalar

/-!
# The nodes of a document as they are written

A tree keeps what a node loses: aliases, the style of scalars, tags of every kind, and places.  A
document that breaks off leaves open collections in its tree; nothing can be read behind the place
where it breaks off.

An anchor is known by a number, the count of different names that were anchored before it.  A name
that is anchored again keeps this count down, so two anchors can have one number; an alias then
leads to the later of them.
-/

namespace TaggedConfig.Yaml

inductive NodeTag where
  | absent
  /-- A local tag, kept without its exclamation mark. -/
  | named (name : String)
  /-- A standard tag of a scalar type. -/
  | standard (type : ScalarType)
  /-- A local tag whose octets are no text. -/
  | nameless
  /-- Any other tag. -/
  | foreign
  deriving DecidableEq, Repr

namespace NodeTag

/-- A second exclamation mark at the beginning of a name is dropped, unless it is all there is. -/
def trimmedName (name : List Char) : List Char :=
  match name with
  | '!' :: c :: rest => c :: rest
  | _ => name

def ofText (text : String) : NodeTag :=
  match text.toList with
  | ['!'] => .named "!"
  | '!' :: name => .named (String.ofList (trimmedName name))
  | _ =>
      if text = "tag:yaml.org,2002:bool" then .standard .bool
      else if text = "tag:yaml.org,2002:int" then .standard .int
      else if text = "tag:yaml.org,2002:float" then .standard .float
      else if text = "tag:yaml.org,2002:null" then .standard .null
      else .foreign

def ofOctets : Option (List UInt8) → NodeTag
  | none => .absent
  | some octets =>
      match String.fromUTF8? ⟨octets.toArray⟩ with
      | some text => ofText text
      | none => if octets.head? == some 0x21 then .nameless else .foreign

end NodeTag

/-- A node as it is written. -/
inductive Tree where
  | alias (anchor : Nat)
  | scalar (anchor : Option Nat) (tag : NodeTag) (text : String) (style : ScalarStyle) (mark : Mark)
  | sequence (anchor : Option Nat) (tag : NodeTag) (items : List Tree) (closed : Bool) (mark : Mark)
  /-- Keys and values follow each other; the document may break off behind a key. -/
  | mapping (anchor : Option Nat) (tag : NodeTag) (children : List Tree) (closed : Bool)
      (mark : Mark)
  deriving Inhabited, Repr

namespace Tree

mutual

def find? (anchor : Nat) : Tree → Option Tree
  | .alias _ => none
  | tree@(.scalar own _ _ _ _) => if own = some anchor then some tree else none
  | tree@(.sequence own _ items _ _) =>
      findIn? anchor items <|> if own = some anchor then some tree else none
  | tree@(.mapping own _ children _ _) =>
      findIn? anchor children <|> if own = some anchor then some tree else none

/-- The last node in document order with an anchor, in a list of trees. -/
def findIn? (anchor : Nat) : List Tree → Option Tree
  | [] => none
  | tree :: rest => findIn? anchor rest <|> find? anchor tree

end

/-- A collection that has begun, with its children so far in reverse. -/
structure Open where
  isMapping : Bool
  anchor : Option Nat
  tag : NodeTag
  mark : Mark
  children : List Tree

def Open.close (collection : Open) (closed : Bool) : Tree :=
  let children := collection.children.reverse
  if collection.isMapping then
    .mapping collection.anchor collection.tag children closed collection.mark
  else .sequence collection.anchor collection.tag children closed collection.mark

/-- The state of building a tree from events. -/
structure Building where
  /-- The open collections, the innermost first. -/
  stack : List Open
  root : Option Tree
  /-- The names of anchors and their numbers. -/
  anchors : List (List Char × Nat)
  /-- The number of events of nodes so far. -/
  size : Nat

namespace Building

def empty : Building := ⟨[], none, [], 0⟩

def add (building : Building) (tree : Tree) : Building :=
  match building.stack with
  | [] => { building with root := some tree }
  | top :: rest =>
      { building with stack := { top with children := tree :: top.children } :: rest }

def anchor (building : Building) : Option (List Char) → Option Nat × Building
  | none => (none, building)
  | some name =>
      let number := building.anchors.length
      let others := building.anchors.filter (fun entry => entry.1 != name)
      (some number, { building with anchors := (name, number) :: others })

def count (building : Building) : Building := { building with size := building.size + 1 }

def begin (building : Building) (isMapping : Bool) (properties : Properties) (mark : Mark) :
    Building :=
  let (anchor, building) := building.anchor properties.anchor
  let collection : Open := ⟨isMapping, anchor, .ofOctets properties.tag, mark, []⟩
  { building with stack := collection :: building.stack }

def finish (building : Building) (closed : Bool) : Building :=
  match building.stack with
  | [] => building
  | top :: rest => ({ building with stack := rest } : Building).add (top.close closed)

/-- Close all collections that the document leaves open. -/
def breakOff (building : Building) : Building :=
  building.stack.foldl (fun building _ => building.finish false) building

end Building

/-- Why a document ends before its end. -/
inductive Break where
  | malformed (fault : SyntaxError)
  | unknownAnchor (mark : Mark)
  /-- There is nothing left to read. -/
  | exhausted
  deriving Repr

structure Written where
  /-- The root; a document without any node has none. -/
  root : Option Tree
  /-- The number of events of its nodes. -/
  size : Nat
  /-- The numbers of its anchors are below this. -/
  anchors : Nat
  /-- Why it breaks off, if it does. -/
  ending : Option Break
  /-- What follows in the text. -/
  rest : List PlacedEvent

def Building.written (building : Building) (ending : Option Break) (rest : List PlacedEvent) :
    Written :=
  let building := building.breakOff
  ⟨building.root, building.size, building.anchors.length, ending, rest⟩

/-- Build the tree of the first document among events. -/
def build (fault : Option SyntaxError) : List PlacedEvent → Building → Written
  | [], building =>
      let ending := match fault with
        | some fault => .malformed fault
        | none => .exhausted
      building.written (some ending) []
  | ⟨event, mark⟩ :: rest, building =>
      match event with
      | .documentStart => build fault rest building
      | .documentEnd => building.written none rest
      | .streamEnd => building.written none []
      | .alias name =>
          match building.anchors.find? (fun entry => entry.1 == name) with
          | some (_, number) => build fault rest (building.count.add (.alias number))
          | none => building.written (some (.unknownAnchor mark)) rest
      | .scalar properties text style =>
          let (anchor, building) := building.count.anchor properties.anchor
          build fault rest (building.add
            (.scalar anchor (.ofOctets properties.tag) (String.ofList text) style mark))
      | .sequenceStart properties =>
          build fault rest (building.count.begin false properties mark)
      | .mappingStart properties =>
          build fault rest (building.count.begin true properties mark)
      | .sequenceEnd | .mappingEnd => build fault rest (building.count.finish true)

end Tree

end TaggedConfig.Yaml
