import TaggedConfig.Entries
import TaggedConfig.File.Failure
import TaggedConfig.Path

/-!
# Files and directories

A tree of named files and directories.  Paths are walked name by name, so that every name before the
last one has to be a directory, also one that is left again by two full stops.
-/

namespace TaggedConfig

inductive FileTree where
  | file (content : ByteArray)
  | directory (entries : List (String × FileTree))
  deriving Inhabited

namespace FileTree

def empty : FileTree := .directory []

/-- Make every directory on the way to a name, and change what the name stands for. -/
def alter (change : FileTree → FileTree) : FileTree → (names : List String) → FileTree
  | tree, [] => change tree
  | tree, name :: rest =>
      let entries : Entries FileTree :=
        match tree with
        | .directory entries => entries
        | .file _ => []
      .directory (entries.put name (alter change ((entries.get? name).getD empty) rest))

def writeFile (tree : FileTree) (path : Path) (content : ByteArray) : FileTree :=
  alter (fun _ => .file content) tree path.normal.names

/-- Make a directory at an absolute path, unless there is something already. -/
def makeDirectory (tree : FileTree) (path : Path) : FileTree := alter id tree path.normal.names

def longestName : Nat := 255

def longestPath : Nat := 4095

/-- Where a walk has come to, with the directories above it from the inside out. -/
structure Place where
  here : FileTree
  above : List FileTree

namespace Place

def up (place : Place) : Place :=
  match place.above with
  | [] => place
  | parent :: above => ⟨parent, above⟩

def step (place : Place) (segment : String) : Except ReadFailure Place :=
  match place.here with
  | .file _ => throw .notDirectory
  | .directory entries =>
      if segment = "" ∨ segment = "." then return place
      else if segment = ".." then return place.up
      else if longestName < segment.utf8ByteSize then throw .nameTooLong
      else
        match Entries.get? entries segment with
        | some tree => return ⟨tree, place.here :: place.above⟩
        | none => throw .missing

end Place

/-- The bytes of the file at a path that is seen from a directory. -/
def read (tree : FileTree) (directory path : Path) : Except ReadFailure ByteArray := do
  if path.text.contains '\x00' then throw .nulInPath
  if path.text.isEmpty then throw .missing
  if longestPath < path.text.utf8ByteSize then throw .nameTooLong
  let place ← (directory.join path).segments.foldlM Place.step ⟨tree, []⟩
  match place.here with
  | .file content => return content
  | .directory _ => throw .isDirectory

def readText (tree : FileTree) (directory path : Path) : Except ReadFailure String := do
  match String.fromUTF8? (← tree.read directory path) with
  | some text => return text
  | none => throw .notText

end FileTree

end TaggedConfig
