import TaggedConfig.Tag.Argument

/-!
# Paths from elements

The elements of a path are strings that are joined with slashes; an absolute one starts over.  An
absolute path is the normal form of a path that is seen from the directory of its document.  If that is
not absolute, the system is asked for the working directory, which it may fail to tell.
-/

namespace TaggedConfig

namespace Tag

def pathElement (tag : Tag) : Value → Except Cause Path
  | .string text => .ok ⟨text⟩
  | other => .error (tag.mismatch (.noPathElement other))

def joinElements (tag : Tag) (input : Value) : Except Cause Path := do
  let items ← tag.sequenceItems input
  if items.isEmpty then throw (tag.mismatch .noPathElements)
  return (← items.mapM tag.pathElement).foldl Path.join ⟨""⟩

end Tag

namespace Path

/-- The normal form of a path from the root; only a relative path needs the working directory. -/
def rooted (workingDirectory : Except ReadFailure Path) (path : Path) : Except ReadFailure Path :=
  if path.isAbsolute then .ok path.normalize
  else return absolutize (← workingDirectory) path

/-- The normal form of a path that is seen from a directory below a working directory. -/
def absoluteIn (workingDirectory : Except ReadFailure Path) (directory path : Path) :
    Except ReadFailure Path :=
  rooted workingDirectory (directory.join path)

def expandHome (home : Option Path) (text : String) : Except ReadFailure (Option Path) :=
  match belowHome? text, home with
  | none, _ => .ok none
  | some rest, some home => .ok (some (home.join rest))
  | some _, none => .error .noHome

/-- The file that a text names: below the home directory or seen from a directory. -/
def ofIncludeText (workingDirectory : Except ReadFailure Path) (home : Option Path)
    (directory : Path) (text : String) : Except ReadFailure Path := do
  let expanded ← expandHome home text
  absoluteIn workingDirectory directory (expanded.getD ⟨text⟩)

end Path

namespace Value

def pathJoin (input : Value) : Except Cause Value := do
  return .string (← Tag.pathJoin.joinElements input).text

def ofPathIn (workingDirectory : Except ReadFailure Path) (directory path : Path) :
    Except Cause Value :=
  match Path.absoluteIn workingDirectory directory path with
  | .ok absolute => .ok (.string absolute.text)
  | .error failure => .error (.unreadableFile (directory.join path) failure)

def absPath (workingDirectory : Except ReadFailure Path) (directory : Path) (input : Value) :
    Except Cause Value := do
  let text ← Tag.absPath.scalarText input
  ofPathIn workingDirectory directory ⟨text⟩

def absPathJoin (workingDirectory : Except ReadFailure Path) (directory : Path) (input : Value) :
    Except Cause Value := do
  let path ← Tag.absPathJoin.joinElements input
  ofPathIn workingDirectory directory path

end Value

end TaggedConfig
