import TaggedConfig.Text.Cut

/-!
# Paths

Paths are texts with slashes.  Joining keeps the text as it was given; the normal form of a path has
no empty component, no full stop, and two full stops only at the beginning of a relative path.  It is
taken from the text alone: no link is followed, and the parent of the root is the root.
-/

namespace TaggedConfig

/-- A path as it was written. -/
structure Path where
  text : String
  deriving DecidableEq, Inhabited, Repr

namespace Path

def segments (path : Path) : List String := Text.pieces '/' path.text

/-- Pieces with slashes between them. -/
def ofSegments (segments : List String) : Path := ⟨"/".intercalate segments⟩

def isAbsolute (path : Path) : Bool := path.text.toList.head? == some '/'

/-- Go on from a path by another one, which starts over if it is absolute. -/
def join (path later : Path) : Path :=
  if later.isAbsolute || path.text.isEmpty then later
  else if path.text.toList.getLast? == some '/' then ⟨path.text ++ later.text⟩
  else ⟨path.text ++ "/" ++ later.text⟩

/-- A path without detours: steps towards the root, then names. -/
structure Normal where
  isAbsolute : Bool
  /-- Steps from the starting directory towards the root; an absolute path has none. -/
  ascents : Nat
  names : List String
  deriving DecidableEq, Repr

namespace Normal

def up (normal : Normal) : Normal :=
  if normal.names.isEmpty then
    if normal.isAbsolute then normal else { normal with ascents := normal.ascents + 1 }
  else { normal with names := normal.names.dropLast }

def step (normal : Normal) (segment : String) : Normal :=
  if segment = "" ∨ segment = "." then normal
  else if segment = ".." then normal.up
  else { normal with names := normal.names ++ [segment] }

/-- The text of a normal form; the directory where one is has the name of one full stop. -/
def toPath (normal : Normal) : Path :=
  let pieces := List.replicate normal.ascents ".." ++ normal.names
  if normal.isAbsolute then ⟨"/" ++ (ofSegments pieces).text⟩
  else if pieces.isEmpty then ⟨"."⟩
  else ofSegments pieces

end Normal

def normal (path : Path) : Normal := path.segments.foldl Normal.step ⟨path.isAbsolute, 0, []⟩

/-- The path in its normal form. -/
def normalize (path : Path) : Path := path.normal.toPath

/-- The normal form of a path that is seen from a directory. -/
def absolutize (directory path : Path) : Path := (directory.join path).normalize

def isIdle (segment : String) : Bool := segment == "" || segment == "."

def withoutIdleEnd (segments : List String) : List String :=
  (segments.reverse.dropWhile isIdle).reverse

/--
The path without its last component, and without what is idle before it.  The root and the empty path
have no parent, and a full stop at the very beginning counts as a component.
-/
def parent? (path : Path) : Option Path :=
  match path.segments with
  | "" :: rest =>
      match withoutIdleEnd rest with
      | [] => none
      | names => some ⟨"/" ++ (ofSegments (withoutIdleEnd names.dropLast)).text⟩
  | "." :: rest =>
      match withoutIdleEnd rest with
      | [] => some ⟨""⟩
      | names => some (ofSegments ("." :: withoutIdleEnd names.dropLast))
  | segments =>
      match withoutIdleEnd segments with
      | [] => none
      | names => some (ofSegments (withoutIdleEnd names.dropLast))

/-- What follows a tilde and a slash at the beginning of a text. -/
def belowHome? (text : String) : Option Path :=
  match text.toList with
  | '~' :: '/' :: rest => some ⟨String.ofList rest⟩
  | _ => none

/-- A path below the home directory for a text that begins with a tilde and a slash. -/
def expandHome? (home : Path) (text : String) : Option Path := (belowHome? text).map home.join

end Path

end TaggedConfig
