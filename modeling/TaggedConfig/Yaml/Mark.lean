/-!
# Places in a text

A mark counts bytes, lines and columns from zero; a column is a character, however many bytes it
has.  A cursor is a place together with the characters that have not been read yet.  Every line
break counts as one line, a carriage return followed by a line feed included.
-/

namespace TaggedConfig.Yaml

/-- A place in a text: bytes read, line breaks read, and characters since the last break. -/
structure Mark where
  index : Nat
  line : Nat
  column : Nat
  deriving DecidableEq, Repr, Inhabited

namespace Mark

def start : Mark := ⟨0, 0, 0⟩

def next (mark : Mark) (c : Char) : Mark :=
  { mark with index := mark.index + c.utf8Size, column := mark.column + 1 }

def afterText (mark : Mark) (text : List Char) : Mark := text.foldl next mark

def advance (mark : Mark) (count : Nat) : Mark :=
  { mark with index := mark.index + count, column := mark.column + count }

def nextLine (mark : Mark) (width : Nat) : Mark :=
  ⟨mark.index + width, mark.line + 1, 0⟩

/-- The very first place has line and column zero, and is left out of most messages. -/
def isOrigin (mark : Mark) : Bool := mark.line == 0 && mark.column == 0

def samePlace (first second : Mark) : Bool :=
  first.line == second.line && first.column == second.column

/-- Lines and columns are counted from one when they are shown. -/
def describe (mark : Mark) : String :=
  "line " ++ toString (mark.line + 1) ++ " column " ++ toString (mark.column + 1)

end Mark

/-- The unread characters and the place of the first of them. -/
structure Cursor where
  rest : List Char
  mark : Mark
  deriving Inhabited

namespace Cursor

def ofText (text : List Char) : Cursor := ⟨text, .start⟩

def skip (cursor : Cursor) : Cursor :=
  match cursor.rest with
  | [] => cursor
  | c :: rest => ⟨rest, cursor.mark.next c⟩

def skipMany (cursor : Cursor) (count : Nat) : Cursor :=
  ⟨cursor.rest.drop count, cursor.mark.advance count⟩

/-- The longest run of characters with `wanted`, none of which may be a line break. -/
def span (cursor : Cursor) (wanted : Char → Bool) : List Char × Cursor :=
  let taken := cursor.rest.takeWhile wanted
  (taken, ⟨cursor.rest.dropWhile wanted, cursor.mark.afterText taken⟩)

/-- Step over the longest run of characters with `wanted`. -/
def skipWhile (cursor : Cursor) (wanted : Char → Bool) : Cursor := (cursor.span wanted).2

end Cursor

end TaggedConfig.Yaml
