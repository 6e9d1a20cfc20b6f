import TaggedConfig.Yaml.Character
import TaggedConfig.Yaml.SyntaxError

/-!
# Literal and folded scalars

A header may fix the indentation and says what becomes of the line breaks at the end.  The lines of
the content stand exactly at the indentation; a folded scalar joins neighbouring lines with a space
unless one of them begins with a blank.
-/

namespace TaggedConfig.Yaml.Block

/-- What becomes of the line breaks after the last line. -/
inductive Chomping where
  | strip
  | clip
  | keep
  deriving DecidableEq, Repr

/-- The text of a block scalar and the place behind it. -/
structure Scalar where
  text : List Char
  after : Cursor

/-- What the header says: chomping, and the indentation beyond that of the parent, zero if open. -/
structure Header where
  chomping : Chomping
  increment : Nat

def chomping? : Char → Option Chomping
  | '+' => some .keep
  | '-' => some .strip
  | _ => none

def increment (began : Mark) (cursor : Cursor) : Except SyntaxError (Nat × Cursor) :=
  match cursor.rest with
  | '0' :: _ => .error (.within .blockScalar began .zeroIndentation cursor.mark)
  | c :: _ => if c.isDigit then .ok (c.toNat - '0'.toNat, cursor.skip) else .ok (0, cursor)
  | [] => .ok (0, cursor)

/-- The two indicators of a header in either order. -/
def header (began : Mark) (cursor : Cursor) : Except SyntaxError (Header × Cursor) :=
  match cursor.rest.head?.bind chomping? with
  | some chomping => do
      let (increment, cursor) ← increment began cursor.skip
      return (⟨chomping, increment⟩, cursor)
  | none => do
      let (increment, cursor) ← increment began cursor
      if increment = 0 then return (⟨.clip, 0⟩, cursor)
      match cursor.rest.head?.bind chomping? with
      | some chomping => return (⟨chomping, increment⟩, cursor.skip)
      | none => return (⟨.clip, increment⟩, cursor)

def skipToLineEnd (cursor : Cursor) : Cursor :=
  let cursor := cursor.skipWhile isBlank
  if cursor.rest.head? == some '#' then cursor.skipWhile (fun c => !isBreak c) else cursor

def skipBreak (cursor : Cursor) : Cursor :=
  match cursor.rest with
  | '\r' :: '\n' :: rest => ⟨rest, cursor.mark.nextLine 2⟩
  | c :: rest => if isBreak c then ⟨rest, cursor.mark.nextLine c.utf8Size⟩ else cursor
  | [] => cursor

/-- The lines before the content: their breaks in reverse and the widest of their indentations. -/
structure Leading where
  breaks : List Char
  widest : Nat
  after : Cursor

/-- Read the empty lines before the content when its indentation is still open. -/
def leadingLines (began : Mark) :
    List Char → Mark → Nat → List Char → Except SyntaxError Leading
  | [], mark, widest, breaks => .ok ⟨breaks, max widest mark.column, ⟨[], mark⟩⟩
  | '\r' :: '\n' :: rest, mark, widest, breaks =>
      leadingLines began rest (mark.nextLine 2) (max widest mark.column) ('\n' :: breaks)
  | c :: rest, mark, widest, breaks =>
      if c == ' ' then leadingLines began rest (mark.next c) widest breaks
      else if c == '\t' then
        .error (.within .blockScalar began .tabForIndentation mark)
      else if isBreak c then
        leadingLines began rest (mark.nextLine c.utf8Size) (max widest mark.column)
          (breakText c :: breaks)
      else .ok ⟨breaks, max widest mark.column, ⟨c :: rest, mark⟩⟩

/-- The text so far, in reverse, and what is known about the end of the last line. -/
structure Progress where
  done : List Char
  /-- The break that ended the last line, unless the text did. -/
  lineBreak : Option Char
  /-- The breaks of empty lines after it, in reverse. -/
  emptyLines : List Char
  /-- The last line began with a blank. -/
  blankLine : Bool

def Progress.beginLine (progress : Progress) (folds blank : Bool) : Progress :=
  let folded := folds && progress.lineBreak == some '\n' && !progress.blankLine && !blank
  let done :=
    if folded then
      if progress.emptyLines.isEmpty then ' ' :: progress.done
      else progress.emptyLines ++ progress.done
    else progress.emptyLines ++ (progress.lineBreak.toList ++ progress.done)
  ⟨done, none, [], blank⟩

def Progress.finish (progress : Progress) (chomping : Chomping) : List Char :=
  let done := progress.done
  match chomping with
  | .strip => done.reverse
  | .clip => (progress.lineBreak.toList ++ done).reverse
  | .keep => (progress.emptyLines ++ (progress.lineBreak.toList ++ done)).reverse

def contentLines (folds : Bool) (indent : Nat) (began : Mark) (chomping : Chomping) :
    List Char → Mark → (inLine : Bool) → Progress → Except SyntaxError Scalar
  | [], mark, _, progress => .ok ⟨progress.finish chomping, ⟨[], mark⟩⟩
  | '\r' :: '\n' :: rest, mark, true, progress =>
      contentLines folds indent began chomping rest (mark.nextLine 2) false
        { progress with lineBreak := some '\n' }
  | '\r' :: '\n' :: rest, mark, false, progress =>
      contentLines folds indent began chomping rest (mark.nextLine 2) false
        { progress with emptyLines := '\n' :: progress.emptyLines }
  | c :: rest, mark, true, progress =>
      if isBreak c then
        contentLines folds indent began chomping rest (mark.nextLine c.utf8Size) false
          { progress with lineBreak := some (breakText c) }
      else
        contentLines folds indent began chomping rest (mark.next c) true
          { progress with done := c :: progress.done }
  | c :: rest, mark, false, progress =>
      if mark.column < indent && c == ' ' then
        contentLines folds indent began chomping rest (mark.next c) false progress
      else if mark.column < indent && c == '\t' then
        .error (.within .blockScalar began .tabForIndentation mark)
      else if isBreak c then
        contentLines folds indent began chomping rest (mark.nextLine c.utf8Size) false
          { progress with emptyLines := breakText c :: progress.emptyLines }
      else if mark.column == indent then
        let progress := progress.beginLine folds (isBlank c)
        contentLines folds indent began chomping rest (mark.next c) true
          { progress with done := c :: progress.done }
      else .ok ⟨progress.finish chomping, ⟨c :: rest, mark⟩⟩

/--
Read the block scalar whose indicator stands at the cursor, below a parent with indentation
`parent`, which is -1 at the top.
-/
def scan (folds : Bool) (parent : Int) (cursor : Cursor) : Except SyntaxError Scalar := do
  let began := cursor.mark
  let (header, cursor) ← header began cursor.skip
  let cursor := skipToLineEnd cursor
  if !startsWithBreak cursor.rest then
    throw (.within .blockScalar began .expectedCommentOrBreak cursor.mark)
  let cursor := skipBreak cursor
  if 0 < header.increment then
    contentLines folds (parent.toNat + header.increment) began header.chomping cursor.rest
      cursor.mark false ⟨[], none, [], false⟩
  else
    let leading ← leadingLines began cursor.rest cursor.mark 0 []
    let indent := max leading.widest (max (parent + 1).toNat 1)
    contentLines folds indent began header.chomping leading.after.rest leading.after.mark false
      ⟨[], none, leading.breaks, false⟩

end TaggedConfig.Yaml.Block
