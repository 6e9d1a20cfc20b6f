import TaggedConfig.Yaml.Folding
import TaggedConfig.Yaml.SyntaxError

/-!
# Plain scalars

A plain scalar runs until a colon with a gap after it, a comment, a document marker, a line that is
not indented enough, or, inside a flow collection, a flow indicator.
-/

namespace TaggedConfig.Yaml.Plain

/-- The text of a plain scalar, the place behind it, and whether a line break was passed. -/
structure Scalar where
  text : List Char
  after : Cursor
  broken : Bool

/--
The plain scalar does not go on with this word, which follows white space: the line is not indented
enough, a document marker stands at its beginning, or a comment starts.
-/
def endsBefore (inFlow : Bool) (indent : Nat) (mark : Mark) (text : List Char) : Bool :=
  (!inFlow && mark.column < indent)
    || (mark.column == 0 && startsWithDocumentMarker text)
    || text.head? == some '#'

/-- Inside a flow collection a colon may not stand directly before a flow indicator. -/
def isMisplacedColon (inFlow : Bool) : List Char → Bool
  | ':' :: c :: _ => inFlow && (isFlowIndicator c || c == '?')
  | _ => false

/-- The character that follows ends the scalar wherever it stands. -/
def isTerminator (inFlow : Bool) : List Char → Bool
  | [] => true
  | c :: rest => (c == ':' && startsWithGap rest) || (inFlow && isFlowIndicator c)

/-- Read on, with the white space since the last word and the reversed text up to it. -/
def scanFrom (inFlow : Bool) (indent : Nat) (began : Mark) :
    List Char → Mark → Folding → List Char → Except SyntaxError Scalar
  | [], mark, pending, done => .ok ⟨done.reverse, ⟨[], mark⟩, pending.broken⟩
  | '\r' :: '\n' :: rest, mark, pending, done =>
      scanFrom inFlow indent began rest (mark.nextLine 2) (pending.addBreak '\n') done
  | c :: rest, mark, pending, done =>
      if isBlank c then
        if pending.broken && mark.column < indent && c == '\t' then
          .error (.within .plainScalar began .tabAgainstIndentation mark)
        else scanFrom inFlow indent began rest (mark.next c) (pending.addBlank c) done
      else if isBreak c then
        scanFrom inFlow indent began rest (mark.nextLine c.utf8Size) (pending.addBreak c) done
      else if pending.isPending && endsBefore inFlow indent mark (c :: rest) then
        .ok ⟨done.reverse, ⟨c :: rest, mark⟩, pending.broken⟩
      else if isMisplacedColon inFlow (c :: rest) then
        .error (.within .plainScalar began .unexpectedColon mark)
      else if isTerminator inFlow (c :: rest) then
        .ok ⟨done.reverse, ⟨c :: rest, mark⟩, pending.broken⟩
      else
        scanFrom inFlow indent began rest (mark.next c) .empty (c :: (pending.reversedText ++ done))

def scan (inFlow : Bool) (indent : Nat) (cursor : Cursor) : Except SyntaxError Scalar :=
  scanFrom inFlow indent cursor.mark cursor.rest cursor.mark .empty []

end TaggedConfig.Yaml.Plain
