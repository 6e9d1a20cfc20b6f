import TaggedConfig.Yaml.Character

/-!
# White space between two pieces of a flowing scalar

Between two words of a plain or quoted scalar, blanks on one line are kept as they are.  Once a
line break occurs, blanks no longer count, a single break folds to a space, and of several breaks
the first is dropped.
-/

namespace TaggedConfig.Yaml

/-- White space seen since the last word of a scalar; lists are in reverse order of reading. -/
structure Folding where
  blanks : List Char
  broken : Bool
  firstBreak : Option Char
  moreBreaks : List Char
  deriving Inhabited

namespace Folding

def empty : Folding := ⟨[], false, none, []⟩

def escapedBreak : Folding := ⟨[], true, none, []⟩

def isPending (pending : Folding) : Bool := pending.broken || !pending.blanks.isEmpty

def addBlank (pending : Folding) (c : Char) : Folding :=
  if pending.broken then pending else { pending with blanks := c :: pending.blanks }

def addBreak (pending : Folding) (c : Char) : Folding :=
  if pending.broken then { pending with moreBreaks := breakText c :: pending.moreBreaks }
  else ⟨[], true, some (breakText c), []⟩

/-- What the white space contributes to the scalar, in reverse. -/
def reversedText (pending : Folding) : List Char :=
  if pending.broken then
    match pending.firstBreak with
    | some '\n' => if pending.moreBreaks.isEmpty then [' '] else pending.moreBreaks
    | some c => pending.moreBreaks ++ [c]
    | none => pending.moreBreaks
  else pending.blanks

end Folding

end TaggedConfig.Yaml
