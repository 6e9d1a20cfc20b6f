import Mathlib
import TaggedConfig.Proofs.Yaml.TokenQueue
import TaggedConfig.Yaml.Writing

/-!
# Places behind a text

The place behind a text that has been read: its column depends on the last line only, and it is on the
same line only if the text has no line break.
-/

namespace TaggedConfig.Yaml.Mark

variable {mark : Mark} {c : Char} {text first second : List Char}

def past (mark : Mark) (text : List Char) : Mark :=
  text.foldl (fun mark c => if isBreak c then mark.nextLine c.utf8Size else mark.next c) mark

@[simp] theorem past_nil (mark : Mark) : mark.past [] = mark := rfl

theorem past_cons_break (break' : isBreak c = true) :
    mark.past (c :: text) = (mark.nextLine c.utf8Size).past text := by
  unfold past
  rw [List.foldl_cons, if_pos break']

theorem past_cons (noBreak : isBreak c = false) :
    mark.past (c :: text) = (mark.next c).past text := by
  unfold past
  rw [List.foldl_cons, noBreak, if_neg Bool.false_ne_true]

theorem past_append (mark : Mark) (first second : List Char) :
    mark.past (first ++ second) = (mark.past first).past second := List.foldl_append

theorem past_isBehind (mark : Mark) (text : List Char) : (mark.past text).IsBehind mark := by
  induction text generalizing mark with
  | nil => exact .refl mark
  | cons c rest ih =>
      cases isBreak' : isBreak c with
      | true =>
          rw [past_cons_break isBreak']
          exact (ih _).trans (nextLine_isBehind _ _)
      | false =>
          rw [past_cons isBreak']
          exact (ih _).trans (next_isBehind _ _)

def bytes (text : List Char) : Nat := (text.map Char.utf8Size).sum

/-- Text without line breaks moves along its line. -/
theorem past_unbroken (unbroken : ∀ c ∈ text, isBreak c = false) :
    mark.past text = ⟨mark.index + bytes text, mark.line, mark.column + text.length⟩ := by
  induction text generalizing mark with
  | nil => rfl
  | cons c rest ih =>
      obtain ⟨here, later⟩ := List.forall_mem_cons.mp unbroken
      rw [past_cons here, ih later]
      unfold next bytes
      simp only [List.map_cons, List.sum_cons, List.length_cons, mk.injEq, true_and]
      omega

theorem isBreak_of_mem_indentation {indent : Nat} {c : Char}
    (found : c ∈ Writing.indentation indent) : isBreak c = false := by
  rw [List.eq_of_mem_replicate found]
  rfl

theorem column_past_indentation (mark : Mark) (indent : Nat) :
    (mark.past (Writing.indentation indent)).column = mark.column + indent := by
  rw [past_unbroken fun _ => isBreak_of_mem_indentation]
  unfold Writing.indentation
  rw [List.length_replicate]

theorem column_past_line (mark : Mark) (text : List Char) (broken : isBreak c = true)
    (indent : Nat) : (mark.past (text ++ c :: Writing.indentation indent)).column = indent := by
  rw [past_append, past_cons_break broken, column_past_indentation]
  exact Nat.zero_add indent

/-- A text with a line break ends on a later line. -/
theorem line_lt_past (mark : Mark) (first : List Char) (broken : isBreak c = true)
    (second : List Char) : mark.line < (mark.past (first ++ c :: second)).line := by
  have before := (mark.past_isBehind first).1
  have behind := (((mark.past first).nextLine c.utf8Size).past_isBehind second).1
  rw [past_append, past_cons_break broken]
  exact Nat.lt_of_le_of_lt before (Nat.lt_of_succ_le behind)

end TaggedConfig.Yaml.Mark

namespace TaggedConfig.Yaml

/-- A token or the end stands at the beginning of a text: no gap, comment or byte order mark. -/
def StartsToken (text : List Char) : Prop :=
  ∀ c ∈ text.head?, isBlank c = false ∧ isBreak c = false ∧ c ≠ '#' ∧ c ≠ '\ufeff'

end TaggedConfig.Yaml
