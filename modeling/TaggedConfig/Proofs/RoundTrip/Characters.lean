import Mathlib
import TaggedConfig.Proofs.RoundTrip.Marks

/-!
# Characters that are written

Escapes, digits and quotes consist of visible characters of one byte; every printable character is one
that a document may hold.
-/

namespace TaggedConfig.Yaml

open Writing

def IsAscii (c : Char) : Prop := ' ' ≤ c ∧ c ≤ '~'

namespace IsAscii

variable {c : Char}

instance (c : Char) : Decidable (IsAscii c) := inferInstanceAs (Decidable (' ' ≤ c ∧ c ≤ '~'))

theorem isPrintable (ascii : IsAscii c) : isPrintable c = true := by
  unfold Writing.isPrintable
  rw [decide_eq_true ascii.1, decide_eq_true ascii.2]
  simp

theorem isBreak (ascii : IsAscii c) : isBreak c = false := by
  obtain ⟨least, greatest⟩ := ascii
  cases broken : Yaml.isBreak c with
  | false => rfl
  | true =>
      unfold Yaml.isBreak at broken
      simp only [Bool.or_eq_true, beq_iff_eq] at broken
      rcases broken with (((rfl | rfl) | rfl) | rfl) | rfl
      · exact absurd least (by decide)
      · exact absurd least (by decide)
      · exact absurd greatest (by decide)
      · exact absurd greatest (by decide)
      · exact absurd greatest (by decide)

theorem utf8Size (ascii : IsAscii c) : c.utf8Size = 1 :=
  Char.utf8Size_eq_one_iff.mpr (UInt32.le_trans (Char.le_def.mp ascii.2) (by decide))

theorem of_isDigit (digit : c.isDigit = true) : IsAscii c := by
  unfold Char.isDigit at digit
  rw [Bool.and_eq_true, decide_eq_true_eq, decide_eq_true_eq] at digit
  exact ⟨le_trans (by decide : (' ' : Char) ≤ '0') digit.1,
    le_trans digit.2 (by decide : ('9' : Char) ≤ '~')⟩

theorem of_hexValue? {value : Nat} (digit : hexValue? c = some value) : IsAscii c := by
  unfold hexValue? at digit
  split at digit
  · rename_i decimal
    exact of_isDigit decimal
  · split at digit
    · rename_i letter
      rw [Bool.and_eq_true, decide_eq_true_eq, decide_eq_true_eq] at letter
      exact ⟨le_trans (by decide : (' ' : Char) ≤ 'a') letter.1,
        le_trans letter.2 (by decide : ('f' : Char) ≤ '~')⟩
    · split at digit
      · rename_i letter
        rw [Bool.and_eq_true, decide_eq_true_eq, decide_eq_true_eq] at letter
        exact ⟨le_trans (by decide : (' ' : Char) ≤ 'A') letter.1,
          le_trans letter.2 (by decide : ('F' : Char) ≤ '~')⟩
      · cases digit

end IsAscii

theorem isAllowed_of_isPrintable {c : Char} (printable : isPrintable c = true) :
    isAllowed c = true := by
  unfold isPrintable at printable
  unfold isAllowed
  simp only [Bool.or_eq_true, Bool.and_eq_true, decide_eq_true_eq] at printable ⊢
  tauto

end TaggedConfig.Yaml
