import Mathlib
import TaggedConfig.Proofs.RoundTrip.Marks
import TaggedConfig.Text.Word

/-!
# Characters on one line

Plain scalars on one line consist of characters that neither end nor break them wherever they stand,
with spaces between the words.  Word characters are among them, and so are digits and signs.
-/

namespace TaggedConfig.Yaml

def isInner (c : Char) : Bool :=
  !(isBlank c || isBreak c || isFlowIndicator c || c == ':' || c == '#')

def isOpening (c : Char) : Bool :=
  isInner c && !(Lexer.isIndicator c || c == '.' || c == '\ufeff')

/-- Codes beyond ASCII that are allowed and begin plain scalars. -/
def isCommonRange (range : Nat × Nat) : Bool :=
  0xa0 ≤ range.1 && !(range.1 ≤ 0x2028 && 0x2028 ≤ range.2)
    && !(range.1 ≤ 0x2029 && 0x2029 ≤ range.2) && !(range.1 ≤ 0xfeff && 0xfeff ≤ range.2)
    && (range.2 ≤ 0xfffd || 0x10000 ≤ range.1)

theorem wordRanges_common : ∀ range ∈ Text.wordRanges, range.2 < 0x80 ∨ isCommonRange range := by
  decide +kernel

/-- The characters with a special meaning, apart from line separators and the byte order mark. -/
def specialCharacters : List Char :=
  [' ', '\t', '\n', '\r', '\u0085', ',', '[', ']', '{', '}', ':', '#', '-', '?', '&', '*', '!',
    '|', '>', '\'', '"', '%', '@', '\x60', '.']

theorem specialCharacters_small : ∀ c ∈ specialCharacters, c.toNat < 0xa0 := by
  simp [specialCharacters]

theorem specialCharacters_noWord :
    ∀ c ∈ specialCharacters, (c.isAlphanum || c == '_') = false := by
  simp [specialCharacters]

/-- What has no special meaning begins a plain scalar. -/
theorem isOpening_of_ordinary {c : Char} (ordinary : c ∉ specialCharacters)
    (other : c ≠ '\u2028' ∧ c ≠ '\u2029' ∧ c ≠ '\ufeff') : isOpening c = true := by
  obtain ⟨noLine, noParagraph, noMark⟩ := other
  simp only [specialCharacters, List.mem_cons, not_or] at ordinary
  simp [isOpening, isInner, isBlank, isBreak, isFlowIndicator, Lexer.isIndicator, ordinary, noLine,
    noParagraph, noMark]

/-- Letters, digits and the underscore lie between the space and the tilde. -/
theorem ascii_of_isAlphanum {c : Char} (word : (c.isAlphanum || c == '_') = true) :
    ' ' ≤ c ∧ c ≤ '~' := by
  change 0x20 ≤ c.toNat ∧ c.toNat ≤ 0x7e
  simp only [Char.isAlphanum, Char.isAlpha, Char.isUpper, Char.isLower, Char.isDigit,
    Bool.or_eq_true, Bool.and_eq_true, decide_eq_true_eq, beq_iff_eq, ge_iff_le,
    UInt32.le_iff_toNat_le] at word
  rcases word with ((⟨least, greatest⟩ | ⟨least, greatest⟩) | ⟨least, greatest⟩) | rfl
  · exact ⟨le_trans (by decide) least, le_trans greatest (by decide)⟩
  · exact ⟨le_trans (by decide) least, le_trans greatest (by decide)⟩
  · exact ⟨le_trans (by decide) least, le_trans greatest (by decide)⟩
  · decide

/-- Word characters are allowed in a document and begin plain scalars. -/
theorem of_isWord {c : Char} (word : Text.isWord c = true) :
    isOpening c = true ∧ isAllowed c = true := by
  unfold Text.isWord at word
  split at word
  · rename_i small
    have code {d : Char} (large : 0x80 ≤ d.toNat) : c ≠ d := by
      rintro rfl
      exact absurd small (Nat.not_lt.mpr large)
    constructor
    · refine isOpening_of_ordinary (fun special => ?_) ⟨code ?_, code ?_, code ?_⟩
      · rw [specialCharacters_noWord c special] at word
        cases word
      · decide
      · decide
      · decide
    · obtain ⟨least, greatest⟩ := ascii_of_isAlphanum word
      simp [isAllowed, least, greatest]
  · rename_i large
    obtain ⟨range, member, inside⟩ := List.any_eq_true.mp word
    simp only [Bool.and_eq_true, decide_eq_true_eq] at inside
    have common : isCommonRange range = true :=
      (wordRanges_common range member).resolve_left (by omega)
    simp only [isCommonRange, Bool.and_eq_true, Bool.or_eq_true, Bool.not_eq_true',
      decide_eq_true_eq, Bool.and_eq_false_iff, decide_eq_false_iff_not] at common
    have code {d : Char} (different : c.toNat ≠ d.toNat) : c ≠ d := fun same => different (same ▸ rfl)
    constructor
    · refine isOpening_of_ordinary (fun special => ?_) ⟨code ?_, code ?_, code ?_⟩
      · have small := specialCharacters_small c special
        omega
      · change c.toNat ≠ 0x2028
        omega
      · change c.toNat ≠ 0x2029
        omega
      · change c.toNat ≠ 0xfeff
        omega
    · unfold isAllowed
      have least : '\u00a0' ≤ c := by
        change 0xa0 ≤ c.toNat
        omega
      simp only [Bool.or_eq_true, Bool.and_eq_true, decide_eq_true_eq]
      rcases common.2 with low | high
      · exact .inl (.inr ⟨least, by omega⟩)
      · exact .inr (by omega)

end TaggedConfig.Yaml
