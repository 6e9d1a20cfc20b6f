import TaggedConfig.Proofs.RoundTrip.LiteralText
import TaggedConfig.Proofs.RoundTrip.QuotedText
import TaggedConfig.Proofs.RoundTrip.Styles

/-!
# What scalars are written with

Written scalars consist of printable characters.  A scalar on one line is not much longer than its
text, so the colon behind a short key is within reach.
-/

namespace TaggedConfig.Yaml.Writing

variable {style : ScalarStyle} {indent : Nat} {text : List Char}

theorem bytes_append (first second : List Char) :
    Mark.bytes (first ++ second) = Mark.bytes first + Mark.bytes second := by
  unfold Mark.bytes
  rw [List.map_append, List.sum_append]

theorem bytes_cons (c : Char) (text : List Char) :
    Mark.bytes (c :: text) = c.utf8Size + Mark.bytes text := rfl

theorem bytes_of_isAscii (ascii : ∀ c ∈ text, IsAscii c) : Mark.bytes text = text.length := by
  induction text with
  | nil => rfl
  | cons c rest ih =>
      obtain ⟨here, later⟩ := List.forall_mem_cons.mp ascii
      rw [bytes_cons, here.utf8Size, ih later, List.length_cons, Nat.add_comm]

theorem bytes_doubleQuotedChar (c : Char) :
    Mark.bytes (doubleQuotedChar c) ≤ 6 * Mark.bytes [c] := by
  rcases Quoted.written_doubleQuotedChar c with ⟨itself, -⟩ | ⟨ascii, short⟩
  · rw [itself]
    omega
  · rw [bytes_of_isAscii ascii]
    exact short

theorem bytes_doubleQuoted (text : List Char) :
    Mark.bytes (text.flatMap doubleQuotedChar) ≤ 6 * Mark.bytes text := by
  induction text with
  | nil => exact Nat.le_refl _
  | cons c rest ih =>
      have here := bytes_doubleQuotedChar c
      have whole : Mark.bytes (c :: rest) = Mark.bytes [c] + Mark.bytes rest := rfl
      rw [List.flatMap_cons, bytes_append]
      omega

theorem singleQuotedFrom_of_unbroken (unbroken : ∀ c ∈ text, isBreak c = false) :
    (∀ d ∈ singleQuotedFrom indent false text, isBreak d = false) ∧
      Mark.bytes (singleQuotedFrom indent false text) ≤ 2 * Mark.bytes text := by
  induction text with
  | nil => exact ⟨nofun, Nat.le_refl _⟩
  | cons c rest ih =>
      obtain ⟨here, later⟩ := List.forall_mem_cons.mp unbroken
      obtain ⟨noBreak, short⟩ := ih later
      unfold singleQuotedFrom
      rw [here, if_neg Bool.false_ne_true, if_neg Bool.false_ne_true, List.nil_append]
      have positive := c.utf8Size_pos
      have whole : Mark.bytes (c :: rest) = c.utf8Size + Mark.bytes rest := rfl
      split
      · have twice : Mark.bytes ['\'', c] = 1 + (c.utf8Size + 0) := rfl
        refine ⟨List.forall_mem_cons.mpr ⟨rfl, List.forall_mem_cons.mpr ⟨here, noBreak⟩⟩, ?_⟩
        rw [bytes_append]
        omega
      · have once : Mark.bytes [c] = c.utf8Size + 0 := rfl
        refine ⟨List.forall_mem_cons.mpr ⟨here, noBreak⟩, ?_⟩
        rw [bytes_append]
        omega

theorem quotes_of_unbroken {quote : Char} {inner : List Char} (ascii : IsAscii quote)
    (noBreak : ∀ d ∈ inner, isBreak d = false) (short : Mark.bytes inner ≤ 6 * Mark.bytes text) :
    (∀ d ∈ quote :: inner ++ [quote], isBreak d = false) ∧
      Mark.bytes (quote :: inner ++ [quote]) ≤ 6 * Mark.bytes text + 2 := by
  constructor
  · rw [List.cons_append, List.forall_mem_cons, List.forall_mem_append]
    exact ⟨ascii.isBreak, noBreak, List.forall_mem_singleton.mpr ascii.isBreak⟩
  · have last : Mark.bytes [quote] = quote.utf8Size + 0 := rfl
    rw [List.cons_append, bytes_cons, bytes_append, last, ascii.utf8Size]
    omega

/-- A scalar on one line stays on it, and takes at most six bytes for each of its own. -/
theorem styled_of_unbroken (oneLine : style ≠ .literal) (unbroken : ∀ c ∈ text, isBreak c = false) :
    (∀ d ∈ styled style indent text, isBreak d = false) ∧
      Mark.bytes (styled style indent text) ≤ 6 * Mark.bytes text + 2 := by
  have plain : (∀ d ∈ text, isBreak d = false) ∧ Mark.bytes text ≤ 6 * Mark.bytes text + 2 :=
    ⟨unbroken, by omega⟩
  cases style with
  | plain => exact plain
  | singleQuoted =>
      obtain ⟨noBreak, short⟩ := singleQuotedFrom_of_unbroken unbroken
      exact quotes_of_unbroken (by decide) noBreak (by omega)
  | doubleQuoted =>
      refine quotes_of_unbroken (by decide) (fun d found => ?_) (bytes_doubleQuoted text)
      obtain ⟨c, -, found⟩ := List.mem_flatMap.mp found
      exact Quoted.unbroken_doubleQuotedChar c d found
  | literal => contradiction
  | folded => exact plain

theorem isPrintable_of_mem_indentation {c : Char} (found : c ∈ indentation indent) :
    isPrintable c = true := by
  rw [List.eq_of_mem_replicate found]
  rfl

theorem printable_singleQuotedFrom (printable : ∀ c ∈ text, isPrintable c = true)
    (afterBreak : Bool) : ∀ d ∈ singleQuotedFrom indent afterBreak text, isPrintable d = true := by
  have spaces : ∀ d ∈ (if afterBreak then indentation indent else []), isPrintable d = true := by
    split
    · exact fun d found => isPrintable_of_mem_indentation found
    · exact List.forall_mem_nil _
  induction text generalizing afterBreak with
  | nil => exact spaces
  | cons c rest ih =>
      obtain ⟨here, later⟩ := List.forall_mem_cons.mp printable
      unfold singleQuotedFrom
      split
      · exact List.forall_mem_cons.mpr ⟨here, ih later true (fun d => isPrintable_of_mem_indentation)⟩
      · rw [List.forall_mem_append, List.forall_mem_append]
        refine ⟨⟨spaces, ?_⟩, ih later false (List.forall_mem_nil _)⟩
        split
        · exact List.forall_mem_cons.mpr ⟨rfl, List.forall_mem_singleton.mpr here⟩
        · exact List.forall_mem_singleton.mpr here

theorem printable_doubleQuoted (text : List Char) :
    ∀ d ∈ text.flatMap doubleQuotedChar, isPrintable d = true := by
  intro d found
  obtain ⟨c, -, found⟩ := List.mem_flatMap.mp found
  rcases Quoted.written_doubleQuotedChar c with ⟨itself, printable, -⟩ | ⟨ascii, -⟩
  · rw [itself] at found
    rw [List.mem_singleton.mp found]
    exact printable
  · exact (ascii d found).isPrintable

theorem printable_literalLines (printable : ∀ c ∈ text, isPrintable c = true) (atLineStart : Bool) :
    ∀ d ∈ literalLines indent atLineStart text, isPrintable d = true := by
  induction text generalizing atLineStart with
  | nil => exact List.forall_mem_nil _
  | cons c rest ih =>
      obtain ⟨here, later⟩ := List.forall_mem_cons.mp printable
      unfold literalLines
      split
      · exact List.forall_mem_cons.mpr ⟨here, ih later true⟩
      · rw [List.forall_mem_append, List.forall_mem_cons]
        refine ⟨?_, here, ih later false⟩
        split
        · exact fun d found => isPrintable_of_mem_indentation found
        · exact List.forall_mem_nil _

theorem printable_literal (printable : ∀ c ∈ text, isPrintable c = true) :
    ∀ d ∈ literal indent text, isPrintable d = true := by
  have hint : ∀ d ∈ indentationHint text, isPrintable d = true := by
    unfold indentationHint
    split
    · exact List.forall_mem_singleton.mpr rfl
    · exact List.forall_mem_nil _
  have chomping : ∀ d ∈ chompingHint text, isPrintable d = true := by
    unfold chompingHint
    split
    · exact List.forall_mem_singleton.mpr rfl
    · split
      · exact List.forall_mem_singleton.mpr rfl
      · split
        · exact List.forall_mem_singleton.mpr rfl
        · exact List.forall_mem_nil _
  unfold literal
  rw [List.forall_mem_append, List.cons_append, List.forall_mem_cons, List.forall_mem_append,
    List.forall_mem_cons]
  exact ⟨⟨rfl, hint, chomping⟩, rfl, printable_literalLines printable true⟩

theorem printable_of_needsEscapes_eq_false (clear : needsEscapes text = false) :
    ∀ c ∈ text, isPrintable c = true := by
  intro c found
  obtain ⟨-, none⟩ := Bool.or_eq_false_iff.mp clear
  simpa using List.any_eq_false.mp none c found

/-- A scalar is written with printable characters. -/
theorem printable_styled (allows : Allows style text) :
    ∀ d ∈ styled style indent text, isPrintable d = true := by
  have quotes {quote : Char} (ascii : IsAscii quote) {inner : List Char}
      (printable : ∀ d ∈ inner, isPrintable d = true) :
      ∀ d ∈ quote :: inner ++ [quote], isPrintable d = true := by
    rw [List.cons_append, List.forall_mem_cons, List.forall_mem_append]
    exact ⟨ascii.isPrintable, printable, List.forall_mem_singleton.mpr ascii.isPrintable⟩
  cases style with
  | plain => exact (isPlainText_of_allowsPlain allows.2 allows.1).printable
  | singleQuoted =>
      obtain ⟨allowed, -⟩ := allows
      unfold allowsSingleQuotes at allowed
      rw [Bool.and_eq_true, Bool.not_eq_true'] at allowed
      exact quotes (by decide)
        (printable_singleQuotedFrom (printable_of_needsEscapes_eq_false allowed.1) false)
  | doubleQuoted => exact quotes (by decide) (printable_doubleQuoted text)
  | literal =>
      obtain ⟨allowed, -⟩ := allows
      unfold allowsLiteral at allowed
      rw [Bool.and_eq_true, Bool.not_eq_true'] at allowed
      exact printable_literal (printable_of_needsEscapes_eq_false allowed.1)
  | folded => cases allows

theorem printable_endLine (printable : ∀ c ∈ text, isPrintable c = true) :
    ∀ d ∈ endLine text, isPrintable d = true := by
  unfold endLine
  split
  · exact printable
  · rw [List.forall_mem_append]
    exact ⟨printable, List.forall_mem_singleton.mpr rfl⟩

end TaggedConfig.Yaml.Writing
