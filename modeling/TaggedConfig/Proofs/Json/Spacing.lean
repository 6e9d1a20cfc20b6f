import TaggedConfig.Proofs.Json.Reader

/-!
# White space between lexemes

The same lexemes can be written with more white space or with less.  However they are written, the
reader finds them again.
-/

namespace TaggedConfig.Json

/-- The inside of a string, where a backslash is never the last character. -/
inductive IsInside : List Char → Prop
  | nil : IsInside []
  | plain {c : Char} {rest : List Char} (noQuote : c ≠ '"') (noBackslash : c ≠ '\\')
      (inside : IsInside rest) : IsInside (c :: rest)
  | escape {c : Char} {rest : List Char} (inside : IsInside rest) : IsInside ('\\' :: c :: rest)

theorem IsInside.append {first second : List Char} (here : IsInside first)
    (later : IsInside second) : IsInside (first ++ second) := by
  induction here with
  | nil => exact later
  | plain noQuote noBackslash _ ih => exact .plain noQuote noBackslash ih
  | escape _ ih => exact .escape ih

theorem isInside_of_plain {text : List Char} (plain : ∀ c ∈ text, c ≠ '"' ∧ c ≠ '\\') :
    IsInside text := by
  induction text with
  | nil => exact .nil
  | cons c rest ih =>
      obtain ⟨⟨noQuote, noBackslash⟩, later⟩ := List.forall_mem_cons.mp plain
      exact .plain noQuote noBackslash (ih later)

def EndsBare (text : List Char) : Prop := ∀ c ∈ text.head?, isBare c = false

theorem endsBare_nil : EndsBare [] := nofun

theorem endsBare_cons {c : Char} (ends : isBare c = false) (rest : List Char) :
    EndsBare (c :: rest) := by
  rintro d found
  cases found
  exact ends

/-- A text consists of lexemes, with white space anywhere around them. -/
inductive Spaced : List (List Char) → List Char → Prop
  | nil : Spaced [] []
  | space {c : Char} {lexemes : List (List Char)} {text : List Char} (blank : isSpace c = true)
      (rest : Spaced lexemes text) : Spaced lexemes (c :: text)
  | mark {c : Char} {lexemes : List (List Char)} {text : List Char} (isMark : isMark c = true)
      (rest : Spaced lexemes text) : Spaced ([c] :: lexemes) (c :: text)
  | string {inside text : List Char} {lexemes : List (List Char)} (isInside : IsInside inside)
      (rest : Spaced lexemes text) :
      Spaced (('"' :: inside ++ ['"']) :: lexemes) ('"' :: inside ++ ['"'] ++ text)
  | word {word text : List Char} {lexemes : List (List Char)} (some : word ≠ [])
      (bare : ∀ c ∈ word, isBare c = true) (ends : EndsBare text) (rest : Spaced lexemes text) :
      Spaced (word :: lexemes) (word ++ text)

theorem Spaced.spaces {blank text : List Char} {lexemes : List (List Char)}
    (all : ∀ c ∈ blank, isSpace c = true) (rest : Spaced lexemes text) :
    Spaced lexemes (blank ++ text) := by
  induction blank with
  | nil => exact rest
  | cons c others ih =>
      obtain ⟨here, later⟩ := List.forall_mem_cons.mp all
      exact .space here (ih later)

theorem isMark_of_isSpace {c : Char} (blank : isSpace c = true) : isMark c = false := by
  unfold isSpace at blank
  simp only [List.contains_iff_mem, List.mem_cons, List.not_mem_nil, or_false] at blank
  rcases blank with rfl | rfl | rfl | rfl <;> rfl

theorem isSpace_of_isMark {c : Char} (mark : isMark c = true) : isSpace c = false := by
  cases blank : isSpace c with
  | false => rfl
  | true =>
      rw [isMark_of_isSpace blank] at mark
      cases mark

namespace Lexer

theorem lexemes_cons (lexer : Lexer) (c : Char) (rest : List Char) :
    lexer.lexemes (c :: rest) = (lexer.step c).1 ++ (lexer.step c).2.lexemes rest := by
  rw [lexemes]

/-- The characters of a word stay together. -/
theorem lexemes_word {word : List Char} (bare : ∀ c ∈ word, isBare c = true)
    (before rest : List Char) :
    (Lexer.bare before).lexemes (word ++ rest) = (Lexer.bare (before ++ word)).lexemes rest := by
  induction word generalizing before with
  | nil => rw [List.append_nil, List.nil_append]
  | cons c others ih =>
      obtain ⟨here, later⟩ := List.forall_mem_cons.mp bare
      have step : (Lexer.bare before).step c = ([], .bare (before ++ [c])) := by
        simp only [isBare, Bool.and_eq_true, Bool.not_eq_true', bne_iff_ne] at here
        simp [Lexer.step, here.1.1, here.1.2, here.2]
      rw [List.cons_append, lexemes_cons, step, List.nil_append, ih later, List.append_assoc,
        List.singleton_append]

/-- What ends a word leaves it behind, and is read as if nothing had been begun. -/
theorem lexemes_ends (before : List Char) {text : List Char} (ends : EndsBare text) :
    (Lexer.bare before).lexemes text =
      (Lexer.bare before).pending ++ (Lexer.bare []).lexemes text := by
  cases text with
  | nil => exact (List.append_nil _).symm
  | cons c rest =>
      have noBare := ends c rfl
      rw [lexemes_cons, lexemes_cons, ← List.append_assoc]
      by_cases blank : isSpace c = true
      · simp [Lexer.step, pending, blank]
      · by_cases mark : isMark c = true
        · simp [Lexer.step, pending, blank, mark]
        · obtain rfl : c = '"' := by simpa [isBare, blank, mark] using noBare
          have opening : (Lexer.bare []).step '"' = ([], .quoted ['"'] false) := rfl
          rw [opening, List.append_nil]
          rfl

/-- A string goes on to its closing quote. -/
theorem lexemes_string {inside : List Char} (isInside : IsInside inside)
    (before rest : List Char) :
    (Lexer.quoted before false).lexemes (inside ++ '"' :: rest) =
      (before ++ inside ++ ['"']) :: (Lexer.bare []).lexemes rest := by
  induction isInside generalizing before with
  | nil =>
      rw [List.nil_append, List.append_nil, lexemes_cons]
      rfl
  | @plain c others noQuote noBackslash _ ih =>
      have step : (Lexer.quoted before false).step c = ([], .quoted (before ++ [c]) false) := by
        simp [Lexer.step, noQuote, noBackslash]
      rw [List.cons_append, lexemes_cons, step, List.nil_append, ih]
      simp
  | @escape c others _ ih =>
      have backslash : (Lexer.quoted before false).step '\\' =
          ([], .quoted (before ++ ['\\']) true) := by
        simp [Lexer.step]
      have step : (Lexer.quoted (before ++ ['\\']) true).step c =
          ([], .quoted (before ++ ['\\'] ++ [c]) false) := rfl
      rw [List.cons_append, List.cons_append, lexemes_cons, backslash, List.nil_append,
        lexemes_cons, step, List.nil_append, ih]
      simp

end Lexer

/-- The reader cuts a text into its lexemes, whatever the white space. -/
theorem lexemes_of_spaced {found : List (List Char)} {text : List Char} (spaced : Spaced found text) :
    lexemes text = found := by
  unfold lexemes
  induction spaced with
  | nil => rfl
  | @space c _ text blank _ ih =>
      have step : (Lexer.bare []).step c = ([], .bare []) := by simp [Lexer.step, blank, Lexer.pending]
      rw [Lexer.lexemes_cons, step, List.nil_append, ih]
  | @mark c _ text isMark _ ih =>
      have step : (Lexer.bare []).step c = ([[c]], .bare []) := by
        simp [Lexer.step, isSpace_of_isMark isMark, isMark, Lexer.pending]
      rw [Lexer.lexemes_cons, step, ih, List.singleton_append]
  | @string inside text _ isInside _ ih =>
      have step : (Lexer.bare []).step '"' = ([], .quoted ['"'] false) := rfl
      rw [List.append_assoc, List.cons_append, Lexer.lexemes_cons, step, List.nil_append,
        List.singleton_append, Lexer.lexemes_string isInside, ih, List.singleton_append]
  | @word word text _ some bare ends _ ih =>
      have pending : (Lexer.bare word).pending = [word] := by
        cases word with
        | nil => exact absurd rfl some
        | cons c others => rfl
      rw [Lexer.lexemes_word bare, List.nil_append, Lexer.lexemes_ends word ends, pending, ih,
        List.singleton_append]

end TaggedConfig.Json
