import TaggedConfig.Proofs.RoundTrip.Characters
import TaggedConfig.Proofs.RoundTrip.PlainText

/-!
# Quoted scalars that are read back

Between single quotes, quotes are doubled, and the line breaks that can be there are kept with the
indentation behind them left out.  Between double quotes there are no line breaks at all, and every
character that does not stand for itself is escaped.
-/

namespace TaggedConfig.Yaml

open Writing

namespace Quoted

variable {quote : Quote} {began mark : Mark} {pending : Folding} {done rest : List Char} {c : Char}

theorem scanFrom_space :
    scanFrom quote began (' ' :: rest) mark .text pending done =
      scanFrom quote began rest (mark.next ' ') .text (pending.addBlank ' ') done := by
  conv_lhs => unfold scanFrom
  simp [isBlank]

theorem isBlank_of_isBreak (broken : isBreak c = true) : isBlank c = false := by
  unfold isBlank
  rw [Bool.or_eq_false_iff, beq_eq_false_iff_ne, beq_eq_false_iff_ne]
  constructor
  · rintro rfl
    cases broken
  · rintro rfl
    cases broken

theorem scanFrom_break (broken : isBreak c = true) (noReturn : c ≠ '\r') :
    scanFrom quote began (c :: rest) mark .text pending done =
      scanFrom quote began rest (mark.nextLine c.utf8Size) .text (pending.addBreak c) done := by
  have noQuote : c ≠ '\'' := by
    rintro rfl
    cases broken
  conv_lhs => unfold scanFrom
  simp [noReturn, noQuote, isBlank_of_isBreak broken, broken]

/-- Two quotes next to each other stand for one between single quotes. -/
theorem scanFrom_pair_single :
    scanFrom .single began ('\'' :: '\'' :: rest) mark .text pending done =
      scanFrom .single began rest (mark.past ['\'', '\'']) .text .empty
        ('\'' :: (pending.reversedText ++ done)) := rfl

theorem scanFrom_pair_double :
    scanFrom .double began ('\'' :: '\'' :: rest) mark .text pending done =
      scanFrom .double began rest (mark.past ['\'', '\'']) .text .empty
        ('\'' :: '\'' :: (pending.reversedText ++ done)) := rfl

theorem scanFrom_other (noBlank : isBlank c = false) (unbroken : isBreak c = false)
    (noPair : ∀ others, c = '\'' → rest = '\'' :: others → False) :
    scanFrom quote began (c :: rest) mark .text pending done =
      if mark.column == 0 && startsWithDocumentMarker (c :: rest) then
        .error (.within .quotedScalar began .unexpectedDocumentMarker mark)
      else if c == quote.char then
        .ok ⟨(pending.reversedText ++ done).reverse, ⟨rest, mark.next c⟩⟩
      else if quote == .double && c == '\\' then
        scanFrom quote began rest (mark.next c) (.escape mark) .empty (pending.reversedText ++ done)
      else
        scanFrom quote began rest (mark.next c) .text .empty (c :: (pending.reversedText ++ done)) := by
  have noReturn := ne_of_isBreak_eq_false unbroken
  conv_lhs => unfold scanFrom
  simp [noBlank, unbroken, noReturn]

theorem scanFrom_close (inside : 0 < mark.column)
    (last : quote = .single → ∀ others, rest = '\'' :: others → False) :
    scanFrom quote began (quote.char :: rest) mark .text pending done =
      .ok ⟨(pending.reversedText ++ done).reverse, ⟨rest, mark.next quote.char⟩⟩ := by
  have column : (mark.column == 0) = false := beq_eq_false_iff_ne.mpr inside.ne'
  cases quote with
  | single =>
      rw [scanFrom_other rfl rfl fun others _ => last rfl others]
      simp [column]
  | double =>
      have noPair : ∀ others, '"' = '\'' → rest = '\'' :: others → False := nofun
      change scanFrom .double began ('"' :: rest) mark .text pending done = _
      rw [scanFrom_other rfl rfl noPair]
      simp [column]
      rfl

/-- A character that stands for itself. -/
theorem scanFrom_char (noBlank : isBlank c = false) (unbroken : isBreak c = false)
    (inside : 0 < mark.column) (noPair : ∀ others, c = '\'' → rest = '\'' :: others → False)
    (noQuote : c ≠ quote.char) (noEscape : quote = .double → c ≠ '\\') :
    scanFrom quote began (c :: rest) mark .text pending done =
      scanFrom quote began rest (mark.next c) .text .empty (c :: (pending.reversedText ++ done)) := by
  have column : (mark.column == 0) = false := beq_eq_false_iff_ne.mpr inside.ne'
  rw [scanFrom_other noBlank unbroken noPair, column, beq_eq_false_iff_ne.mpr noQuote]
  cases quote with
  | single => rfl
  | double =>
      rw [beq_eq_false_iff_ne.mpr (noEscape rfl)]
      rfl

theorem scanFrom_indentation (broken : pending.broken = true) (indent : Nat) :
    scanFrom quote began (indentation indent ++ rest) mark .text pending done =
      scanFrom quote began rest (mark.past (indentation indent)) .text pending done := by
  induction indent generalizing mark with
  | zero => rfl
  | succ indent ih =>
      have spaces : indentation (indent + 1) = ' ' :: indentation indent := rfl
      rw [spaces, List.cons_append, scanFrom_space, Folding.addBlank_broken broken, ih,
        Mark.past_cons rfl]

theorem hasPair_cons {first second : Char → Bool} {text : List Char}
    (none : hasPair first second (c :: text) = false) :
    (first c = true → ∀ d ∈ text.head?, second d = false) ∧ hasPair first second text = false := by
  cases text with
  | nil => exact ⟨fun _ => nofun, rfl⟩
  | cons d rest =>
      obtain ⟨here, later⟩ := Bool.or_eq_false_iff.mp none
      refine ⟨fun suits => ?_, later⟩
      rintro other ⟨⟩
      rwa [suits, Bool.true_and] at here

/-- The line breaks that may be written, besides the line feed, are those that are kept. -/
theorem eq_of_isBreak (broken : isBreak c = true) (printable : isPrintable c = true)
    (noLineFeed : c ≠ '\n') : c = '\u2028' ∨ c = '\u2029' := by
  unfold isBreak at broken
  simp only [Bool.or_eq_true, beq_iff_eq] at broken
  rcases broken with (((rfl | rfl) | rfl) | rfl) | rfl
  · exact absurd rfl noLineFeed
  · cases printable
  · cases printable
  · exact .inl rfl
  · exact .inr rfl

theorem reversedText_kept (broken : pending.broken = true) (kept : pending.firstBreak = some c)
    (noLineFeed : c ≠ '\n') : pending.reversedText = pending.moreBreaks ++ [c] := by
  unfold Folding.reversedText
  rw [broken, kept, if_pos rfl]
  split
  · rename_i same
    exact absurd (Option.some.inj same) noLineFeed
  · rename_i same
    rw [Option.some.inj same]
  · rename_i same
    cases same

/-- Where the reader stands between single quotes: behind line breaks that are kept, or inside a
line.  Spaces and line breaks do not follow each other. -/
structure Stands (text : List Char) (afterBreak : Bool) (pending : Folding) (mark : Mark) : Prop where
  broken : pending.broken = afterBreak
  kept : afterBreak = true → ∃ c, c ≠ '\n' ∧ pending.firstBreak = some c
  inside : afterBreak = false → 0 < mark.column
  noSpace : afterBreak = true → ∀ c ∈ text.head?, c ≠ ' '
  noBlanks : afterBreak = false → ∀ c ∈ text.head?, isBreak c = true → pending.blanks = []

/-- A line break that is no line feed is kept. -/
theorem Stands.addBreak {text : List Char} {afterBreak : Bool}
    (stands : Stands (c :: text) afterBreak pending mark) (broken : isBreak c = true)
    (separator : c = '\u2028' ∨ c = '\u2029') (apart : ∀ d ∈ text.head?, isSpaceChar d = false)
    (place : Mark) :
    Stands text true (pending.addBreak c) place ∧
      (pending.addBreak c).reversedText = c :: pending.reversedText := by
  have same : breakText c = c := by
    rcases separator with rfl | rfl
    · rfl
    · rfl
  have noLineFeed : c ≠ '\n' := by
    rcases separator with rfl | rfl
    · exact nofun
    · exact nofun
  have noSpace : ∀ d ∈ text.head?, d ≠ ' ' := fun d found =>
    beq_eq_false_iff_ne.mp (apart d found)
  cases afterBreak with
  | false =>
      have blanks := stands.noBlanks rfl c rfl broken
      have intact := stands.broken
      have added : pending.addBreak c = ⟨[], true, some c, []⟩ := by
        unfold Folding.addBreak
        rw [intact, same]
        rfl
      have before : pending.reversedText = [] := by
        unfold Folding.reversedText
        rw [intact]
        exact blanks
      rw [added, before]
      exact ⟨⟨rfl, fun _ => ⟨c, noLineFeed, rfl⟩, nofun, fun _ => noSpace, nofun⟩,
        reversedText_kept rfl rfl noLineFeed⟩
  | true =>
      obtain ⟨first, noFeed, kept⟩ := stands.kept rfl
      have added : pending.addBreak c =
          { pending with moreBreaks := c :: pending.moreBreaks } := by
        unfold Folding.addBreak
        rw [stands.broken, same]
        rfl
      rw [added, reversedText_kept stands.broken kept noFeed]
      exact ⟨⟨stands.broken, fun _ => ⟨first, noFeed, kept⟩, nofun, fun _ => noSpace, nofun⟩,
        reversedText_kept stands.broken kept noFeed⟩

theorem Stands.addSpace {text : List Char} {afterBreak : Bool}
    (stands : Stands (' ' :: text) afterBreak pending mark)
    (apart : ∀ d ∈ text.head?, isBreak d = false) {place : Mark} (inside : 0 < place.column) :
    Stands text false (pending.addBlank ' ') place ∧
      (pending.addBlank ' ').reversedText = ' ' :: pending.reversedText := by
  have intact : pending.broken = false := by
    cases afterBreak with
    | false => exact stands.broken
    | true => exact absurd rfl (stands.noSpace rfl ' ' rfl)
  obtain ⟨still, kept⟩ := Folding.addBlank_intact intact ' '
  refine ⟨⟨still, nofun, fun _ => inside, nofun, fun _ d found broken => ?_⟩, kept⟩
  rw [apart d found] at broken
  cases broken

theorem reversedText_empty : Folding.empty.reversedText = [] := rfl

/-- Inside a line, behind a character that is neither a blank nor a line break. -/
theorem stands_empty {text : List Char} (inside : 0 < mark.column) :
    Stands text false .empty mark :=
  ⟨rfl, nofun, fun _ => inside, nofun, fun _ _ _ _ => rfl⟩

theorem scanFrom_lineStart {indent : Nat} (deep : 0 < indent) {text : List Char} {afterBreak : Bool}
    (stands : Stands text afterBreak pending mark) :
    ∃ place : Mark, 0 < place.column ∧
      place = mark.past (if afterBreak then indentation indent else []) ∧
      scanFrom quote began ((if afterBreak then indentation indent else []) ++ rest) mark .text
          pending done = scanFrom quote began rest place .text pending done := by
  cases afterBreak with
  | false => exact ⟨mark, stands.inside rfl, rfl, rfl⟩
  | true =>
      refine ⟨mark.past (indentation indent), ?_, rfl, scanFrom_indentation stands.broken indent⟩
      rw [Mark.column_past_indentation]
      exact Nat.add_pos_right _ deep

theorem scanFrom_singleQuoted {indent : Nat} (deep : 0 < indent) {text tail : List Char}
    {afterBreak : Bool} (printable : ∀ c ∈ text, isPrintable c = true)
    (noLineFeed : ∀ c ∈ text, c ≠ '\n')
    (noBlankEnd : hasPair isSpaceChar isBreak text = false)
    (noBlankStart : hasPair isBreak isSpaceChar text = false)
    (ends : ∀ others, tail = '\'' :: others → False)
    (stands : Stands text afterBreak pending mark) :
    scanFrom .single began (singleQuotedFrom indent afterBreak text ++ '\'' :: tail) mark .text
        pending done =
      .ok ⟨(text.reverse ++ (pending.reversedText ++ done)).reverse,
        ⟨tail, mark.past (singleQuotedFrom indent afterBreak text ++ ['\''])⟩⟩ := by
  induction text generalizing mark pending done afterBreak with
  | nil =>
      obtain ⟨place, inside, same, passed⟩ := scanFrom_lineStart deep stands
      unfold singleQuotedFrom
      rw [passed, Mark.past_append, ← same]
      exact scanFrom_close inside fun _ => ends
  | cons c text ih =>
      obtain ⟨printableHere, printableLater⟩ := List.forall_mem_cons.mp printable
      obtain ⟨noFeedHere, noFeedLater⟩ := List.forall_mem_cons.mp noLineFeed
      obtain ⟨noBreakBehind, noEndLater⟩ := hasPair_cons noBlankEnd
      obtain ⟨noSpaceBehind, noStartLater⟩ := hasPair_cons noBlankStart
      unfold singleQuotedFrom
      cases broken : isBreak c with
      | true =>
          have separator := eq_of_isBreak broken printableHere noFeedHere
          have noReturn : c ≠ '\r' := by
            rcases separator with rfl | rfl
            · exact nofun
            · exact nofun
          obtain ⟨stands, kept⟩ := stands.addBreak broken separator (noSpaceBehind broken)
            (mark.nextLine c.utf8Size)
          rw [if_pos rfl, List.cons_append, List.cons_append, scanFrom_break broken noReturn,
            ih printableLater noFeedLater noEndLater noStartLater stands, kept,
            Mark.past_cons_break broken]
          simp
      | false =>
          obtain ⟨place, inside, same, passed⟩ := scanFrom_lineStart deep stands
          simp only [Bool.false_eq_true, if_false, List.append_assoc]
          rw [passed, Mark.past_append, ← same]
          by_cases quote : c = '\''
          · subst quote
            have behind : 0 < (place.past ['\'', '\'']).column := Nat.succ_pos _
            change scanFrom .single began
              ('\'' :: '\'' :: (singleQuotedFrom indent false text ++ '\'' :: tail)) place .text pending
                done = .ok ⟨_, ⟨tail, (place.past ['\'', '\'']).past
                  (singleQuotedFrom indent false text ++ ['\''])⟩⟩
            rw [scanFrom_pair_single, ih printableLater noFeedLater noEndLater noStartLater
              (stands_empty behind), reversedText_empty]
            simp
          · rw [beq_eq_false_iff_ne.mpr quote, if_neg Bool.false_ne_true, List.singleton_append,
              List.singleton_append, Mark.past_cons broken]
            have behind : 0 < (place.next c).column := Nat.succ_pos _
            by_cases space : c = ' '
            · subst space
              obtain ⟨stands, kept⟩ := stands.addSpace (noBreakBehind rfl) behind
              rw [scanFrom_space, ih printableLater noFeedLater noEndLater noStartLater stands, kept]
              simp
            · have noQuote : c ≠ Quote.single.char := quote
              have noEscape : Quote.single = .double → c ≠ '\\' := nofun
              rw [scanFrom_char (isBlank_eq_false printableHere space) broken inside
                (fun _ same => absurd same quote) noQuote noEscape, ih printableLater noFeedLater
                noEndLater noStartLater (stands_empty behind), reversedText_empty]
              simp

/-- A text between single quotes is read back. -/
theorem scan_singleQuoted {indent : Nat} (deep : 0 < indent) {text tail : List Char}
    (allowed : allowsSingleQuotes text = true) (noLineFeed : '\n' ∉ text)
    (ends : ∀ others, tail = '\'' :: others → False) :
    scan .single ⟨'\'' :: singleQuotedFrom indent false text ++ '\'' :: tail, mark⟩ =
      .ok ⟨text, ⟨tail, mark.past ('\'' :: singleQuotedFrom indent false text ++ ['\''])⟩⟩ := by
  unfold allowsSingleQuotes needsEscapes at allowed
  simp only [Bool.and_eq_true, Bool.not_eq_true', Bool.or_eq_false_iff, List.any_eq_false] at allowed
  obtain ⟨⟨noBlankEnd, printable⟩, noBlankStart⟩ := allowed
  have inside : 0 < (mark.next '\'').column := Nat.succ_pos _
  have first : Stands text false .empty (mark.next '\'') := stands_empty inside
  have characters : ∀ c ∈ text, isPrintable c = true :=
    fun c found => by simpa using printable c found
  have noFeed : ∀ c ∈ text, c ≠ '\n' := fun c found same => noLineFeed (same ▸ found)
  change scanFrom .single mark (singleQuotedFrom indent false text ++ '\'' :: tail)
    (mark.next '\'') .text .empty [] = _
  rw [scanFrom_singleQuoted deep characters noFeed noBlankEnd noBlankStart ends first,
    reversedText_empty, List.append_nil, List.append_nil, List.reverse_reverse, List.cons_append,
    Mark.past_cons rfl]

theorem escapedChar?_of_escapeLetter? {letter : Char} (found : escapeLetter? c = some letter) :
    escapedChar? letter = some c ∧ IsAscii letter := by
  unfold escapeLetter? at found
  split at found <;> cases found
  all_goals exact ⟨rfl, by decide⟩

theorem scanFrom_backslash (inside : 0 < mark.column) :
    scanFrom .double began ('\\' :: rest) mark .text pending done =
      scanFrom .double began rest (mark.next '\\') (.escape mark) .empty
        (pending.reversedText ++ done) := by
  have column : (mark.column == 0) = false := beq_eq_false_iff_ne.mpr inside.ne'
  have noPair : ∀ others, '\\' = '\'' → rest = '\'' :: others → False := nofun
  rw [scanFrom_other rfl rfl noPair, column]
  rfl

theorem scanFrom_letter {letter : Char} {backslash : Mark} (meant : escapedChar? letter = some c)
    (unbroken : isBreak letter = false) :
    scanFrom quote began (letter :: rest) mark (.escape backslash) pending done =
      scanFrom quote began rest (mark.next letter) .text .empty (c :: done) := by
  have noReturn := ne_of_isBreak_eq_false unbroken
  conv_lhs => unfold scanFrom
  simp [unbroken, meant, noReturn]

/-- The letter in front of a hexadecimal code. -/
theorem scanFrom_width {letter : Char} {width : Nat} {backslash : Mark}
    (noChar : escapedChar? letter = none) (wide : escapeWidth? letter = some width)
    (unbroken : isBreak letter = false) :
    scanFrom quote began (letter :: rest) mark (.escape backslash) pending done =
      scanFrom quote began rest (mark.next letter) (.code width 0 (mark.next letter)) .empty done := by
  have noReturn := ne_of_isBreak_eq_false unbroken
  conv_lhs => unfold scanFrom
  simp [unbroken, noChar, wide, noReturn]

def hexFrom? (before : Nat) (digits : List Char) : Option Nat :=
  digits.foldlM (fun value c => (hexValue? c).map (value * 16 + ·)) before

theorem scanFrom_code {digits : List Char} {before code : Nat} {place : Mark}
    (nonempty : digits ≠ []) (read : hexFrom? before digits = some code)
    (meant : charOfCode? code = some c) :
    scanFrom quote began (digits ++ rest) mark (.code digits.length before place) pending done =
      scanFrom quote began rest (mark.past digits) .text .empty (c :: done) := by
  induction digits generalizing before mark pending with
  | nil => contradiction
  | cons digit digits ih =>
      unfold hexFrom? at read
      rw [List.foldlM_cons] at read
      obtain ⟨value, found, later⟩ := Option.bind_eq_some_iff.mp read
      obtain ⟨here, given, rfl⟩ := Option.map_eq_some_iff.mp found
      rw [List.cons_append, Mark.past_cons (IsAscii.of_hexValue? given).isBreak]
      conv_lhs => unfold scanFrom
      simp only [given]
      cases digits with
      | nil =>
          cases later
          simp [meant]
      | cons next others =>
          have further : 1 < (digit :: next :: others).length :=
            Nat.succ_lt_succ (Nat.succ_pos _)
          rw [if_pos further]
          exact ih (List.cons_ne_nil next others) later

theorem hexFrom?_append (before : Nat) (first second : List Char) :
    hexFrom? before (first ++ second) = (hexFrom? before first).bind (hexFrom? · second) :=
  List.foldlM_append

theorem hexValue?_digitChar {digit : Nat} (small : digit < 16) :
    hexValue? digit.digitChar.toUpper = some digit := by
  interval_cases digit <;> rfl

/-- Capital digits have the value of the number. -/
theorem hexFrom?_toDigits (code : Nat) :
    hexFrom? 0 ((Nat.toDigits 16 code).map Char.toUpper) = some code := by
  induction code using Nat.strong_induction_on with
  | _ code ih =>
      by_cases small : code < 16
      · rw [Nat.toDigits_of_lt_base small]
        change (((hexValue? code.digitChar.toUpper).map (0 * 16 + ·)).bind some) = some code
        rw [hexValue?_digitChar small]
        simp
      · have large : 16 ≤ code := Nat.le_of_not_lt small
        have smaller : code / 16 < code := Nat.div_lt_self (by omega) (by norm_num)
        have digit : code % 16 < 16 := Nat.mod_lt _ (by norm_num)
        rw [Nat.toDigits_of_base_le (by norm_num) large, List.map_append, hexFrom?_append,
          ih _ smaller]
        change (((hexValue? (code % 16).digitChar.toUpper).map (code / 16 * 16 + ·)).bind some) =
          some code
        rw [hexValue?_digitChar digit, Option.map_some, Option.bind_some, Nat.div_add_mod' code 16]

theorem hexFrom?_replicate_zero (count : Nat) :
    hexFrom? 0 (List.replicate count '0') = some 0 := by
  induction count with
  | zero => rfl
  | succ count ih => exact ih

/-- A code in digits of a sufficient width is read back. -/
theorem hexFrom?_hexDigits (width code : Nat) : hexFrom? 0 (hexDigits width code) = some code := by
  unfold hexDigits
  rw [hexFrom?_append, hexFrom?_replicate_zero]
  exact hexFrom?_toDigits code

theorem length_hexDigits {width code : Nat} (positive : 0 < width) (fits : code < 16 ^ width) :
    (hexDigits width code).length = width := by
  have short := (Nat.length_toDigits_le_iff (by norm_num) positive).mpr fits
  unfold hexDigits
  rw [List.length_append, List.length_replicate, List.length_map]
  omega

theorem charOfCode?_toNat (c : Char) : charOfCode? c.toNat = some c := by
  have valid : c.toNat.isValidChar := c.valid
  unfold charOfCode?
  rw [dif_pos valid]
  rfl

theorem scanFrom_escapedCode {letter : Char} {width : Nat} {backslash : Mark}
    (noChar : escapedChar? letter = none) (wide : escapeWidth? letter = some width)
    (unbroken : isBreak letter = false) (positive : 0 < width) (fits : c.toNat < 16 ^ width) :
    scanFrom quote began (letter :: (hexDigits width c.toNat ++ rest)) mark (.escape backslash)
        pending done =
      scanFrom quote began rest (mark.past (letter :: hexDigits width c.toNat)) .text .empty
        (c :: done) := by
  have length := length_hexDigits positive fits
  have nonempty : hexDigits width c.toNat ≠ [] := List.length_pos_iff.mp (by omega)
  have read : scanFrom quote began (hexDigits width c.toNat ++ rest) (mark.next letter)
      (.code (hexDigits width c.toNat).length 0 (mark.next letter)) .empty done =
        scanFrom quote began rest ((mark.next letter).past (hexDigits width c.toNat)) .text .empty
          (c :: done) :=
    scanFrom_code nonempty (hexFrom?_hexDigits width c.toNat) (charOfCode?_toNat c)
  rw [length] at read
  rw [scanFrom_width noChar wide unbroken, read, Mark.past_cons unbroken]

theorem scanFrom_escaped (inside : 0 < mark.column)
    (escaped : (isPrintable c && !isBreak c && c != '"' && c != '\\') = false) :
    scanFrom .double began (doubleQuotedChar c ++ rest) mark .text pending done =
      scanFrom .double began rest (mark.past (doubleQuotedChar c)) .text .empty
        (c :: (pending.reversedText ++ done)) := by
  have bound : c.toNat < 2 ^ 32 := c.val.toNat_lt
  unfold doubleQuotedChar
  rw [escaped, if_neg Bool.false_ne_true]
  split
  · rename_i letter found
    obtain ⟨meant, ascii⟩ := escapedChar?_of_escapeLetter? found
    rw [List.cons_append, List.singleton_append, scanFrom_backslash inside,
      scanFrom_letter meant ascii.isBreak, Mark.past_cons rfl, Mark.past_cons ascii.isBreak,
      Mark.past_nil]
  · have code {letter : Char} {width : Nat} (noChar : escapedChar? letter = none)
        (wide : escapeWidth? letter = some width) (unbroken : isBreak letter = false)
        (positive : 0 < width) (fits : c.toNat < 16 ^ width) :
        scanFrom .double began (('\\' :: letter :: hexDigits width c.toNat) ++ rest) mark .text pending
            done =
          scanFrom .double began rest (mark.past ('\\' :: letter :: hexDigits width c.toNat)) .text
            .empty (c :: (pending.reversedText ++ done)) := by
      rw [List.cons_append, List.cons_append, scanFrom_backslash inside,
        scanFrom_escapedCode noChar wide unbroken positive fits]
      rfl
    split
    · exact code rfl rfl rfl (by norm_num) (by omega)
    · split
      · exact code rfl rfl rfl (by norm_num) (by omega)
      · exact code rfl rfl rfl (by norm_num) (by omega)

theorem isAscii_of_hexFrom? {digits : List Char} {before code : Nat}
    (read : hexFrom? before digits = some code) : ∀ d ∈ digits, IsAscii d := by
  induction digits generalizing before with
  | nil => exact nofun
  | cons digit digits ih =>
      unfold hexFrom? at read
      rw [List.foldlM_cons] at read
      obtain ⟨value, found, later⟩ := Option.bind_eq_some_iff.mp read
      obtain ⟨here, given, -⟩ := Option.map_eq_some_iff.mp found
      exact List.forall_mem_cons.mpr ⟨.of_hexValue? given, ih later⟩

theorem isAscii_hexDigits (width code : Nat) : ∀ d ∈ hexDigits width code, IsAscii d :=
  isAscii_of_hexFrom? (hexFrom?_hexDigits width code)

theorem doubleQuotedChar_ne_nil (c : Char) : doubleQuotedChar c ≠ [] := by
  unfold doubleQuotedChar
  split
  · exact nofun
  · split
    · exact nofun
    · split
      · exact nofun
      · split
        · exact nofun
        · exact nofun

/-- Between double quotes, a character stands for itself or is escaped by visible characters. -/
theorem written_doubleQuotedChar (c : Char) :
    doubleQuotedChar c = [c] ∧ isPrintable c = true ∧ isBreak c = false ∨
      (∀ d ∈ doubleQuotedChar c, IsAscii d) ∧ (doubleQuotedChar c).length ≤ 6 * c.utf8Size := by
  have positive := c.utf8Size_pos
  have code {letter : Char} (ascii : IsAscii letter) (width : Nat) :
      ∀ d ∈ '\\' :: letter :: hexDigits width c.toNat, IsAscii d :=
    List.forall_mem_cons.mpr ⟨by decide, List.forall_mem_cons.mpr ⟨ascii, isAscii_hexDigits _ _⟩⟩
  unfold doubleQuotedChar
  split
  · rename_i itself
    simp only [Bool.and_eq_true, Bool.not_eq_true'] at itself
    exact .inl ⟨rfl, itself.1.1⟩
  · right
    split
    · rename_i letter found
      refine ⟨List.forall_mem_cons.mpr ⟨by decide, List.forall_mem_singleton.mpr ?_⟩, ?_⟩
      · exact (escapedChar?_of_escapeLetter? found).2
      · change 2 ≤ _
        omega
    · split
      · rename_i small
        refine ⟨code (by decide) 2, ?_⟩
        rw [List.length_cons, List.length_cons, length_hexDigits (by decide) (by omega)]
        omega
      · split
        · refine ⟨code (by decide) 4, ?_⟩
          rw [List.length_cons, List.length_cons, length_hexDigits (by decide) (by omega)]
          omega
        · rename_i large
          have bound : c.toNat < 2 ^ 32 := c.val.toNat_lt
          have size : c.utf8Size = 4 :=
            Char.utf8Size_eq_four_iff.mpr (UInt32.lt_iff_toNat_lt.mpr (Nat.lt_of_not_le large))
          refine ⟨code (by decide) 8, ?_⟩
          rw [List.length_cons, List.length_cons, length_hexDigits (by decide) (by omega), size]
          decide

/-- Nothing between double quotes is a line break. -/
theorem unbroken_doubleQuotedChar (c : Char) : ∀ d ∈ doubleQuotedChar c, isBreak d = false := by
  rcases written_doubleQuotedChar c with ⟨itself, -, unbroken⟩ | ⟨ascii, -⟩
  · rw [itself]
    exact List.forall_mem_singleton.mpr unbroken
  · exact fun d found => (ascii d found).isBreak

theorem eq_cons_of_doubleQuoted {text tail others : List Char}
    (begins : text.flatMap doubleQuotedChar ++ '"' :: tail = '\'' :: others) :
    ∃ later, text = '\'' :: later := by
  cases text with
  | nil => cases begins
  | cons d later =>
      rw [List.flatMap_cons] at begins
      unfold doubleQuotedChar at begins
      split at begins
      · cases begins
        exact ⟨later, rfl⟩
      · split at begins
        · cases begins
        · split at begins
          · cases begins
          · split at begins
            · cases begins
            · cases begins

theorem behind_past (mark : Mark) {text : List Char} (nonempty : text ≠ [])
    (unbroken : ∀ c ∈ text, isBreak c = false) : 0 < (mark.past text).column := by
  rw [Mark.past_unbroken unbroken]
  exact Nat.add_pos_right _ (List.length_pos_iff.mpr nonempty)

/-- Spaces are kept, since there is no line break; two single quotes are read at once. -/
theorem scanFrom_doubleQuoted (text : List Char) {mark : Mark} {pending : Folding}
    {done tail : List Char} (intact : pending.broken = false) (inside : 0 < mark.column) :
    scanFrom .double began (text.flatMap doubleQuotedChar ++ '"' :: tail) mark .text pending done =
      .ok ⟨(text.reverse ++ (pending.reversedText ++ done)).reverse,
        ⟨tail, mark.past (text.flatMap doubleQuotedChar ++ ['"'])⟩⟩ := by
  cases text with
  | nil => exact scanFrom_close inside nofun
  | cons c rest =>
      cases escaped : isPrintable c && !isBreak c && c != '"' && c != '\\' with
      | false =>
          have column := behind_past mark (doubleQuotedChar_ne_nil c) (unbroken_doubleQuotedChar c)
          rw [List.flatMap_cons, List.append_assoc, List.append_assoc,
            scanFrom_escaped inside escaped, scanFrom_doubleQuoted rest rfl column,
            Mark.past_append mark, reversedText_empty]
          simp
      | true =>
          have itself : doubleQuotedChar c = [c] := by
            unfold doubleQuotedChar
            rw [escaped, if_pos rfl]
          simp only [Bool.and_eq_true, Bool.not_eq_true', bne_iff_ne] at escaped
          obtain ⟨⟨⟨printable, unbroken⟩, noQuote⟩, noBackslash⟩ := escaped
          have column : 0 < (mark.next c).column := Nat.succ_pos _
          rw [List.flatMap_cons, itself, List.append_assoc, List.append_assoc, List.singleton_append,
            List.singleton_append, Mark.past_cons unbroken]
          by_cases space : c = ' '
          · subst space
            obtain ⟨still, kept⟩ := Folding.addBlank_intact intact ' '
            rw [scanFrom_space, scanFrom_doubleQuoted rest still column, kept]
            simp
          · by_cases pair : c = '\'' ∧ ∃ others, rest = '\'' :: others
            · obtain ⟨rfl, others, rfl⟩ := pair
              have columnPair : 0 < (mark.past ['\'', '\'']).column := Nat.succ_pos _
              have quote : doubleQuotedChar '\'' = ['\''] := rfl
              rw [List.flatMap_cons, quote, List.append_assoc, List.append_assoc,
                List.singleton_append, List.singleton_append, scanFrom_pair_double,
                scanFrom_doubleQuoted others rfl columnPair, Mark.past_cons rfl, reversedText_empty]
              simp
              rfl
            · have noPair : ∀ others, c = '\'' →
                  rest.flatMap doubleQuotedChar ++ '"' :: tail = '\'' :: others → False :=
                fun others quote begins => pair ⟨quote, eq_cons_of_doubleQuoted begins⟩
              have noClose : c ≠ Quote.double.char := noQuote
              rw [scanFrom_char (isBlank_eq_false printable space) unbroken inside noPair noClose
                fun _ => noBackslash, scanFrom_doubleQuoted rest rfl column, reversedText_empty]
              simp

/-- A text between double quotes is read back. -/
theorem scan_doubleQuoted (text tail : List Char) :
    scan .double ⟨'"' :: text.flatMap doubleQuotedChar ++ '"' :: tail, mark⟩ =
      .ok ⟨text, ⟨tail, mark.past ('"' :: text.flatMap doubleQuotedChar ++ ['"'])⟩⟩ := by
  have inside : 0 < (mark.next '"').column := Nat.succ_pos _
  change scanFrom .double mark (text.flatMap doubleQuotedChar ++ '"' :: tail) (mark.next '"') .text
    .empty [] = _
  rw [scanFrom_doubleQuoted text rfl inside, reversedText_empty, List.append_nil, List.append_nil,
    List.reverse_reverse, List.cons_append, Mark.past_cons rfl]

end Quoted

end TaggedConfig.Yaml
