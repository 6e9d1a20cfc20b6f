import TaggedConfig.Proofs.RoundTrip.PlainText

/-!
# Literal blocks that are read back

The header says how deep the lines are indented, where this cannot be seen from the first of them, and
what becomes of the line breaks at the end.  Every line of the text stands at the indentation, so that
the block ends with the next line, which does not.
-/

namespace TaggedConfig.Yaml.Block

open Writing

variable {indent : Nat} {began mark : Mark} {chomping : Chomping} {progress : Progress}
  {rest : List Char} {c : Char}

theorem contentLines_break_inLine (broken : isBreak c = true) (noReturn : c ≠ '\r') :
    contentLines false indent began chomping (c :: rest) mark true progress =
      contentLines false indent began chomping rest (mark.nextLine c.utf8Size) false
        { progress with lineBreak := some (breakText c) } := by
  conv_lhs => unfold contentLines
  simp [broken, noReturn]

theorem contentLines_char_inLine (unbroken : isBreak c = false) :
    contentLines false indent began chomping (c :: rest) mark true progress =
      contentLines false indent began chomping rest (mark.next c) true
        { progress with done := c :: progress.done } := by
  have noReturn := ne_of_isBreak_eq_false unbroken
  conv_lhs => unfold contentLines
  simp [unbroken, noReturn]

theorem contentLines_space (shallow : mark.column < indent) :
    contentLines false indent began chomping (' ' :: rest) mark false progress =
      contentLines false indent began chomping rest (mark.next ' ') false progress := by
  conv_lhs => unfold contentLines
  simp [shallow]

theorem contentLines_break (broken : isBreak c = true) (noReturn : c ≠ '\r') :
    contentLines false indent began chomping (c :: rest) mark false progress =
      contentLines false indent began chomping rest (mark.nextLine c.utf8Size) false
        { progress with emptyLines := breakText c :: progress.emptyLines } := by
  have noSpace : c ≠ ' ' := by
    rintro rfl
    cases broken
  have noTab : c ≠ '\t' := by
    rintro rfl
    cases broken
  conv_lhs => unfold contentLines
  simp [broken, noReturn, noSpace, noTab]

theorem contentLines_char (unbroken : isBreak c = false) (column : mark.column = indent) :
    contentLines false indent began chomping (c :: rest) mark false progress =
      contentLines false indent began chomping rest (mark.next c) true
        { progress.beginLine false (isBlank c) with
          done := c :: (progress.beginLine false (isBlank c)).done } := by
  have noReturn := ne_of_isBreak_eq_false unbroken
  conv_lhs => unfold contentLines
  simp [unbroken, noReturn, column]

theorem contentLines_ends (starts : StartsToken rest) (shallow : rest ≠ [] → mark.column < indent) :
    contentLines false indent began chomping rest mark false progress =
      .ok ⟨progress.finish chomping, ⟨rest, mark⟩⟩ := by
  cases rest with
  | nil => rfl
  | cons c rest =>
      obtain ⟨noBlank, unbroken, -⟩ := starts c rfl
      obtain ⟨noSpace, noTab⟩ := Bool.or_eq_false_iff.mp noBlank
      have less : mark.column < indent := shallow nofun
      have noReturn := ne_of_isBreak_eq_false unbroken
      conv_lhs => unfold contentLines
      simp [unbroken, noReturn, noSpace, noTab, less.ne]

theorem contentLines_indentation {count : Nat} (fits : mark.column + count ≤ indent) :
    contentLines false indent began chomping (indentation count ++ rest) mark false progress =
      contentLines false indent began chomping rest (mark.past (indentation count)) false progress := by
  induction count generalizing mark with
  | zero => rfl
  | succ count ih =>
      have spaces : indentation (count + 1) = ' ' :: indentation count := rfl
      have column : (mark.next ' ').column = mark.column + 1 := rfl
      rw [spaces, List.cons_append, contentLines_space (by omega), ih (by omega), Mark.past_cons rfl]

structure Progress.Holds (progress : Progress) (inLine : Bool) (text : List Char) : Prop where
  total : progress.emptyLines ++ (progress.lineBreak.toList ++ progress.done) = text.reverse
  line : inLine = true → progress.lineBreak = none ∧ progress.emptyLines = []
  last : ∀ c ∈ text.getLast?, isBreak c = !inLine
  single : progress.emptyLines ≠ [] → text.reverse.tail.head?.all isBreak = true

theorem Progress.holds_nil : (⟨[], none, [], false⟩ : Progress).Holds false [] :=
  ⟨rfl, nofun, nofun, fun none => absurd rfl none⟩

namespace Progress.Holds

variable {inLine : Bool} {text : List Char}

theorem break_inLine (holds : progress.Holds true text) (broken : isBreak c = true) :
    ({ progress with lineBreak := some c } : Progress).Holds false (text ++ [c]) := by
  obtain ⟨noBreak, noEmpty⟩ := holds.line rfl
  have total := holds.total
  rw [noBreak, noEmpty] at total
  refine ⟨?_, nofun, ?_, fun some => absurd noEmpty some⟩
  · rw [List.reverse_append, ← total, noEmpty]
    rfl
  · rw [List.getLast?_append]
    rintro d ⟨⟩
    exact broken

theorem char_inLine (holds : progress.Holds true text) (unbroken : isBreak c = false) :
    ({ progress with done := c :: progress.done } : Progress).Holds true (text ++ [c]) := by
  obtain ⟨noBreak, noEmpty⟩ := holds.line rfl
  have total := holds.total
  rw [noBreak, noEmpty] at total
  refine ⟨?_, fun _ => ⟨noBreak, noEmpty⟩, ?_, fun some => absurd noEmpty some⟩
  · rw [List.reverse_append, ← total, noEmpty, noBreak]
    rfl
  · rw [List.getLast?_append]
    rintro d ⟨⟩
    exact unbroken

theorem emptyLine (holds : progress.Holds false text) (broken : isBreak c = true) :
    ({ progress with emptyLines := c :: progress.emptyLines } : Progress).Holds false
      (text ++ [c]) := by
  refine ⟨?_, nofun, ?_, fun _ => ?_⟩
  · rw [List.reverse_append, ← holds.total]
    rfl
  · rw [List.getLast?_append]
    rintro d ⟨⟩
    exact broken
  · rw [List.reverse_append, List.reverse_singleton, List.singleton_append, List.tail_cons,
      List.head?_reverse]
    cases last : text.getLast? with
    | none => rfl
    | some d => exact holds.last d last

theorem beginLine (holds : progress.Holds false text) (unbroken : isBreak c = false) (blank : Bool) :
    ({ progress.beginLine false blank with
        done := c :: (progress.beginLine false blank).done } : Progress).Holds true (text ++ [c]) := by
  have total := holds.total
  refine ⟨?_, fun _ => ⟨rfl, rfl⟩, ?_, fun some => absurd rfl some⟩
  · rw [List.reverse_append, ← total]
    rfl
  · rw [List.getLast?_append]
    rintro d ⟨⟩
    exact unbroken

end Progress.Holds

/-- A line break that may be written is kept. -/
theorem breakText_eq (broken : isBreak c = true) (printable : isPrintable c = true) :
    breakText c = c ∧ c ≠ '\r' := by
  unfold isBreak at broken
  simp only [Bool.or_eq_true, beq_iff_eq] at broken
  rcases broken with (((rfl | rfl) | rfl) | rfl) | rfl
  · exact ⟨rfl, nofun⟩
  · cases printable
  · cases printable
  · exact ⟨rfl, nofun⟩
  · exact ⟨rfl, nofun⟩

theorem contentLines_literalLines {text before tail : List Char} {inLine : Bool}
    (printable : ∀ c ∈ text, isPrintable c = true) (holds : progress.Holds inLine before)
    (column : inLine = false → mark.column = 0) :
    ∃ (stays : Bool) (read : Progress), read.Holds stays (before ++ text) ∧
      (stays = false → (mark.past (literalLines indent (!inLine) text)).column = 0) ∧
      contentLines false indent began chomping (literalLines indent (!inLine) text ++ tail) mark inLine
          progress =
        contentLines false indent began chomping tail (mark.past (literalLines indent (!inLine) text))
          stays read := by
  induction text generalizing mark progress before inLine with
  | nil =>
      rw [List.append_nil]
      exact ⟨inLine, progress, holds, column, rfl⟩
  | cons c text ih =>
      obtain ⟨printableHere, printableLater⟩ := List.forall_mem_cons.mp printable
      have parts : before ++ c :: text = before ++ [c] ++ text := by simp
      rw [parts]
      unfold literalLines
      cases broken : isBreak c with
      | true =>
          obtain ⟨kept, noReturn⟩ := breakText_eq broken printableHere
          have place : (mark.nextLine c.utf8Size).column = 0 := rfl
          rw [if_pos rfl, List.cons_append, Mark.past_cons_break broken]
          cases inLine with
          | true =>
              obtain ⟨stays, read, reads, atStart, same⟩ :=
                ih printableLater (holds.break_inLine broken) fun _ => place
              refine ⟨stays, read, reads, atStart, ?_⟩
              rw [contentLines_break_inLine broken noReturn, kept]
              exact same
          | false =>
              obtain ⟨stays, read, reads, atStart, same⟩ :=
                ih printableLater (holds.emptyLine broken) fun _ => place
              refine ⟨stays, read, reads, atStart, ?_⟩
              rw [contentLines_break broken noReturn, kept]
              exact same
      | false =>
          rw [if_neg Bool.false_ne_true]
          cases inLine with
          | true =>
              have inside : true = false → (mark.next c).column = 0 := nofun
              obtain ⟨stays, read, reads, atStart, same⟩ :=
                ih printableLater (holds.char_inLine broken) inside
              change ∃ stays read, _ ∧
                (_ → (mark.past (c :: literalLines indent (!true) text)).column = 0) ∧
                  contentLines _ _ _ _ (c :: (literalLines indent (!true) text ++ tail)) _ _ _ =
                    contentLines _ _ _ _ _ (mark.past (c :: literalLines indent (!true) text)) _ _
              rw [Mark.past_cons broken, contentLines_char_inLine broken]
              exact ⟨stays, read, reads, atStart, same⟩
          | false =>
              have atStart := column rfl
              have start : mark.column + indent ≤ indent := by omega
              have reached : (mark.past (indentation indent)).column = indent := by
                rw [Mark.column_past_indentation, atStart, Nat.zero_add]
              have inside : true = false → ((mark.past (indentation indent)).next c).column = 0 := nofun
              obtain ⟨stays, read, reads, atStart, same⟩ :=
                ih printableLater (holds.beginLine broken (isBlank c)) inside
              change ∃ stays read, _ ∧
                (_ → (mark.past (indentation indent ++ c :: literalLines indent (!true) text)).column =
                  0) ∧ contentLines _ _ _ _
                    ((indentation indent ++ c :: literalLines indent (!true) text) ++ tail) _ _ _ =
                      contentLines _ _ _ _ _
                        (mark.past (indentation indent ++ c :: literalLines indent (!true) text)) _ _
              rw [List.append_assoc (indentation indent), Mark.past_append, Mark.past_cons broken,
                contentLines_indentation start, List.cons_append, contentLines_char broken reached]
              exact ⟨stays, read, reads, atStart, same⟩

def chompingOf (text : List Char) : Chomping :=
  match text.reverse with
  | [] => .strip
  | last :: before =>
      if !isBreak last then .strip else if before.head?.all isBreak then .keep else .clip

namespace Progress.Holds

variable {text : List Char}

/-- A text without a line break at its end is left without one. -/
theorem finish_inLine (holds : progress.Holds true text) :
    ({ progress with lineBreak := some '\n' } : Progress).finish (chompingOf text) = text := by
  obtain ⟨noBreak, noEmpty⟩ := holds.line rfl
  have total := holds.total
  rw [noBreak, noEmpty] at total
  have done : progress.done = text.reverse := total
  have strip : chompingOf text = .strip := by
    unfold chompingOf
    cases reversed : text.reverse with
    | nil => rfl
    | cons last before =>
        have found : text.getLast? = some last := by
          rw [← List.head?_reverse, reversed]
          rfl
        dsimp only
        rw [holds.last last found]
        rfl
  rw [strip]
  change progress.done.reverse = text
  rw [done, List.reverse_reverse]

/-- The line breaks at the end of a text are kept. -/
theorem finish_atStart (holds : progress.Holds false text) (nonempty : text ≠ []) :
    progress.finish (chompingOf text) = text := by
  have total := holds.total
  have single := holds.single
  unfold chompingOf
  cases reversed : text.reverse with
  | nil => exact absurd (List.reverse_eq_nil_iff.mp reversed) nonempty
  | cons last before =>
      have found : text.getLast? = some last := by
        rw [← List.head?_reverse, reversed]
        rfl
      rw [reversed, List.tail_cons] at single
      dsimp only
      rw [holds.last last found]
      cases all : before.head?.all isBreak with
      | true =>
          change (progress.emptyLines ++ (progress.lineBreak.toList ++ progress.done)).reverse = text
          rw [total, List.reverse_reverse]
      | false =>
          have noEmpty : progress.emptyLines = [] := by
            by_contra some
            rw [single some] at all
            cases all
          rw [noEmpty] at total
          change (progress.lineBreak.toList ++ progress.done).reverse = text
          exact (congrArg List.reverse total).trans (List.reverse_reverse text)

end Progress.Holds

def incrementOf (text : List Char) : Nat := if text.head?.any isEdgeGap then 2 else 0

theorem header_eq (text rest : List Char) :
    header began ⟨indentationHint text ++ chompingHint text ++ '\n' :: rest, mark⟩ =
      .ok (⟨chompingOf text, incrementOf text⟩,
        ⟨'\n' :: rest, mark.past (indentationHint text ++ chompingHint text)⟩) := by
  have signs : ∃ sign : List Char, ∃ chomping : Chomping, chompingHint text = sign ∧
      chompingOf text = chomping ∧ ((sign = ['-'] ∧ chomping = .strip) ∨
        (sign = ['+'] ∧ chomping = .keep) ∨ (sign = [] ∧ chomping = .clip)) := by
    refine ⟨_, _, rfl, rfl, ?_⟩
    unfold chompingHint chompingOf
    cases text.reverse with
    | nil => exact .inl ⟨rfl, rfl⟩
    | cons last before =>
        dsimp only
        split
        · exact .inl ⟨rfl, rfl⟩
        · split
          · exact .inr (.inl ⟨rfl, rfl⟩)
          · exact .inr (.inr ⟨rfl, rfl⟩)
  obtain ⟨sign, chomping, hint, meaning, cases⟩ := signs
  rw [hint, meaning]
  unfold indentationHint incrementOf
  split
  · rcases cases with ⟨rfl, rfl⟩ | ⟨rfl, rfl⟩ | ⟨rfl, rfl⟩
    · rfl
    · rfl
    · rfl
  · rcases cases with ⟨rfl, rfl⟩ | ⟨rfl, rfl⟩ | ⟨rfl, rfl⟩
    · rfl
    · rfl
    · rfl

/-- The indentation of a first line that begins with a character is seen from this line. -/
theorem leadingLines_indentation {count : Nat} (noBlank : isBlank c = false)
    (unbroken : isBreak c = false) :
    leadingLines began (indentation count ++ c :: rest) mark 0 [] =
      .ok ⟨[], (mark.past (indentation count)).column,
        ⟨c :: rest, mark.past (indentation count)⟩⟩ := by
  induction count generalizing mark with
  | zero =>
      obtain ⟨noSpace, noTab⟩ := Bool.or_eq_false_iff.mp noBlank
      have noReturn := ne_of_isBreak_eq_false unbroken
      change leadingLines began (c :: rest) mark 0 [] = _
      conv_lhs => unfold leadingLines
      simp [unbroken, noReturn, noSpace, noTab, indentation]
  | succ count ih =>
      have spaces : indentation (count + 1) = ' ' :: indentation count := rfl
      rw [spaces, List.cons_append, Mark.past_cons rfl, ← ih]
      conv_lhs => unfold leadingLines
      simp

theorem getLast?_literalLines (indent : Nat) {text : List Char} (nonempty : text ≠ [])
    (atLineStart : Bool) : (literalLines indent atLineStart text).getLast? = text.getLast? := by
  induction text generalizing atLineStart with
  | nil => contradiction
  | cons c text ih =>
      have whole (before : List Char) (atStart : Bool) :
          (before ++ c :: literalLines indent atStart text).getLast? = (c :: text).getLast? := by
        cases text with
        | nil => simp [literalLines]
        | cons d text =>
            have later := ih nofun atStart
            rw [List.getLast?_append, List.getLast?_cons, List.getLast?_cons, later,
              List.getLast?_cons]
            rfl
      unfold literalLines
      split
      · exact whole [] true
      · exact whole _ false

theorem endLine_literal (indent : Nat) {text : List Char} (nonempty : text ≠ []) :
    endLine (literal indent text) =
      literal indent text ++ if text.getLast?.any isBreak then [] else ['\n'] := by
  have last : (literal indent text).getLast? = text.getLast? := by
    have some : literalLines indent true text ≠ [] := by
      intro none
      have same := getLast?_literalLines indent nonempty true
      rw [none] at same
      exact nonempty (List.getLast?_eq_none_iff.mp same.symm)
    unfold literal
    rw [List.getLast?_append, List.getLast?_cons, getLast?_literalLines indent nonempty]
    cases found : text.getLast? with
    | none => exact absurd (List.getLast?_eq_none_iff.mp found) nonempty
    | some c => rfl
  unfold endLine
  rw [last]
  split
  · rw [List.append_nil]
  · rfl

/-- The next line, which is not indented as deep, ends the block. -/
theorem contentLines_nextLine {depth : Nat} {tail : List Char} (starts : StartsToken tail)
    (column : mark.column = 0) (shallow : depth < indent) :
    contentLines false indent began chomping (indentation depth ++ tail) mark false progress =
      .ok ⟨progress.finish chomping, ⟨tail, mark.past (indentation depth)⟩⟩ := by
  have reached : (mark.past (indentation depth)).column = depth := by
    rw [Mark.column_past_indentation, column, Nat.zero_add]
  have outside : (mark.past (indentation depth)).column < indent := reached.symm ▸ shallow
  rw [contentLines_indentation (by omega), contentLines_ends starts fun _ => outside]

variable (began) in
/-- The content of a block, from the beginning of its first line on. -/
theorem contentLines_text {depth : Nat} {text tail : List Char} (nonempty : text ≠ [])
    (printable : ∀ c ∈ text, isPrintable c = true) (column : mark.column = 0)
    (starts : StartsToken tail) (shallow : depth < indent) :
    contentLines false indent began (chompingOf text)
        (literalLines indent true text ++
          ((if text.getLast?.any isBreak then [] else ['\n']) ++ (indentation depth ++ tail)))
        mark false ⟨[], none, [], false⟩ =
      .ok ⟨text, ⟨tail, mark.past (literalLines indent true text ++
        ((if text.getLast?.any isBreak then [] else ['\n']) ++ indentation depth))⟩⟩ := by
  obtain ⟨stays, read, holds, atStart, same⟩ :=
    contentLines_literalLines printable Progress.holds_nil fun _ => column
  rw [List.nil_append] at holds
  have last : text.getLast?.any isBreak = !stays := by
    cases found : text.getLast? with
    | none => exact absurd (List.getLast?_eq_none_iff.mp found) nonempty
    | some c => exact holds.last c found
  refine same.trans ?_
  rw [last, Mark.past_append]
  cases stays with
  | true =>
      have place : ((mark.past (literalLines indent (!false) text)).nextLine '\n'.utf8Size).column =
          0 := rfl
      change contentLines _ _ _ _ ('\n' :: (indentation depth ++ tail)) _ true read =
        .ok ⟨text, ⟨tail, Mark.past _ ('\n' :: indentation depth)⟩⟩
      rw [contentLines_break_inLine rfl (by decide), Mark.past_cons_break rfl]
      have whole : ({ read with lineBreak := some (breakText '\n') } : Progress).finish
          (chompingOf text) = text := holds.finish_inLine
      rw [contentLines_nextLine starts place shallow, whole]
      rfl
  | false =>
      change contentLines _ _ _ _ (indentation depth ++ tail) _ false read =
        .ok ⟨text, ⟨tail, Mark.past _ (indentation depth)⟩⟩
      rw [contentLines_nextLine starts (atStart rfl) shallow, holds.finish_atStart nonempty]
      rfl

/-- What the header of a block says about its content. -/
theorem scan_header (parent : Int) (text body : List Char) :
    scan false parent
        ⟨'|' :: (indentationHint text ++ chompingHint text ++ '\n' :: body), mark⟩ =
      (let place :=
        ((mark.next '|').past (indentationHint text ++ chompingHint text)).nextLine 1
      if 0 < incrementOf text then
        contentLines false (parent.toNat + incrementOf text) mark (chompingOf text) body place false
          ⟨[], none, [], false⟩
      else
        leadingLines mark body place 0 [] >>= fun leading =>
          contentLines false (max leading.widest (max (parent + 1).toNat 1)) mark (chompingOf text)
            leading.after.rest leading.after.mark false ⟨[], none, leading.breaks, false⟩) := by
  unfold scan
  change header mark ⟨_, mark.next '|'⟩ >>= _ = _
  rw [header_eq]
  rfl

theorem incrementOf_eq_two {text : List Char} (hinted : 0 < incrementOf text) :
    incrementOf text = 2 := by
  unfold incrementOf at hinted ⊢
  split at hinted
  · rename_i edge
    rw [if_pos edge]
  · cases hinted

theorem isEdgeGap_eq_false {text : List Char} (plain : ¬0 < incrementOf (c :: text)) :
    isEdgeGap c = false := by
  cases edge : isEdgeGap c with
  | false => rfl
  | true =>
      have hinted : incrementOf (c :: text) = 2 := if_pos edge
      rw [hinted] at plain
      exact absurd Nat.two_pos plain

/-- Where the header does not give the indentation, the first line shows it. -/
theorem leadingLines_contentLines {least : Nat} {text tail : List Char}
    (edge : isEdgeGap c = false) (printable : isPrintable c = true) (column : mark.column = 0)
    (deep : max indent least = indent) :
    (leadingLines began (literalLines indent true (c :: text) ++ tail) mark 0 [] >>=
        fun leading => contentLines false (max leading.widest least) began chomping
          leading.after.rest leading.after.mark false ⟨[], none, leading.breaks, false⟩) =
      contentLines false indent began chomping (literalLines indent true (c :: text) ++ tail) mark
        false ⟨[], none, [], false⟩ := by
  obtain ⟨noSpace, unbroken⟩ := Bool.or_eq_false_iff.mp edge
  have noBlank := isBlank_eq_false printable (beq_eq_false_iff_ne.mp noSpace)
  have lines : literalLines indent true (c :: text) =
      indentation indent ++ c :: literalLines indent false text := by
    conv_lhs => unfold literalLines
    rw [unbroken]
    rfl
  have start : mark.column + indent ≤ indent := by omega
  have widest : (mark.past (indentation indent)).column = indent := by
    rw [Mark.column_past_indentation, column, Nat.zero_add]
  rw [lines, List.append_assoc, contentLines_indentation start, List.cons_append,
    leadingLines_indentation noBlank unbroken, widest]
  change contentLines _ (max indent least) _ _ _ _ _ _ = _
  rw [deep]

variable (indent) in
theorem endLine_literal_append (mark : Mark) {text : List Char} (nonempty : text ≠ []) :
    let place := ((mark.next '|').past (indentationHint text ++ chompingHint text)).nextLine 1
    let body (rest : List Char) := literalLines indent true text ++
      ((if text.getLast?.any isBreak then [] else ['\n']) ++ rest)
    ∀ rest, endLine (literal indent text) ++ rest =
        '|' :: (indentationHint text ++ chompingHint text ++ '\n' :: body rest) ∧
      mark.past (endLine (literal indent text) ++ rest) = place.past (body rest) := by
  intro place body rest
  have written : endLine (literal indent text) ++ rest =
      '|' :: (indentationHint text ++ chompingHint text ++ '\n' :: body rest) := by
    rw [endLine_literal indent nonempty]
    unfold literal
    simp only [body, List.cons_append, List.append_assoc]
  refine ⟨written, ?_⟩
  rw [written, Mark.past_cons rfl, Mark.past_append, Mark.past_cons_break rfl]
  rfl

/-- A literal block is read back. -/
theorem scan_literal {depth : Nat} {parent : Int} {text tail : List Char}
    (nonempty : text ≠ []) (allowed : allowsLiteral text = true)
    (deeper : parent.toNat + 2 = indent) (starts : StartsToken tail) (shallow : depth < indent) :
    scan false parent ⟨endLine (literal indent text) ++ (indentation depth ++ tail), mark⟩ =
      .ok ⟨text, ⟨tail, mark.past (endLine (literal indent text) ++ indentation depth)⟩⟩ := by
  unfold allowsLiteral needsEscapes at allowed
  simp only [Bool.and_eq_true, Bool.not_eq_true', Bool.or_eq_false_iff, List.any_eq_false] at allowed
  have printable : ∀ c ∈ text, isPrintable c = true :=
    fun c found => by simpa using allowed.1.2 c found
  let place := ((mark.next '|').past (indentationHint text ++ chompingHint text)).nextLine 1
  have column : place.column = 0 := rfl
  have content := contentLines_text mark nonempty printable column starts shallow
  have parts := endLine_literal_append indent mark nonempty
  rw [(parts _).1, (parts _).2, scan_header]
  dsimp only
  split
  · rename_i hinted
    rw [incrementOf_eq_two hinted, deeper]
    exact content
  · rename_i plain
    obtain ⟨c, rest, rfl⟩ := List.exists_cons_of_ne_nil nonempty
    have deep : max indent (max (parent + 1).toNat 1) = indent := by omega
    rw [leadingLines_contentLines (isEdgeGap_eq_false plain) (printable c List.mem_cons_self) column
      deep]
    exact content

end TaggedConfig.Yaml.Block
