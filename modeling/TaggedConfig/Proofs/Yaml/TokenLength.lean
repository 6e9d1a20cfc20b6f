import TaggedConfig.Proofs.Fallible
import TaggedConfig.Yaml.Token.Lexer

/-!
# The length of scalars in tokens

A scalar is made from characters that are read, and none of them counts twice: an escape is longer
than what it stands for, and a fold is no longer than the line breaks that it replaces.  So no scalar
among the tokens of a text is longer than the text.
-/

namespace TaggedConfig.Yaml

namespace Cursor

theorem skip_suffix (cursor : Cursor) : cursor.skip.rest <:+ cursor.rest := by
  unfold skip
  split
  · exact List.suffix_rfl
  · rename_i c rest same
    rw [same]
    exact List.suffix_cons c rest

theorem skipMany_suffix (cursor : Cursor) (count : Nat) :
    (cursor.skipMany count).rest <:+ cursor.rest :=
  List.drop_suffix count _

theorem span_suffix (cursor : Cursor) (wanted : Char → Bool) :
    (cursor.span wanted).2.rest <:+ cursor.rest :=
  List.dropWhile_suffix wanted

theorem skipWhile_suffix (cursor : Cursor) (wanted : Char → Bool) :
    (cursor.skipWhile wanted).rest <:+ cursor.rest :=
  cursor.span_suffix wanted

end Cursor

namespace Tag

theorem scanUri_suffix {verbatim : Bool} {context : Context} {began : Mark}
    {rest : List Char} {mark : Mark} {awaited : Nat} {done octets : List UInt8} {after : Cursor}
    (found : scanUri verbatim context began rest mark awaited done = .ok (octets, after)) :
    after.rest <:+ rest := by
  fun_induction scanUri verbatim context began rest mark awaited done <;>
    grind [List.suffix_cons_iff]

theorem uri_suffix {verbatim : Bool} {context : Context} {began : Mark}
    {before : List Char} {cursor after : Cursor} {octets : List UInt8}
    (found : uri verbatim context began before cursor = .ok (octets, after)) :
    after.rest <:+ cursor.rest := by
  obtain ⟨⟨read, stop⟩, scanned, found⟩ := exists_of_bind_eq_ok found
  refine of_ite_eq_ok found nofun fun same => ?_
  cases same
  exact scanUri_suffix scanned

theorem handle_suffix (cursor : Cursor) : (handle cursor).2.rest <:+ cursor.rest := by
  have name := (cursor.skip.span_suffix isNameChar).trans cursor.skip_suffix
  unfold handle
  dsimp only
  split
  · exact (Cursor.skip_suffix _).trans name
  · exact name

theorem scan_suffix {inFlow : Bool} {cursor after : Cursor} {handle : List Char}
    {suffix : List UInt8} (found : scan inFlow cursor = .ok (handle, suffix, after)) :
    after.rest <:+ cursor.rest := by
  have ends {readHandle : List Char} {readSuffix : List UInt8} {stop : Cursor}
      (kept : stop.rest <:+ cursor.rest)
      (found : (if !(inFlow && stop.rest.head? == some ',') && !startsWithGap stop.rest then
          throw (.within .tag cursor.mark .expectedGap stop.mark)
        else pure (readHandle, readSuffix, stop) : Except SyntaxError _) =
          .ok (handle, suffix, after)) : after.rest <:+ cursor.rest := by
    refine of_ite_eq_ok found nofun fun same => ?_
    cases same
    exact kept
  unfold scan at found
  dsimp only at found
  split at found
  · obtain ⟨⟨suffix, behind⟩, scanned, found⟩ := exists_of_bind_eq_ok found
    have inside := (uri_suffix scanned).trans (cursor.skipMany_suffix 2)
    refine of_ite_eq_ok found nofun fun found => ?_
    exact ends (behind.skip_suffix.trans inside) found
  · have named := handle_suffix cursor
    refine of_ite_eq_ok found (fun found => ?_) fun found => ?_
    · obtain ⟨⟨suffix, behind⟩, scanned, found⟩ := exists_of_bind_eq_ok found
      exact ends ((uri_suffix scanned).trans named) found
    · obtain ⟨⟨suffix, behind⟩, scanned, found⟩ := exists_of_bind_eq_ok found
      have kept := (uri_suffix scanned).trans named
      exact of_ite_eq_ok found (ends kept) (ends kept)

end Tag

namespace Anchor

theorem scan_suffix {context : Context} {cursor after : Cursor} {name : List Char}
    (found : scan context cursor = .ok (name, after)) : after.rest <:+ cursor.rest := by
  refine of_ite_eq_ok found nofun fun same => ?_
  cases same
  exact (cursor.skip.span_suffix isNameChar).trans cursor.skip_suffix

end Anchor

namespace Directive

theorem versionPart_suffix {began : Mark} {cursor after : Cursor} {value : Nat}
    (found : versionPart began cursor = .ok (value, after)) : after.rest <:+ cursor.rest := by
  refine of_ite_eq_ok found nofun fun found => ?_
  refine of_ite_eq_ok found nofun fun same => ?_
  cases same
  exact cursor.span_suffix Char.isDigit

theorem version_suffix {began : Mark} {cursor after : Cursor} {kind : TokenKind}
    (found : version began cursor = .ok (kind, after)) : after.rest <:+ cursor.rest := by
  obtain ⟨⟨major, dot⟩, readMajor, found⟩ := exists_of_bind_eq_ok found
  refine of_ite_eq_ok found nofun fun found => ?_
  obtain ⟨⟨minor, stop⟩, readMinor, same⟩ := exists_of_bind_eq_ok found
  cases same
  have behindDot := (versionPart_suffix readMinor).trans dot.skip_suffix
  exact behindDot.trans ((versionPart_suffix readMajor).trans (cursor.skipWhile_suffix isBlank))

theorem handleExpansion_suffix {began : Mark} {cursor after : Cursor}
    {kind : TokenKind} (found : handleExpansion began cursor = .ok (kind, after)) :
    after.rest <:+ cursor.rest := by
  have named := (Tag.handle_suffix (cursor.skipWhile isBlank)).trans
    (cursor.skipWhile_suffix isBlank)
  refine of_ite_eq_ok found nofun fun found => ?_
  refine of_ite_eq_ok found nofun fun found => ?_
  refine of_ite_eq_ok found nofun fun found => ?_
  obtain ⟨⟨expansion, stop⟩, scanned, found⟩ := exists_of_bind_eq_ok found
  refine of_ite_eq_ok found nofun fun same => ?_
  cases same
  have expanded := (Tag.uri_suffix scanned).trans (Cursor.skipWhile_suffix _ isBlank)
  exact expanded.trans named

theorem scan_suffix {cursor after : Cursor} {kind : TokenKind}
    (found : scan cursor = .ok (kind, after)) : after.rest <:+ cursor.rest := by
  have name := (cursor.skip.span_suffix isNameChar).trans cursor.skip_suffix
  refine of_ite_eq_ok found nofun fun found => ?_
  refine of_ite_eq_ok found nofun fun found => ?_
  refine of_ite_eq_ok found (fun found => ?_) fun found => ?_
  · exact (version_suffix found).trans name
  · refine of_ite_eq_ok found (fun found => ?_) nofun
    exact (handleExpansion_suffix found).trans name

end Directive

namespace Folding

def weight (pending : Folding) : Nat :=
  pending.blanks.length + pending.firstBreak.toList.length + pending.moreBreaks.length

@[simp, grind =] theorem weight_empty : empty.weight = 0 := rfl

@[simp, grind =] theorem weight_escapedBreak : escapedBreak.weight = 0 := rfl

theorem length_reversedText_le (pending : Folding) :
    pending.reversedText.length ≤ pending.weight := by
  have counts {c : Char} (same : pending.firstBreak = some c) :
      pending.firstBreak.toList.length = 1 := by
    rw [same]
    rfl
  unfold reversedText weight
  split
  · split
    · rename_i same
      have one := counts same
      split
      · rw [List.length_singleton]
        omega
      · omega
    · rename_i same
      have one := counts same
      rw [List.length_append, List.length_singleton]
      omega
    · omega
  · omega

/-- One more blank counts once, unless it does not count at all. -/
theorem weight_addBlank_le (pending : Folding) (c : Char) :
    (pending.addBlank c).weight ≤ pending.weight + 1 := by
  unfold addBlank weight
  split
  · omega
  · simp only [List.length_cons]
    omega

/-- One more break counts once, and the first one takes the place of the blanks before it. -/
theorem weight_addBreak_le (pending : Folding) (c : Char) :
    (pending.addBreak c).weight ≤ pending.weight + 1 := by
  unfold addBreak weight
  split
  · simp only [List.length_cons]
    omega
  · rw [Option.toList_some, List.length_singleton, List.length_nil]
    omega

grind_pattern length_reversedText_le => pending.reversedText
grind_pattern weight_addBlank_le => pending.addBlank c
grind_pattern weight_addBreak_le => pending.addBreak c

end Folding

namespace Plain

theorem length_scanFrom_le {inFlow : Bool} {indent : Nat} {began : Mark} {rest : List Char}
    {mark : Mark} {pending : Folding} {done : List Char} {scalar : Scalar}
    (found : scanFrom inFlow indent began rest mark pending done = .ok scalar) :
    scalar.text.length ≤ rest.length + pending.weight + done.length ∧
      scalar.after.rest.length ≤ rest.length := by
  fun_induction scanFrom inFlow indent began rest mark pending done <;> grind

theorem length_scan_le {inFlow : Bool} {indent : Nat} {cursor : Cursor} {scalar : Scalar}
    (found : scan inFlow indent cursor = .ok scalar) :
    scalar.text.length ≤ cursor.rest.length ∧ scalar.after.rest.length ≤ cursor.rest.length := by
  simpa using length_scanFrom_le found

end Plain

namespace Quoted

theorem length_scanFrom_le {quote : Quote} {began : Mark} {rest : List Char} {mark : Mark}
    {mode : Mode} {pending : Folding} {done : List Char} {scalar : Scalar}
    (found : scanFrom quote began rest mark mode pending done = .ok scalar) :
    scalar.text.length ≤ rest.length + pending.weight + done.length ∧
      scalar.after.rest.length ≤ rest.length := by
  fun_induction scanFrom quote began rest mark mode pending done <;> grind

theorem length_scan_le {quote : Quote} {cursor : Cursor} {scalar : Scalar}
    (found : scan quote cursor = .ok scalar) :
    scalar.text.length ≤ cursor.rest.length ∧ scalar.after.rest.length ≤ cursor.rest.length := by
  obtain ⟨text, after⟩ := length_scanFrom_le found
  have opened := cursor.skip_suffix.length_le
  simp only [Folding.weight_empty, List.length_nil] at text
  exact ⟨by omega, by omega⟩

end Quoted

namespace Block

def Progress.weight (progress : Progress) : Nat :=
  progress.done.length + progress.lineBreak.toList.length + progress.emptyLines.length

theorem Progress.length_finish_le (progress : Progress) (chomping : Chomping) :
    (progress.finish chomping).length ≤ progress.weight := by
  unfold finish weight
  cases chomping <;> simp <;> omega

/-- A space stands for a line break, so that settling the breaks adds nothing. -/
theorem Progress.weight_beginLine_le (progress : Progress) (folds blank : Bool) :
    (progress.beginLine folds blank).weight ≤ progress.weight := by
  unfold beginLine weight
  dsimp only
  split
  · rename_i folded
    have broken : progress.lineBreak = some '\n' := by
      simp only [Bool.and_eq_true, beq_iff_eq] at folded
      exact folded.1.1.2
    rw [broken]
    split
    · simp only [List.length_cons, Option.toList_none, Option.toList_some, List.length_nil]
      omega
    · simp only [List.length_append, Option.toList_none, Option.toList_some, List.length_cons,
        List.length_nil]
      omega
  · simp only [List.length_append, Option.toList_none, List.length_nil]
    omega

theorem length_contentLines_le {folds : Bool} {indent : Nat} {began : Mark}
    {chomping : Chomping} {rest : List Char} {mark : Mark} {inLine : Bool} {progress : Progress}
    {scalar : Scalar}
    (found : contentLines folds indent began chomping rest mark inLine progress = .ok scalar) :
    scalar.text.length ≤ rest.length + progress.weight ∧
      scalar.after.rest.length ≤ rest.length := by
  fun_induction contentLines folds indent began chomping rest mark inLine progress <;>
    grind [Progress.length_finish_le, Progress.weight_beginLine_le, Progress.weight]

theorem length_leadingLines_le {began : Mark} {rest : List Char} {mark : Mark}
    {widest : Nat} {breaks : List Char} {leading : Leading}
    (found : leadingLines began rest mark widest breaks = .ok leading) :
    leading.breaks.length + leading.after.rest.length ≤ rest.length + breaks.length := by
  fun_induction leadingLines began rest mark widest breaks <;> grind

theorem length_increment_le {began : Mark} {cursor after : Cursor} {value : Nat}
    (found : increment began cursor = .ok (value, after)) :
    after.rest.length ≤ cursor.rest.length := by
  unfold increment at found
  split at found
  · cases found
  · refine of_ite_eq_ok found (fun same => ?_) fun same => ?_
    · cases same
      exact cursor.skip_suffix.length_le
    · cases same
      exact Nat.le_refl _
  · cases found
    exact Nat.le_refl _

theorem length_header_le {began : Mark} {cursor after : Cursor} {written : Header}
    (found : header began cursor = .ok (written, after)) :
    after.rest.length ≤ cursor.rest.length := by
  unfold header at found
  split at found
  · obtain ⟨⟨value, stop⟩, read, same⟩ := exists_of_bind_eq_ok found
    cases same
    exact Nat.le_trans (length_increment_le read) cursor.skip_suffix.length_le
  · obtain ⟨⟨value, stop⟩, read, found⟩ := exists_of_bind_eq_ok found
    have bound := length_increment_le read
    refine of_ite_eq_ok found (fun same => ?_) fun found => ?_
    · cases same
      exact bound
    · split at found
      · cases found
        exact Nat.le_trans stop.skip_suffix.length_le bound
      · cases found
        exact bound

theorem skipToLineEnd_suffix (cursor : Cursor) : (skipToLineEnd cursor).rest <:+ cursor.rest := by
  have blanks := cursor.skipWhile_suffix isBlank
  unfold skipToLineEnd
  dsimp only
  split
  · exact (Cursor.skipWhile_suffix _ _).trans blanks
  · exact blanks

theorem length_skipBreak_le (cursor : Cursor) :
    (skipBreak cursor).rest.length ≤ cursor.rest.length := by
  unfold skipBreak
  split
  · rename_i same
    simp only [same, List.length_cons]
    omega
  · rename_i same
    split
    · simp only [same, List.length_cons]
      omega
    · exact Nat.le_refl _
  · exact Nat.le_refl _

theorem length_scan_le {folds : Bool} {parent : Int} {cursor : Cursor} {scalar : Scalar}
    (found : scan folds parent cursor = .ok scalar) :
    scalar.text.length ≤ cursor.rest.length ∧ scalar.after.rest.length ≤ cursor.rest.length := by
  obtain ⟨⟨written, headed⟩, read, found⟩ := exists_of_bind_eq_ok found
  have before : (skipBreak (skipToLineEnd headed)).rest.length ≤ cursor.rest.length :=
    calc (skipBreak (skipToLineEnd headed)).rest.length
        ≤ (skipToLineEnd headed).rest.length := length_skipBreak_le _
      _ ≤ headed.rest.length := (skipToLineEnd_suffix headed).length_le
      _ ≤ cursor.skip.rest.length := length_header_le read
      _ ≤ cursor.rest.length := cursor.skip_suffix.length_le
  refine of_ite_eq_ok found nofun fun found => ?_
  refine of_ite_eq_ok found (fun found => ?_) fun found => ?_
  · obtain ⟨text, after⟩ := length_contentLines_le found
    exact ⟨Nat.le_trans text before, Nat.le_trans after before⟩
  · obtain ⟨leading, led, found⟩ := exists_of_bind_eq_ok found
    have breaks := length_leadingLines_le led
    obtain ⟨text, after⟩ := length_contentLines_le found
    simp only [Progress.weight, List.length_nil, Option.toList_none] at text breaks
    exact ⟨by omega, by omega⟩

end Block

def TokenKind.Within (size : Nat) : TokenKind → Prop
  | .scalar text _ => text.length ≤ size
  | _ => True

theorem TokenKind.Within.mono {small large : Nat} {kind : TokenKind} (within : kind.Within small)
    (le : small ≤ large) : kind.Within large := by
  cases kind with
  | scalar text style => exact Nat.le_trans within le
  | _ => trivial

def TokenKind.isDirective : TokenKind → Bool
  | .versionDirective .. | .handleDirective .. => true
  | _ => false

theorem Directive.isDirective_of_scan {cursor after : Cursor} {kind : TokenKind}
    (found : scan cursor = .ok (kind, after)) : kind.isDirective = true := by
  refine of_ite_eq_ok found nofun fun found => ?_
  refine of_ite_eq_ok found nofun fun found => ?_
  refine of_ite_eq_ok found (fun found => ?_) fun found => ?_
  · obtain ⟨⟨major, dot⟩, readMajor, found⟩ := exists_of_bind_eq_ok found
    refine of_ite_eq_ok found nofun fun found => ?_
    obtain ⟨⟨minor, stop⟩, readMinor, same⟩ := exists_of_bind_eq_ok found
    cases same
    rfl
  · refine of_ite_eq_ok found (fun found => ?_) nofun
    refine of_ite_eq_ok found nofun fun found => ?_
    refine of_ite_eq_ok found nofun fun found => ?_
    refine of_ite_eq_ok found nofun fun found => ?_
    obtain ⟨⟨expansion, stop⟩, scanned, found⟩ := exists_of_bind_eq_ok found
    refine of_ite_eq_ok found nofun fun same => ?_
    cases same
    rfl

theorem TokenKind.Within.of_isDirective {size : Nat} {kind : TokenKind}
    (directive : kind.isDirective = true) : kind.Within size := by
  cases kind with
  | scalar text style => cases directive
  | _ => trivial

namespace Lexer

/-- Neither the rest of the text nor a scalar that has been read is longer than this. -/
structure Within (size : Nat) (lexer : Lexer) : Prop where
  rest : lexer.cursor.rest.length ≤ size
  queue : ∀ token ∈ lexer.queue, token.kind.Within size

theorem length_skipGap_le (inFlow : Bool) (rest : List Char) (mark : Mark)
    (keyAllowed inComment : Bool) :
    (skipGap inFlow rest mark keyAllowed inComment).1.rest.length ≤ rest.length := by
  fun_induction skipGap inFlow rest mark keyAllowed inComment <;> grind

namespace Within

variable {size : Nat} {lexer next : Lexer}

theorem push (within : lexer.Within size) (kind : TokenKind) (fits : kind.Within size)
    (start stop : Mark) : (lexer.push kind start stop).Within size := by
  refine ⟨within.rest, ?_⟩
  intro token found
  rcases List.mem_append.mp found with found | found
  · exact within.queue token found
  · rw [List.mem_singleton.mp found]
    exact fits

theorem insert (within : lexer.Within size) (kind : TokenKind) (fits : kind.Within size)
    (number : Nat) (mark : Mark) : (lexer.insert number kind mark).Within size := by
  refine ⟨within.rest, ?_⟩
  intro token found
  simp only [Lexer.insert, List.mem_append, List.mem_cons] at found
  rcases found with found | rfl | found
  · exact within.queue token (List.mem_of_mem_take found)
  · exact fits
  · exact within.queue token (List.mem_of_mem_drop found)

theorem moveTo (within : lexer.Within size) {cursor : Cursor} (fits : cursor.rest.length ≤ size) :
    (lexer.moveTo cursor).Within size :=
  ⟨fits, within.queue⟩

theorem allowKey (within : lexer.Within size) (allowed : Bool) :
    (lexer.allowKey allowed).Within size :=
  ⟨within.rest, within.queue⟩

theorem setCandidate (within : lexer.Within size) (candidate : Option KeyCandidate) :
    (lexer.setCandidate candidate).Within size :=
  ⟨within.rest, within.queue⟩

theorem pushSign (within : lexer.Within size) (kind : TokenKind) (fits : kind.Within size)
    (width : Nat) : (lexer.pushSign kind width).Within size :=
  (within.push kind fits _ _).moveTo
    (Nat.le_trans (lexer.cursor.skipMany_suffix width).length_le within.rest)

/-- A scalar that has been read from the rest of the text is put into the queue. -/
theorem pushScalar (within : lexer.Within size) {text : List Char} {style : ScalarStyle}
    {after : Cursor}
    (bounds : text.length ≤ lexer.cursor.rest.length ∧
      after.rest.length ≤ lexer.cursor.rest.length)
    (allowed : Bool) (start stop : Mark) :
    (((lexer.allowKey allowed).push (.scalar text style) start stop).moveTo after).Within size :=
  have fits : text.length ≤ size := Nat.le_trans bounds.1 within.rest
  ((within.allowKey allowed).push (.scalar text style) fits start stop).moveTo
    (Nat.le_trans bounds.2 within.rest)

theorem dropStale (within : lexer.Within size) (done : lexer.dropStale = .ok next) :
    next.Within size := by
  obtain ⟨candidates, -, same⟩ := exists_of_bind_eq_ok done
  cases same
  exact ⟨within.rest, within.queue⟩

theorem dropCandidate (within : lexer.Within size) (done : lexer.dropCandidate = .ok next) :
    next.Within size := by
  unfold Lexer.dropCandidate Lexer.abandon at done
  split at done
  · cases done
    exact within
  · split at done
    · cases done
    · cases done
      exact within.setCandidate none

theorem saveCandidate (within : lexer.Within size) (done : lexer.saveCandidate = .ok next) :
    next.Within size := by
  unfold Lexer.saveCandidate at done
  split at done
  · obtain ⟨dropped, found, same⟩ := exists_of_bind_eq_ok done
    cases same
    exact (within.dropCandidate found).setCandidate _
  · cases done
    exact within

theorem close_queue {column indent : Int} {outer : List Int} {queue : List Token}
    (within : ∀ token ∈ queue, token.kind.Within size) :
    ∀ token ∈ (closeBlocks.close lexer column indent outer queue).2.2,
      token.kind.Within size := by
  fun_induction closeBlocks.close lexer column indent outer queue with
  | case1 indent queue => exact within
  | case2 indent queue outer rest deeper ih =>
      refine ih fun token found => ?_
      rcases List.mem_append.mp found with found | found
      · exact within token found
      · rw [List.mem_singleton.mp found]
        trivial
  | case3 indent queue outer rest open_ => exact within

theorem closeBlocks (within : lexer.Within size) (column : Int) :
    (lexer.closeBlocks column).Within size := by
  unfold Lexer.closeBlocks
  split
  · exact within
  · exact ⟨within.rest, close_queue within.queue⟩

theorem openBlock (within : lexer.Within size) (kind : TokenKind) (fits : kind.Within size)
    (column : Nat) (place : Option Nat) (mark : Mark) :
    (lexer.openBlock column place kind mark).Within size := by
  have opened (indent : Int) (outerIndents : List Int) :
      ({ lexer with indent, outerIndents } : Lexer).Within size :=
    ⟨within.rest, within.queue⟩
  unfold Lexer.openBlock
  split
  · exact within
  · cases place with
    | some number => exact (opened _ _).insert kind fits number mark
    | none => exact (opened _ _).push kind fits mark mark

theorem fetchStreamEnd (within : lexer.Within size) (done : lexer.fetchStreamEnd = .ok next) :
    next.Within size := by
  obtain ⟨closed, dropped, same⟩ := exists_of_bind_eq_ok done
  cases same
  have emptied (mark : Mark) : (lexer.moveTo ⟨[], mark⟩).Within size :=
    within.moveTo (Nat.zero_le size)
  have kept := ((emptied _).closeBlocks (-1)).dropCandidate dropped
  exact (kept.allowKey false).push .streamEnd trivial _ _

theorem fetchDirective (within : lexer.Within size) (done : lexer.fetchDirective = .ok next) :
    next.Within size := by
  obtain ⟨closed, dropped, scanning⟩ := exists_of_bind_eq_ok done
  obtain ⟨⟨kind, after⟩, scanned, finishing⟩ := exists_of_bind_eq_ok scanning
  have kept := (within.closeBlocks (-1)).dropCandidate dropped
  refine of_ite_eq_ok finishing nofun fun same => ?_
  cases same
  have lineEnd := (Block.skipToLineEnd_suffix after).trans (Directive.scan_suffix scanned)
  have shorter := Nat.le_trans (Block.length_skipBreak_le _) lineEnd.length_le
  have fits : kind.Within size := .of_isDirective (Directive.isDirective_of_scan scanned)
  exact ((kept.allowKey false).push kind fits _ _).moveTo (Nat.le_trans shorter kept.rest)

theorem fetchDocumentMarker (within : lexer.Within size) {kind : TokenKind}
    (fits : kind.Within size) (done : lexer.fetchDocumentMarker kind = .ok next) :
    next.Within size := by
  obtain ⟨closed, dropped, same⟩ := exists_of_bind_eq_ok done
  cases same
  exact (((within.closeBlocks (-1)).dropCandidate dropped).allowKey false).pushSign kind fits 3

theorem fetchFlowStart (within : lexer.Within size) {kind : TokenKind} (fits : kind.Within size)
    (done : lexer.fetchFlowStart kind = .ok next) : next.Within size := by
  obtain ⟨saved, found, same⟩ := exists_of_bind_eq_ok done
  cases same
  have kept := within.saveCandidate found
  have entered : ({ saved with candidates := none :: saved.candidates } : Lexer).Within size :=
    ⟨kept.rest, kept.queue⟩
  exact (entered.allowKey true).pushSign kind fits 1

theorem fetchFlowEnd (within : lexer.Within size) {kind : TokenKind} (fits : kind.Within size)
    (done : lexer.fetchFlowEnd kind = .ok next) : next.Within size := by
  obtain ⟨dropped, found, same⟩ := exists_of_bind_eq_ok done
  cases same
  have kept := within.dropCandidate found
  refine (allowKey ?_ false).pushSign kind fits 1
  split
  · exact ⟨kept.rest, kept.queue⟩
  · exact kept

theorem fetchFlowEntry (within : lexer.Within size) (done : lexer.fetchFlowEntry = .ok next) :
    next.Within size := by
  obtain ⟨dropped, found, same⟩ := exists_of_bind_eq_ok done
  cases same
  exact ((within.dropCandidate found).allowKey true).pushSign .flowEntry trivial 1

theorem fetchBlockEntry (within : lexer.Within size) (done : lexer.fetchBlockEntry = .ok next) :
    next.Within size := by
  refine of_ite_eq_ok done nofun fun opening => ?_
  obtain ⟨dropped, found, same⟩ := exists_of_bind_eq_ok opening
  cases same
  have opened := within.openBlock .blockSequenceStart trivial lexer.mark.column none lexer.mark
  exact ((opened.dropCandidate found).allowKey true).pushSign .blockEntry trivial 1

theorem fetchKey (within : lexer.Within size) (done : lexer.fetchKey = .ok next) :
    next.Within size := by
  refine of_ite_eq_ok done nofun fun opening => ?_
  obtain ⟨dropped, found, same⟩ := exists_of_bind_eq_ok opening
  cases same
  have opened := within.openBlock .blockMappingStart trivial lexer.mark.column none lexer.mark
  exact ((opened.dropCandidate found).allowKey _).pushSign .key trivial 1

theorem fetchValue (within : lexer.Within size) (done : lexer.fetchValue = .ok next) :
    next.Within size := by
  unfold Lexer.fetchValue at done
  split at done
  · rename_i candidate _
    cases done
    have keyed := within.insert .key trivial candidate.number candidate.mark
    have opened := keyed.openBlock .blockMappingStart trivial candidate.mark.column
      (some candidate.number) candidate.mark
    exact ((opened.setCandidate none).allowKey false).pushSign .value trivial 1
  · refine of_ite_eq_ok done nofun fun same => ?_
    cases same
    have opened := within.openBlock .blockMappingStart trivial lexer.mark.column none lexer.mark
    exact (opened.allowKey _).pushSign .value trivial 1

theorem fetchAnchor (within : lexer.Within size) {context : Context}
    {kind : List Char → TokenKind} (fits : ∀ name, (kind name).Within size)
    (done : lexer.fetchAnchor context kind = .ok next) : next.Within size := by
  obtain ⟨saved, found, scanning⟩ := exists_of_bind_eq_ok done
  obtain ⟨⟨name, after⟩, scanned, same⟩ := exists_of_bind_eq_ok scanning
  cases same
  have kept := within.saveCandidate found
  exact ((kept.allowKey false).push (kind name) (fits name) _ _).moveTo
    (Nat.le_trans (Anchor.scan_suffix scanned).length_le kept.rest)

theorem fetchTag (within : lexer.Within size) (done : lexer.fetchTag = .ok next) :
    next.Within size := by
  obtain ⟨saved, found, scanning⟩ := exists_of_bind_eq_ok done
  obtain ⟨⟨handle, suffix, after⟩, scanned, same⟩ := exists_of_bind_eq_ok scanning
  cases same
  have kept := within.saveCandidate found
  exact ((kept.allowKey false).push (.tag handle suffix) trivial _ _).moveTo
    (Nat.le_trans (Tag.scan_suffix scanned).length_le kept.rest)

theorem fetchBlockScalar (within : lexer.Within size) {style : ScalarStyle}
    (done : lexer.fetchBlockScalar style = .ok next) : next.Within size := by
  obtain ⟨dropped, found, scanning⟩ := exists_of_bind_eq_ok done
  obtain ⟨scalar, scanned, same⟩ := exists_of_bind_eq_ok scanning
  cases same
  exact (within.dropCandidate found).pushScalar (Block.length_scan_le scanned) true _ _

theorem fetchQuoted (within : lexer.Within size) {quote : Quoted.Quote} {style : ScalarStyle}
    (done : lexer.fetchQuoted quote style = .ok next) : next.Within size := by
  obtain ⟨saved, found, scanning⟩ := exists_of_bind_eq_ok done
  obtain ⟨scalar, scanned, same⟩ := exists_of_bind_eq_ok scanning
  cases same
  exact (within.saveCandidate found).pushScalar (Quoted.length_scan_le scanned) false _ _

theorem fetchPlain (within : lexer.Within size) (done : lexer.fetchPlain = .ok next) :
    next.Within size := by
  obtain ⟨saved, found, scanning⟩ := exists_of_bind_eq_ok done
  obtain ⟨scalar, scanned, same⟩ := exists_of_bind_eq_ok scanning
  cases same
  exact (within.saveCandidate found).pushScalar (Plain.length_scan_le scanned) _ _ _

theorem prepare (within : lexer.Within size) (done : lexer.prepare = .ok next) :
    next.Within size := by
  have skipped := Nat.le_trans
    (length_skipGap_le lexer.inFlow lexer.cursor.rest lexer.mark lexer.keyAllowed false)
    within.rest
  obtain ⟨fresh, dropped, same⟩ := exists_of_bind_eq_ok done
  cases same
  exact (((within.moveTo skipped).allowKey _).dropStale dropped).closeBlocks fresh.mark.column

theorem fetchFrom (ready : lexer.Within size) {c : Char} {rest : List Char}
    (found : lexer.fetchFrom c rest = .ok next) : next.Within size := by
  unfold Lexer.fetchFrom at found
  refine of_ite_eq_ok found ready.fetchDirective fun found => ?_
  refine of_ite_eq_ok found (ready.fetchDocumentMarker trivial) fun found => ?_
  refine of_ite_eq_ok found (ready.fetchDocumentMarker trivial) fun found => ?_
  refine of_ite_eq_ok found (ready.fetchFlowStart trivial) fun found => ?_
  refine of_ite_eq_ok found (ready.fetchFlowStart trivial) fun found => ?_
  refine of_ite_eq_ok found (ready.fetchFlowEnd trivial) fun found => ?_
  refine of_ite_eq_ok found (ready.fetchFlowEnd trivial) fun found => ?_
  refine of_ite_eq_ok found ready.fetchFlowEntry fun found => ?_
  refine of_ite_eq_ok found ready.fetchBlockEntry fun found => ?_
  refine of_ite_eq_ok found ready.fetchKey fun found => ?_
  refine of_ite_eq_ok found ready.fetchValue fun found => ?_
  refine of_ite_eq_ok found (ready.fetchAnchor fun _ => trivial) fun found => ?_
  refine of_ite_eq_ok found (ready.fetchAnchor fun _ => trivial) fun found => ?_
  refine of_ite_eq_ok found ready.fetchTag fun found => ?_
  refine of_ite_eq_ok found ready.fetchBlockScalar fun found => ?_
  refine of_ite_eq_ok found ready.fetchBlockScalar fun found => ?_
  refine of_ite_eq_ok found ready.fetchQuoted fun found => ?_
  refine of_ite_eq_ok found ready.fetchQuoted fun found => ?_
  exact of_ite_eq_ok found ready.fetchPlain nofun

theorem dispatch (ready : lexer.Within size) (found : lexer.dispatch = .ok next) :
    next.Within size := by
  unfold Lexer.dispatch at found
  split at found
  · exact ready.fetchStreamEnd found
  · exact ready.fetchFrom found

theorem fetch (within : lexer.Within size) (done : lexer.fetch = .ok next) :
    next.Within size := by
  obtain ⟨ready, prepared, found⟩ := exists_of_bind_eq_ok done
  exact (within.prepare prepared).dispatch found

theorem settle {fuel : Nat} (within : lexer.Within size) (done : lexer.settle fuel = .ok next) :
    next.Within size := by
  induction fuel generalizing lexer with
  | zero =>
      cases done
      exact within
  | succ fuel ih =>
      have goOn {fresh : Lexer} (ready : fresh.Within size)
          (found : (if fresh.isUnsettled then fresh.fetch >>= Lexer.settle fuel else pure fresh) =
            .ok next) : next.Within size := by
        refine of_ite_eq_ok found (fun found => ?_) fun same => by cases same; exact ready
        obtain ⟨further, fetched, found⟩ := exists_of_bind_eq_ok found
        exact ih (ready.fetch fetched) found
      unfold Lexer.settle at done
      refine of_ite_eq_ok done (goOn within) fun found => ?_
      obtain ⟨fresh, dropped, found⟩ := exists_of_bind_eq_ok found
      exact goOn (within.dropStale dropped) found

theorem tokensFrom {fuel : Nat} (within : lexer.Within size) :
    ∀ token ∈ (lexer.tokensFrom fuel).1, token.kind.Within size := by
  induction fuel generalizing lexer with
  | zero => exact nofun
  | succ fuel ih =>
      intro token
      unfold Lexer.tokensFrom
      split
      · exact nofun
      · rename_i settled found
        have ready := within.settle found
        split
        · exact nofun
        · rename_i first queue same
          have queued := ready.queue
          rw [same, List.forall_mem_cons] at queued
          have rest : ({ settled with queue, taken := settled.taken + 1 } : Lexer).Within size :=
            ⟨ready.rest, queued.2⟩
          have inner := ih rest
          split <;> intro found
          · rw [List.mem_singleton.mp found]
            exact queued.1
          · rcases List.mem_cons.mp found with rfl | found
            · exact queued.1
            · exact inner token found

end Within

theorem within_ofText (text : List Char) : (ofText text).Within text.length := by
  refine ⟨Nat.le_refl _, ?_⟩
  intro token found
  rw [List.mem_singleton.mp found]
  trivial

end Lexer

theorem length_beforeOffset_le (offset : Nat) (text : List Char) :
    (beforeOffset offset text).length ≤ text.length := by
  induction text generalizing offset with
  | nil => exact Nat.le_refl 0
  | cons c rest ih =>
      unfold beforeOffset
      split
      · exact Nat.succ_le_succ (ih _)
      · exact Nat.zero_le _

/-- No scalar among the tokens of a text is longer than the text. -/
theorem within_of_mem_tokens {text : List Char} {token : Token} (found : token ∈ (tokens text).1) :
    token.kind.Within text.length := by
  unfold tokens at found
  split at found
  · exact (Lexer.within_ofText text).tokensFrom token found
  · rename_i block offset _
    have inner : token ∈ (Lexer.tokensOf (beforeOffset block text)).1 := by
      dsimp only at found
      split at found
      · exact found
      · exact (List.takeWhile_sublist _).mem found
    exact ((Lexer.within_ofText _).tokensFrom token inner).mono (length_beforeOffset_le block text)

end TaggedConfig.Yaml
