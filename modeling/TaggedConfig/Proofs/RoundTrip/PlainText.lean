import Mathlib
import TaggedConfig.Proofs.RoundTrip.Marks
import TaggedConfig.Yaml.Token.Lexer

/-!
# Plain scalars that are read back

A text that may be written plainly is read as one scalar.  It ends at the colon behind a key, or at
the line break behind a value if the next line is not indented deeper.
-/

namespace TaggedConfig.Yaml

open Writing

theorem isBlank_eq_false {c : Char} (printable : isPrintable c = true) (noSpace : c ≠ ' ') :
    isBlank c = false := by
  unfold isBlank
  rw [Bool.or_eq_false_iff, beq_eq_false_iff_ne, beq_eq_false_iff_ne]
  refine ⟨noSpace, ?_⟩
  rintro rfl
  cases printable

theorem ne_of_isBreak_eq_false {c : Char} (unbroken : isBreak c = false) : c ≠ '\r' := by
  rintro rfl
  cases unbroken

/-- As long as there is no line break, blanks are kept as they are. -/
theorem Folding.addBlank_intact {pending : Folding} (intact : pending.broken = false) (c : Char) :
    (pending.addBlank c).broken = false ∧
      (pending.addBlank c).reversedText = c :: pending.reversedText := by
  unfold addBlank reversedText
  rw [intact]
  exact ⟨rfl, rfl⟩

/-- Behind a line break, blanks do not count. -/
theorem Folding.addBlank_broken {pending : Folding} (broken : pending.broken = true) (c : Char) :
    pending.addBlank c = pending := by
  unfold addBlank
  rw [broken]
  rfl

namespace Plain

variable {limit : Nat} {began mark : Mark} {pending : Folding} {done rest : List Char} {c : Char}

theorem scanFrom_space :
    scanFrom false limit began (' ' :: rest) mark pending done =
      scanFrom false limit began rest (mark.next ' ') (pending.addBlank ' ') done := by
  conv_lhs => unfold scanFrom
  simp [isBlank]

theorem scanFrom_lineFeed :
    scanFrom false limit began ('\n' :: rest) mark pending done =
      scanFrom false limit began rest (mark.nextLine 1) (pending.addBreak '\n') done := by
  conv_lhs => unfold scanFrom
  simp [isBlank, isBreak]
  rfl

theorem isMisplacedColon_false (text : List Char) : isMisplacedColon false text = false := by
  unfold isMisplacedColon
  split
  · rfl
  · rfl

theorem scanFrom_other (noBlank : isBlank c = false) (unbroken : isBreak c = false) :
    scanFrom false limit began (c :: rest) mark pending done =
      if pending.isPending && endsBefore false limit mark (c :: rest) then
        .ok ⟨done.reverse, ⟨c :: rest, mark⟩, pending.broken⟩
      else if c == ':' && startsWithGap rest then
        .ok ⟨done.reverse, ⟨c :: rest, mark⟩, pending.broken⟩
      else
        scanFrom false limit began rest (mark.next c) .empty (c :: (pending.reversedText ++ done)) := by
  conv_lhs => unfold scanFrom
  simp [noBlank, unbroken, ne_of_isBreak_eq_false unbroken, isMisplacedColon_false, isTerminator]

/-- What is no gap for the writer is none for the reader, whatever follows the text. -/
theorem startsWithGap_append {text tail : List Char} (inside : startsWithWordEnd text = false) :
    startsWithGap (text ++ tail) = false := by
  cases text with
  | nil => cases inside
  | cons c rest => exact (Bool.or_eq_false_iff.mp inside).1

/-- The words behind the first character: each of them is separated by spaces only. -/
theorem scanFrom_words {text tail : List Char} {afterGap : Bool}
    (printable : ∀ c ∈ text, isPrintable c = true) (unbroken : ∀ c ∈ text, isBreak c = false)
    (markup : holdsMarkup afterGap text = false) (last : ∀ c ∈ text.getLast?, c ≠ ' ')
    (intact : pending.broken = false) (ended : text = [] → pending = .empty)
    (inside : 0 < mark.column) (word : limit ≤ mark.column + 1)
    (gap : pending.isPending = true → afterGap = true ∧ limit ≤ mark.column) :
    scanFrom false limit began (text ++ tail) mark pending done =
      scanFrom false limit began tail (mark.past text) .empty
        (text.reverse ++ (pending.reversedText ++ done)) := by
  induction text generalizing mark pending done afterGap with
  | nil =>
      rw [ended rfl]
      rfl
  | cons c rest ih =>
      obtain ⟨printableHere, printableLater⟩ := List.forall_mem_cons.mp printable
      obtain ⟨unbrokenHere, unbrokenLater⟩ := List.forall_mem_cons.mp unbroken
      have lastLater : ∀ c ∈ rest.getLast?, c ≠ ' ' := by
        intro d found
        refine last d ?_
        rw [List.getLast?_cons, found]
        rfl
      unfold holdsMarkup at markup
      obtain ⟨markupHere, markupLater⟩ := Bool.or_eq_false_iff.mp markup
      obtain ⟨noColon, noComment⟩ := Bool.or_eq_false_iff.mp markupHere
      have column : (mark.next c).column = mark.column + 1 := rfl
      rw [Mark.past_cons unbrokenHere, List.cons_append]
      by_cases space : c = ' '
      · subst space
        have some : rest ≠ [] := by
          rintro rfl
          exact last ' ' rfl rfl
        obtain ⟨still, kept⟩ := Folding.addBlank_intact intact ' '
        rw [scanFrom_space, ih printableLater unbrokenLater markupLater lastLater still
          (fun empty => absurd empty some) (by omega) (by omega) fun _ => ⟨rfl, by omega⟩, kept]
        simp
      · have noBlank := isBlank_eq_false printableHere space
        have goesOn : (pending.isPending && endsBefore false limit mark (c :: (rest ++ tail))) =
            false := by
          cases waits : pending.isPending with
          | false => rfl
          | true =>
              obtain ⟨rfl, deep⟩ := gap waits
              rw [Bool.and_true] at noComment
              unfold endsBefore
              rw [List.head?_cons, decide_eq_false (Nat.not_lt.mpr deep),
                beq_eq_false_iff_ne.mpr inside.ne']
              simpa using noComment
        have noValue : (c == ':' && startsWithGap (rest ++ tail)) = false := by
          cases ends : startsWithWordEnd rest with
          | true =>
              rw [ends, Bool.and_true] at noColon
              rw [noColon]
              rfl
          | false => rw [startsWithGap_append ends, Bool.and_false]
        rw [scanFrom_other noBlank unbrokenHere, goesOn, noValue, if_neg Bool.false_ne_true,
          if_neg Bool.false_ne_true, ih printableLater unbrokenLater markupLater lastLater rfl
            (fun _ => rfl) (by omega) (by omega) nofun]
        simp [Folding.reversedText, Folding.empty]

theorem scanFrom_colon (gap : startsWithGap rest = true) :
    scanFrom false limit began (':' :: rest) mark .empty done =
      .ok ⟨done.reverse, ⟨':' :: rest, mark⟩, false⟩ := by
  rw [scanFrom_other rfl rfl, gap]
  rfl

/-- The line break and the indentation behind the last line are passed as well. -/
theorem scanFrom_indentation (broken : pending.broken = true) (indent : Nat) :
    scanFrom false limit began (indentation indent ++ rest) mark pending done =
      scanFrom false limit began rest (mark.past (indentation indent)) pending done := by
  induction indent generalizing mark with
  | zero => rfl
  | succ indent ih =>
      have spaces : indentation (indent + 1) = ' ' :: indentation indent := rfl
      rw [spaces, List.cons_append, scanFrom_space, Folding.addBlank_broken broken, ih,
        Mark.past_cons rfl]

/-- A line break ends the scalar if the next line is not indented deeper than the block. -/
theorem scanFrom_line {indent : Nat} (starts : StartsToken rest)
    (shallow : rest ≠ [] → indent < limit) :
    scanFrom false limit began ('\n' :: (indentation indent ++ rest)) mark .empty done =
      .ok ⟨done.reverse, ⟨rest, mark.past ('\n' :: indentation indent)⟩, true⟩ := by
  have column : (mark.past ('\n' :: indentation indent)).column = indent :=
    mark.column_past_line [] rfl indent
  have place : mark.past ('\n' :: indentation indent) = (mark.nextLine 1).past (indentation indent) :=
    Mark.past_cons_break rfl
  rw [scanFrom_lineFeed, scanFrom_indentation rfl, ← place]
  cases rest with
  | nil => rfl
  | cons c rest =>
      obtain ⟨noBlank, unbroken, -⟩ := starts c rfl
      have ends : endsBefore false limit (mark.past ('\n' :: indentation indent)) (c :: rest) =
          true := by
        unfold endsBefore
        rw [column, decide_eq_true (shallow nofun)]
        rfl
      rw [scanFrom_other noBlank unbroken, ends]
      rfl

end Plain

structure IsPlainText (text : List Char) : Prop where
  some : text ≠ []
  printable : ∀ c ∈ text, isPrintable c = true
  unbroken : ∀ c ∈ text, isBreak c = false
  first : ∀ c ∈ text.head?, isEdgeGap c = false
  last : ∀ c ∈ text.getLast?, isEdgeGap c = false
  noMarkup : isLikeMarkup text = false

theorem eq_false_of_any {α : Type} {option : Option α} {test : α → Bool}
    (none : option.any test = false) : ∀ value ∈ option, test value = false := by
  rintro value rfl
  exact none

theorem isPlainText_of_allowsPlain {text : List Char} (some : text ≠ [])
    (allowed : allowsPlain text = true) : IsPlainText text := by
  unfold allowsPlain needsEscapes at allowed
  simp only [Bool.and_eq_true, Bool.not_eq_true', Bool.or_eq_false_iff] at allowed
  obtain ⟨⟨⟨⟨⟨-, printable⟩, unbroken⟩, first⟩, last⟩, noMarkup⟩ := allowed
  rw [List.any_eq_false] at printable unbroken
  exact {
    some := some
    printable := fun c found => by simpa using printable c found
    unbroken := fun c found => by simpa using unbroken c found
    first := eq_false_of_any first
    last := eq_false_of_any last
    noMarkup := noMarkup }

/-- What does not begin like markup: no indicator, no sign in front of a gap, no document marker. -/
theorem of_beginsLikeMarkup_eq_false {c : Char} {rest : List Char}
    (noMarkup : beginsLikeMarkup (c :: rest) = false) :
    isIndicator c = false ∧ ((c == '?' || c == ':' || c == '-') && startsWithWordEnd rest) = false ∧
      ∀ sign ∈ ['-', '.'], ∀ others, c :: rest ≠ sign :: sign :: sign :: others := by
  unfold beginsLikeMarkup at noMarkup
  split at noMarkup
  · rename_i same
    cases same
  · cases noMarkup
  · cases noMarkup
  · rename_i noDashes noStops same
    obtain ⟨rfl, rfl⟩ := List.cons.inj same
    obtain ⟨noIndicator, noSign⟩ := Bool.or_eq_false_iff.mp noMarkup
    refine ⟨noIndicator, noSign, fun sign found others marker => ?_⟩
    rcases List.mem_pair.mp found with rfl | rfl
    · obtain ⟨first, later⟩ := List.cons.inj marker
      exact noDashes others first later
    · obtain ⟨first, later⟩ := List.cons.inj marker
      exact noStops others first later

namespace IsPlainText

variable {limit : Nat} {began mark : Mark} {text tail : List Char}

/-- The whole text is read, up to what follows it. -/
theorem scanFrom_eq (plain : IsPlainText text) (deep : limit ≤ mark.column + 2) :
    Plain.scanFrom false limit began (text ++ tail) mark .empty [] =
      Plain.scanFrom false limit began tail (mark.past text) .empty text.reverse := by
  obtain ⟨c, rest, rfl⟩ := List.exists_cons_of_ne_nil plain.some
  obtain ⟨printableHere, printableLater⟩ := List.forall_mem_cons.mp plain.printable
  obtain ⟨unbrokenHere, unbrokenLater⟩ := List.forall_mem_cons.mp plain.unbroken
  obtain ⟨begins, holds⟩ := Bool.or_eq_false_iff.mp plain.noMarkup
  obtain ⟨-, noSign, -⟩ := of_beginsLikeMarkup_eq_false begins
  have noSpace {d : Char} (inner : isEdgeGap d = false) : d ≠ ' ' :=
    beq_eq_false_iff_ne.mp (Bool.or_eq_false_iff.mp inner).1
  have noBlank := isBlank_eq_false printableHere (noSpace (plain.first c rfl))
  have noValue : (c == ':' && startsWithGap (rest ++ tail)) = false := by
    cases ends : startsWithWordEnd rest with
    | true =>
        rw [ends, Bool.and_true] at noSign
        rw [(Bool.or_eq_false_iff.mp (Bool.or_eq_false_iff.mp noSign).1).2]
        rfl
    | false => rw [Plain.startsWithGap_append ends, Bool.and_false]
  have lastLater : ∀ d ∈ rest.getLast?, d ≠ ' ' := by
    intro d found
    refine noSpace (plain.last d ?_)
    rw [List.getLast?_cons, found]
    rfl
  have column : (mark.next c).column = mark.column + 1 := rfl
  have first : Plain.scanFrom false limit began (c :: (rest ++ tail)) mark .empty [] =
      Plain.scanFrom false limit began (rest ++ tail) (mark.next c) .empty [c] := by
    rw [Plain.scanFrom_other noBlank unbrokenHere, noValue]
    rfl
  rw [List.cons_append, first, Plain.scanFrom_words printableLater unbrokenLater holds lastLater rfl
    (fun _ => rfl) (by omega) (by omega) nofun, Mark.past_cons unbrokenHere]
  simp [Folding.reversedText, Folding.empty]

theorem scan_key (plain : IsPlainText text) (deep : limit ≤ mark.column + 2)
    (gap : startsWithGap tail = true) :
    Plain.scan false limit ⟨text ++ ':' :: tail, mark⟩ =
      .ok ⟨text, ⟨':' :: tail, mark.past text⟩, false⟩ := by
  unfold Plain.scan
  rw [plain.scanFrom_eq deep, Plain.scanFrom_colon gap, List.reverse_reverse]

theorem scan_value {indent : Nat} (plain : IsPlainText text) (deep : limit ≤ mark.column + 2)
    (starts : StartsToken tail) (shallow : tail ≠ [] → indent < limit) :
    Plain.scan false limit ⟨text ++ '\n' :: (indentation indent ++ tail), mark⟩ =
      .ok ⟨text, ⟨tail, mark.past (text ++ '\n' :: indentation indent)⟩, true⟩ := by
  unfold Plain.scan
  rw [plain.scanFrom_eq deep, Plain.scanFrom_line starts shallow, List.reverse_reverse,
    Mark.past_append]

end IsPlainText

end TaggedConfig.Yaml
