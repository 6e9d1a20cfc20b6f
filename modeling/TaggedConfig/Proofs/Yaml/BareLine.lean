import TaggedConfig.Proofs.Yaml.LineStart
import TaggedConfig.Text.Space

/-!
# Bare lines

A text on one line can only be a boolean or a number if it is a plain scalar that is spelled as one,
unless it begins with a marker or properties.  Characters that no document may hold do not change
this: the text in front of them is cut at a block, and its end is not seen.
-/

namespace TaggedConfig.Yaml

namespace Lexer

variable {text : List Char} {node : Node}

section

variable (line : ∀ c ∈ text, isBreak c = false ∧ c ≠ '#')

include line

/-- At the beginning of the line, no spaces are skipped. -/
theorem dropWhile_eq_self (column : (atFirst text).mark.column = 0) :
    text.dropWhile (· == ' ') = text := by
  have unbroken : ∀ c ∈ text.takeWhile (· == ' '), isBreak c = false := fun c found =>
    (line c ((List.takeWhile_prefix _).subset found)).1
  change (Mark.start.past (text.takeWhile (· == ' '))).column = 0 at column
  rw [Mark.past_unbroken unbroken] at column
  have spaces : text.takeWhile (· == ' ') = [] :=
    List.length_eq_zero_iff.mp ((Nat.zero_add _).symm.trans column)
  have whole := List.takeWhile_append_dropWhile (p := (· == ' ')) (l := text)
  rwa [spaces] at whole

theorem index_past {words : List Char} (whole : text.dropWhile (· == ' ') = words) :
    ((atFirst text).mark.past words).index = Mark.bytes text := by
  have place : (atFirst text).mark.past words = Mark.start.past text := by
    change (Mark.start.past _).past words = _
    rw [← whole, ← Mark.past_append, List.takeWhile_append_dropWhile]
  rw [place, Mark.past_unbroken fun c found => (line c found).1]
  exact Nat.zero_add _

end

section

variable {first : Token} {others seen : List Token} {next : Lexer}
  (line : ∀ c ∈ text, isBreak c = false ∧ c ≠ '#')
  (handed : ((behindStart text).tokensFrom (5 * text.length + 9)).1 = first :: others)
  (subset : seen ⊆ others) (leads : LeadsTo node first seen)
  (found : (behindStart text).fetch = .ok next)

include line handed subset leads found

theorem not_fetchDirective : (atFirst text).fetchDirective ≠ .ok next := by
  intro directive
  obtain ⟨kind, start, stop, isDirective, whole, ended, outer, candidates⟩ :=
    fetchDirective_atFirst line directive
  have other : kind ≠ .streamEnd := by
    rintro rfl
    cases isDirective
  obtain ⟨mark, -, tokens⟩ := tokensFrom_of_last found whole other ended outer candidates nofun
  rw [tokens] at handed
  cases handed
  have marked : ∃ token ∈ seen, token.kind = .documentStart := by
    cases kind with
    | versionDirective major minor => exact leads.version major minor rfl
    | handleDirective handle expansion => exact leads.handle handle expansion rfl
    | _ => cases isDirective
  obtain ⟨token, member, isMarker⟩ := marked
  rw [List.mem_singleton.mp (subset member)] at isMarker
  cases isMarker

/-- A plain scalar is the whole line, and the end of the stream is seen at its end. -/
theorem of_fetchPlain (plain : (atFirst text).fetchPlain = .ok next) :
    ∃ words blanks, text.dropWhile (· == ' ') = words ++ blanks ∧
      (∀ c ∈ blanks, isBlank c = true) ∧ Scalar.plain (String.ofList words) = .ok node ∧
      ((behindStart text).tokensFrom (5 * text.length + 9)).2 = none ∧
      ∃ token ∈ seen, token.stop.index = Mark.bytes text := by
  obtain ⟨words, blanks, rest, ⟨whole, -, blank, ends⟩, scanned⟩ := fetchPlain_atFirst line
  cases scanned.symm.trans plain
  rcases ends with rfl | ⟨tail, rfl, gap⟩
  · obtain ⟨mark, place, tokens⟩ := tokensFrom_of_last found rfl nofun rfl rfl rfl
      (by rintro candidate same; cases same; rfl)
    rw [tokens] at handed
    cases handed
    obtain ⟨read, token, member, isEnd⟩ := leads.plain words rfl
    rw [List.append_nil] at whole
    refine ⟨words, blanks, whole, blank, read, by rw [tokens], token, member, ?_⟩
    rw [List.mem_singleton.mp (subset member)]
    exact place.trans (index_past line whole)
  · obtain ⟨_, settled, queue, fetched, settles, waiting, later⟩ := exists_settled rfl handed
    cases found.symm.trans fetched
    rcases first_of_colon gap settles waiting with other | ⟨isWords, nothing⟩
    · cases leads.leads.symm.trans other
    · obtain ⟨-, token, member, -⟩ := leads.plain words isWords
      have noOthers : others = [] := by
        rcases later with none | further
        · exact none
        · exact further.trans (nothing _)
      rw [noOthers] at subset
      cases subset member

end

end Lexer

/--
A text whose white space is spaces and tabs, and that begins neither with a byte order mark nor with
a document marker, an anchor or a tag.
-/
structure IsBare (text : List Char) : Prop where
  space : ∀ c ∈ text, Text.isSpace c = true → isBlank c = true
  noOrderMark : text.head? ≠ some '\ufeff'
  noMarker : startsWithMarker '-' text = false
  noProperties : ∀ c ∈ (text.dropWhile (· == ' ')).head?, c ≠ '&' ∧ c ≠ '!'

theorem isSpace_of_isBreak {c : Char} (broken : isBreak c = true) : Text.isSpace c = true := by
  simp only [isBreak, Bool.or_eq_true, beq_iff_eq] at broken
  rcases broken with (((rfl | rfl) | rfl) | rfl) | rfl <;> decide

namespace IsBare

open Lexer

variable {text : List Char} {node : Node}

theorem line (bare : IsBare text) (noComment : '#' ∉ text) :
    ∀ c ∈ text, isBreak c = false ∧ c ≠ '#' := by
  intro c found
  constructor
  · rw [Bool.eq_false_iff]
    intro broken
    have blank := bare.space c found (isSpace_of_isBreak broken)
    cases broken.symm.trans (of_isBlank blank).1
  · rintro rfl
    exact noComment found

/--
A bare line of a boolean or a number is one plain scalar, whose end is seen: spaces stand in front
of it, and blanks behind it.
-/
theorem exists_words (bare : IsBare text) (noComment : '#' ∉ text) {first : Token}
    {others seen : List Token}
    (handed : ((behindStart text).tokensFrom (5 * text.length + 9)).1 = first :: others)
    (subset : seen ⊆ others) (leads : LeadsTo node first seen) :
    ∃ words blanks, text.dropWhile (· == ' ') = words ++ blanks ∧
      (∀ c ∈ blanks, isBlank c = true) ∧ Scalar.plain (String.ofList words) = .ok node ∧
      ((behindStart text).tokensFrom (5 * text.length + 9)).2 = none ∧
      ∃ token ∈ seen, token.stop.index = Mark.bytes text := by
  have line := bare.line noComment
  obtain ⟨next, settled, queue, found, settles, waiting, -⟩ := exists_settled rfl handed
  have unlike (begins : next.BeginsOtherwise) : False := by
    cases leads.leads.symm.trans ((keepsFirst_settle settles).isLead_eq_false begins waiting)
  have fetched := found
  rw [fetch_behindStart line bare.noOrderMark] at fetched
  unfold dispatch at fetched
  split at fetched
  · exact (unlike ((adds_fetchStreamEnd fetched).beginsOtherwise rfl rfl)).elim
  · rename_i c rest written
    cases foundAt_of_fetchFrom fetched with
    | directive column done =>
        exact absurd done (not_fetchDirective line handed subset leads found)
    | marker column marks adds =>
        have whole : text = c :: rest := (dropWhile_eq_self line column).symm.trans written
        rw [← whole, bare.noMarker] at marks
        cases marks
    | anchor sign adds =>
        subst sign
        exact absurd rfl (bare.noProperties '&' (congrArg List.head? written)).1
    | tag sign adds =>
        subst sign
        exact absurd rfl (bare.noProperties '!' (congrArg List.head? written)).2
    | value done => exact (unlike ((adds_fetchValue rfl done).beginsOtherwise rfl rfl)).elim
    | plain done => exact of_fetchPlain line handed subset leads found done
    | other other adds => exact (unlike (adds.beginsOtherwise rfl other)).elim

end IsBare

/-- Blocks end between characters, and no block but the first begins early in a text. -/
theorem block_of_forbidden? {text : List Char} {first offset block place : Nat}
    {before : List Char} (here : Mark.bytes before = offset)
    (cut : ∃ earlier, earlier <+: before ∧ Mark.bytes earlier = first)
    (found : forbidden? text first offset = some (block, place)) :
    (∃ earlier, earlier <+: before ++ text ∧ Mark.bytes earlier = block) ∧
      (block = first ∨ blockSize < block + 4) := by
  induction text generalizing first offset before with
  | nil => cases found
  | cons c rest ih =>
      obtain ⟨earlier, isPrefix, size⟩ := cut
      let next := if first + blockSize < offset + c.utf8Size then offset else first
      have cutNext : ∃ earlier, earlier <+: before ∧ Mark.bytes earlier = next := by
        unfold next
        split
        · exact ⟨before, List.prefix_rfl, here⟩
        · exact ⟨earlier, isPrefix, size⟩
      have farNext : next = first ∨ blockSize < next + 4 := by
        have four := c.utf8Size_le_four
        unfold next
        split
        · exact .inr (by omega)
        · exact .inl rfl
      unfold forbidden? at found
      obtain ⟨cutEarlier, cutPrefix, cutSize⟩ := cutNext
      dsimp only at found
      split at found
      · have hereNext : Mark.bytes (before ++ [c]) = offset + c.utf8Size := by
          rw [← here]
          simp [Mark.bytes]
        obtain ⟨⟨last, lastPrefix, lastSize⟩, far⟩ := ih hereNext
          ⟨cutEarlier, cutPrefix.trans (List.prefix_append _ _), cutSize⟩ found
        rw [List.append_assoc] at lastPrefix
        refine ⟨⟨last, lastPrefix, lastSize⟩, ?_⟩
        rcases far with same | far
        · rw [same]
          exact farNext
        · exact .inr far
      · cases found
        exact ⟨⟨cutEarlier, cutPrefix.trans (List.prefix_append _ _), cutSize⟩, farNext⟩

theorem beforeOffset_bytes (earlier later : List Char) :
    beforeOffset (Mark.bytes earlier) (earlier ++ later) = earlier := by
  induction earlier with
  | nil =>
      cases later with
      | nil => rfl
      | cons c rest =>
          change beforeOffset 0 (c :: rest) = []
          unfold beforeOffset
          rw [if_neg c.utf8Size_pos.not_ge]
  | cons c earlier ih =>
      have size : Mark.bytes (c :: earlier) = c.utf8Size + Mark.bytes earlier := rfl
      rw [List.cons_append, beforeOffset, size, if_pos (Nat.le_add_right _ _),
        Nat.add_sub_cancel_left, ih]

theorem bytes_le (text : List Char) : Mark.bytes text ≤ 4 * text.length := by
  induction text with
  | nil => exact Nat.le_refl 0
  | cons c rest ih =>
      have size : Mark.bytes (c :: rest) = c.utf8Size + Mark.bytes rest := rfl
      have four := c.utf8Size_le_four
      rw [size, List.length_cons]
      omega

namespace IsBare

variable {text earlier : List Char} {node : Node}

/-- The beginning of a bare line is bare, unless it ends within what looks like a marker then. -/
theorem of_prefix (bare : IsBare text) (isPrefix : earlier <+: text)
    (far : earlier = [] ∨ 4 ≤ earlier.length) : IsBare earlier := by
  obtain ⟨later, rfl⟩ := isPrefix
  constructor
  · exact fun c found => bare.space c (List.mem_append_left _ found)
  · intro first
    cases earlier with
    | nil => cases first
    | cons c rest => exact bare.noOrderMark first
  · rcases far with rfl | long
    · rfl
    · match earlier, long with
      | _ :: _ :: _ :: _ :: _, _ => exact bare.noMarker
  · intro c first
    refine bare.noProperties c ?_
    cases left : earlier.dropWhile (· == ' ') with
    | nil =>
        rw [left] at first
        cases first
    | cons d rest =>
        rw [left] at first
        rw [List.dropWhile_append, left]
        exact first

/-- What stands in front of a block is bare: it is empty, or much longer than a marker. -/
theorem of_block (bare : IsBare text) {block : Nat} (isPrefix : earlier <+: text)
    (size : Mark.bytes earlier = block) (far : block = 0 ∨ blockSize < block + 4) :
    IsBare earlier := by
  refine bare.of_prefix isPrefix ?_
  have wide := bytes_le earlier
  rcases far with rfl | far
  · refine .inl ?_
    cases earlier with
    | nil => rfl
    | cons c rest =>
        have some := c.utf8Size_pos
        have whole : c.utf8Size + Mark.bytes rest = 0 := size
        omega
  · have large : 4 * 4 ≤ blockSize := by decide
    exact .inr (by omega)

/-- A boolean or a number on a bare line is one plain scalar that is spelled as that. -/
theorem exists_plain (bare : IsBare text) (noComment : '#' ∉ text)
    (done : Node.parse text = .ok node) (typed : node.isTyped = true) :
    ∃ words blanks, text.dropWhile (· == ' ') = words ++ blanks ∧
      (∀ c ∈ blanks, isBlank c = true) ∧ Scalar.plain (String.ofList words) = .ok node := by
  obtain ⟨start, first, rest, tokens, leads⟩ := leadsTo_of_isTyped done typed
  unfold Yaml.tokens at tokens
  cases found : forbidden? text 0 0 with
  | none =>
      rw [found, Lexer.tokensOf_eq] at tokens
      obtain ⟨-, handed⟩ := List.cons.inj tokens
      obtain ⟨words, blanks, whole, blank, read, -⟩ :=
        bare.exists_words noComment handed (fun _ => id) leads
      exact ⟨words, blanks, whole, blank, read⟩
  | some cut =>
      obtain ⟨block, place⟩ := cut
      obtain ⟨⟨earlier, isPrefix, size⟩, far⟩ :=
        block_of_forbidden? (rfl : Mark.bytes [] = 0) ⟨[], List.prefix_rfl, rfl⟩ found
      have bareEarlier := bare.of_block isPrefix size far
      have noCommentEarlier : '#' ∉ earlier := fun found => noComment (isPrefix.subset found)
      obtain ⟨later, whole⟩ := isPrefix
      have cut : beforeOffset block text = earlier := by
        rw [← size, ← List.nil_append text, ← whole, beforeOffset_bytes]
      rw [found] at tokens
      dsimp only at tokens
      rw [cut, Lexer.tokensOf_eq] at tokens
      dsimp only at tokens
      split at tokens
      · rename_i fault kept
        obtain ⟨-, handed⟩ := List.cons.inj tokens
        obtain ⟨-, -, -, -, -, faultless, -⟩ :=
          bareEarlier.exists_words noCommentEarlier handed (fun _ => id) leads
        rw [faultless] at kept
        cases kept
      · dsimp only at tokens
        obtain ⟨more, handed⟩ := List.takeWhile_prefix (fun token : Token =>
          decide (token.stop.index < block)) (l := (⟨.streamStart, .start, .start⟩ : Token) ::
            (Lexer.tokensFrom (5 * earlier.length + 9) (Lexer.behindStart earlier)).1)
        rw [tokens] at handed
        obtain ⟨-, handed⟩ := List.cons.inj handed
        obtain ⟨-, -, -, -, -, -, token, member, ends⟩ :=
          bareEarlier.exists_words noCommentEarlier handed.symm
            (List.subset_append_left rest more) leads
        have before : token ∈ start :: first :: rest :=
          List.mem_cons_of_mem _ (List.mem_cons_of_mem _ member)
        rw [← tokens] at before
        have inside := List.mem_takeWhile_imp before
        rw [ends, size] at inside
        exact absurd (of_decide_eq_true inside) (Nat.lt_irrefl block)

end IsBare

end TaggedConfig.Yaml
