import TaggedConfig.Proofs.Yaml.Handing
import TaggedConfig.Proofs.Yaml.TokenLength

/-!
# The tokens of a text as one queue

A lexer that finds token after token and keeps them all ends with the tokens of its text in its
queue.  In between, candidates that have become stale are given up sooner when tokens are handed out,
but they would be given up with the next token anyway.
-/

namespace TaggedConfig.Yaml

namespace Mark

def IsBehind (mark earlier : Mark) : Prop := earlier.line ≤ mark.line ∧ earlier.index ≤ mark.index

theorem IsBehind.refl (mark : Mark) : mark.IsBehind mark := ⟨Nat.le_refl _, Nat.le_refl _⟩

theorem IsBehind.trans {first second third : Mark} (later : third.IsBehind second)
    (behind : second.IsBehind first) : third.IsBehind first :=
  ⟨Nat.le_trans behind.1 later.1, Nat.le_trans behind.2 later.2⟩

theorem next_isBehind (mark : Mark) (c : Char) : (mark.next c).IsBehind mark :=
  ⟨Nat.le_refl _, Nat.le_add_right _ _⟩

theorem nextLine_isBehind (mark : Mark) (width : Nat) : (mark.nextLine width).IsBehind mark :=
  ⟨Nat.le_succ _, Nat.le_add_right _ _⟩

end Mark

namespace Lexer

variable {lexer after last : Lexer}

theorem skipGap_isBehind (inFlow : Bool) (rest : List Char) (mark : Mark)
    (keyAllowed inComment : Bool) :
    (skipGap inFlow rest mark keyAllowed inComment).1.mark.IsBehind mark := by
  fun_induction skipGap inFlow rest mark keyAllowed inComment with
  | case1 => exact .refl _
  | case2 _ _ _ _ ih => exact ih.trans (Mark.nextLine_isBehind _ _)
  | case3 _ _ _ _ _ _ _ ih => exact ih.trans (Mark.nextLine_isBehind _ _)
  | case4 _ _ _ _ _ _ _ _ ih => exact ih.trans (Mark.next_isBehind _ _)
  | case5 _ _ _ _ _ _ _ _ _ ih => exact ih.trans (Mark.next_isBehind _ _)
  | case6 => exact .refl _

theorem isStale_of_isBehind {mark earlier : Mark} (behind : mark.IsBehind earlier)
    {candidate : KeyCandidate} (stale : isStale earlier candidate = true) :
    isStale mark candidate = true := by
  obtain ⟨lines, bytes⟩ := behind
  unfold isStale at stale ⊢
  rw [Bool.or_eq_true, decide_eq_true_eq, decide_eq_true_eq] at stale ⊢
  omega

/-- What is kept at a later place is kept at an earlier one, or not looked at there any more. -/
theorem keepCandidate_of_isBehind (behind : after.mark.IsBehind lexer.mark)
    {candidate kept : Option KeyCandidate} (keeps : after.keepCandidate candidate = .ok kept) :
    ∃ between, lexer.keepCandidate candidate = .ok between ∧
      after.keepCandidate between = .ok kept := by
  cases candidate with
  | none => exact ⟨none, rfl, keeps⟩
  | some candidate =>
      cases stale : isStale lexer.mark candidate with
      | false =>
          refine ⟨some candidate, ?_, keeps⟩
          unfold keepCandidate
          dsimp only
          rw [stale]
          rfl
      | true =>
          have given : after.abandon candidate = .ok kept := by
            unfold keepCandidate at keeps
            dsimp only at keeps
            rwa [isStale_of_isBehind behind stale] at keeps
          have optional : candidate.required = false := by
            unfold abandon at given
            cases required : candidate.required with
            | false => rfl
            | true =>
                rw [required] at given
                cases given
          refine ⟨none, ?_, congrArg Except.ok (abandon_eq_none given).symm⟩
          unfold keepCandidate abandon
          dsimp only
          rw [stale, optional]
          rfl

theorem keepCandidates_of_isBehind (behind : after.mark.IsBehind lexer.mark)
    {candidates kept : List (Option KeyCandidate)}
    (keeps : candidates.mapM after.keepCandidate = .ok kept) :
    ∃ between, candidates.mapM lexer.keepCandidate = .ok between ∧
      between.length = candidates.length ∧ between.mapM after.keepCandidate = .ok kept := by
  induction candidates generalizing kept with
  | nil => exact ⟨[], rfl, rfl, keeps⟩
  | cons candidate rest ih =>
      rw [List.mapM_cons] at keeps
      obtain ⟨first, keepsFirst, keeps⟩ := exists_of_bind_eq_ok keeps
      obtain ⟨others, keepsOthers, same⟩ := exists_of_bind_eq_ok keeps
      cases same
      obtain ⟨here, given, later⟩ := keepCandidate_of_isBehind behind keepsFirst
      obtain ⟨between, givenOthers, length, laterOthers⟩ := ih keepsOthers
      refine ⟨here :: between, ?_, congrArg (· + 1) length, ?_⟩
      · rw [List.mapM_cons, given, givenOthers]
        rfl
      · rw [List.mapM_cons, later, laterOthers]
        rfl

def atToken (lexer : Lexer) : Lexer :=
  let gap := skipGap lexer.inFlow lexer.cursor.rest lexer.mark lexer.keyAllowed false
  (lexer.moveTo gap.1).allowKey gap.2

theorem prepare_eq (lexer : Lexer) :
    lexer.prepare =
      lexer.atToken.dropStale >>= fun fresh => pure (fresh.closeBlocks fresh.mark.column) := rfl

theorem atToken_isBehind (lexer : Lexer) : lexer.atToken.mark.IsBehind lexer.mark :=
  skipGap_isBehind _ _ _ _ _

/-- Candidates matter to the gap only by their number. -/
theorem atToken_withCandidates (lexer : Lexer) {candidates : List (Option KeyCandidate)}
    (length : candidates.length = lexer.candidates.length) :
    ({ lexer with candidates } : Lexer).atToken = { lexer.atToken with candidates } := by
  have sameFlow : ({ lexer with candidates } : Lexer).inFlow = lexer.inFlow := by
    unfold inFlow
    rw [← length]
  unfold atToken
  rw [sameFlow]
  rfl

theorem dropStale_eq_ok {candidates : List (Option KeyCandidate)}
    (keeps : lexer.candidates.mapM lexer.keepCandidate = .ok candidates) :
    lexer.dropStale = .ok { lexer with candidates } := by
  unfold dropStale
  rw [keeps]
  rfl

/-- Giving up stale candidates before the next token changes nothing about it. -/
theorem dropStale_of_prepare {ready : Lexer} (prepared : lexer.prepare = .ok ready) :
    ∃ fresh, lexer.dropStale = .ok fresh ∧ fresh.prepare = .ok ready := by
  rw [prepare_eq] at prepared
  obtain ⟨dropped, drops, same⟩ := exists_of_bind_eq_ok prepared
  obtain ⟨kept, keeps, sameDropped⟩ := exists_of_bind_eq_ok drops
  obtain ⟨between, given, length, later⟩ :=
    keepCandidates_of_isBehind lexer.atToken_isBehind keeps
  refine ⟨{ lexer with candidates := between }, dropStale_eq_ok given, ?_⟩
  have laterDrops : ({ lexer.atToken with candidates := between } : Lexer).dropStale =
      .ok { lexer.atToken with candidates := kept } := dropStale_eq_ok later
  rw [prepare_eq, lexer.atToken_withCandidates length, laterDrops]
  cases sameDropped
  exact same

theorem dropStale_of_fetch (found : lexer.fetch = .ok after) :
    ∃ fresh, lexer.dropStale = .ok fresh ∧ fresh.fetch = .ok after := by
  obtain ⟨ready, prepared, found⟩ := exists_of_bind_eq_ok found
  obtain ⟨fresh, dropped, prepared⟩ := dropStale_of_prepare prepared
  refine ⟨fresh, dropped, ?_⟩
  unfold fetch
  rw [prepared]
  exact found

/-- A number of steps that find tokens lead from one state to another. -/
inductive Fetches : Nat → Lexer → Lexer → Prop
  | none (lexer : Lexer) : Fetches 0 lexer lexer
  | step {count : Nat} {first second last : Lexer} (found : first.fetch = .ok second)
      (later : Fetches count second last) : Fetches (count + 1) first last

/-- A token that can be handed out plays no part in finding the others. -/
theorem Fetches.behind {count : Nat} {token : Token} {front : Lexer}
    (fetches : Fetches count front last) (same : front = lexer.withFront token)
    (waits : lexer.Waits) :
    ∃ reached : Lexer, Fetches count lexer reached ∧ last = reached.withFront token := by
  induction fetches generalizing lexer with
  | none => exact ⟨lexer, .none lexer, same⟩
  | step found later ih =>
      rw [same, fetch_isBlind.front waits] at found
      cases finds : lexer.fetch with
      | error fault =>
          rw [finds] at found
          cases found
      | ok next =>
          rw [finds] at found
          obtain ⟨reached, fetches, sameLast⟩ :=
            ih (Except.ok.inj found).symm (fetch_isBlind.keeps waits finds)
          exact ⟨reached, .step finds fetches, sameLast⟩

/-- A lexer that has read its text to the end: nothing can become a key any more. -/
structure IsDone (lexer : Lexer) : Prop where
  noCandidate : lexer.candidates = [none]
  ended : ∃ tokens stop, lexer.queue = tokens ++ [stop] ∧ stop.kind = .streamEnd ∧
    ∀ token ∈ tokens, token.kind ≠ .streamEnd

theorem IsDone.queue_ne_nil (done : lexer.IsDone) : lexer.queue ≠ [] := by
  obtain ⟨tokens, stop, queue, -⟩ := done.ended
  rw [queue]
  exact List.append_ne_nil_of_right_ne_nil _ (List.cons_ne_nil _ _)

theorem IsDone.isUnsettled_eq_false (done : lexer.IsDone) : lexer.isUnsettled = false := by
  unfold isUnsettled
  rw [done.noCandidate, List.isEmpty_eq_false_iff.mpr done.queue_ne_nil]
  rfl

theorem IsDone.dropStale_eq (done : lexer.IsDone) : lexer.dropStale = .ok lexer := by
  have none : lexer.candidates = [none] := done.noCandidate
  unfold dropStale
  rw [none]
  change Except.ok { lexer with candidates := [.none] } = _
  rw [← none]

/-- Stale candidates can be given up before any further token is found. -/
theorem Fetches.dropStale {count : Nat} (fetches : Fetches count lexer last) (done : last.IsDone) :
    ∃ fresh, lexer.dropStale = .ok fresh ∧ Fetches count fresh last := by
  cases fetches with
  | none => exact ⟨lexer, done.dropStale_eq, .none lexer⟩
  | step found later =>
      obtain ⟨fresh, dropped, found⟩ := dropStale_of_fetch found
      exact ⟨fresh, dropped, .step found later⟩

theorem settle_succ (fuel : Nat) (lexer : Lexer) :
    lexer.settle (fuel + 1) =
      (if lexer.queue.isEmpty then .ok lexer else lexer.dropStale) >>= fun fresh =>
        if fresh.isUnsettled then fresh.fetch >>= settle fuel else pure fresh := by
  unfold settle
  split
  · rfl
  · rfl

/-- Tokens are found until the first one can be handed out. -/
theorem settle_of_fetches {count fuel : Nat} (fetches : Fetches count lexer last)
    (done : last.IsDone) (waits : lexer.Waits) (enough : count < fuel) :
    ∃ settled : Lexer, lexer.settle fuel = .ok settled ∧ settled.isUnsettled = false ∧
      settled.Waits ∧ ∃ further ≤ count, Fetches further settled last := by
  induction count generalizing lexer fuel with
  | zero =>
      obtain ⟨fuel, rfl⟩ := Nat.exists_eq_add_one.mpr enough
      obtain rfl : lexer = last := by
        cases fetches
        rfl
      have some : lexer.queue.isEmpty = false := List.isEmpty_eq_false_iff.mpr done.queue_ne_nil
      refine ⟨lexer, ?_, done.isUnsettled_eq_false, waits, 0, Nat.le_refl _, .none lexer⟩
      rw [settle_succ, some, done.dropStale_eq]
      change (if lexer.isUnsettled then _ else _) = _
      rw [done.isUnsettled_eq_false]
      rfl
  | succ count ih =>
      obtain ⟨fuel, rfl⟩ := Nat.exists_eq_add_one.mpr (Nat.zero_lt_of_lt enough)
      have fresh : ∃ fresh : Lexer,
          (if lexer.queue.isEmpty then Except.ok lexer else lexer.dropStale) = .ok fresh ∧
            fresh.Waits ∧ Fetches (count + 1) fresh last := by
        split
        · exact ⟨lexer, rfl, waits, fetches⟩
        · obtain ⟨fresh, dropped, fetches⟩ := fetches.dropStale done
          exact ⟨fresh, dropped, dropStale_isBlind.keeps waits dropped, fetches⟩
      obtain ⟨fresh, given, waits, fetches⟩ := fresh
      cases unsettled : fresh.isUnsettled with
      | false =>
          refine ⟨fresh, ?_, unsettled, waits, count + 1, Nat.le_refl _, fetches⟩
          rw [settle_succ, given]
          change (if fresh.isUnsettled then _ else _) = _
          rw [unsettled]
          rfl
      | true =>
          cases fetches with
          | step found later =>
              obtain ⟨settled, settles, result, waits, further, less, fetches⟩ :=
                ih later (fetch_isBlind.keeps waits found) (Nat.lt_of_succ_lt_succ enough)
              refine ⟨settled, ?_, result, waits, further, Nat.le_succ_of_le less, fetches⟩
              rw [settle_succ, given]
              change (if fresh.isUnsettled then _ else _) = _
              rw [unsettled, found]
              exact settles

theorem Waits.handOut {settled : Lexer} (waits : settled.Waits)
    (result : settled.isUnsettled = false) (queue : List Token) :
    ({ settled with queue, taken := settled.taken + 1 } : Lexer).Waits := by
  refine ⟨Nat.succ_pos _, fun candidate found => ?_⟩
  unfold isUnsettled at result
  obtain ⟨-, other⟩ := Bool.or_eq_false_iff.mp result
  have here := List.any_eq_false.mp other _ found
  have least := waits.later candidate found
  have differs : candidate.number ≠ settled.taken := by simpa using here
  change settled.taken + 1 ≤ candidate.number
  omega

theorem IsDone.of_withFront {token : Token} (done : (lexer.withFront token).IsDone)
    (further : token.kind ≠ .streamEnd) : lexer.IsDone := by
  obtain ⟨noCandidate, tokens, stop, queue, stops, others⟩ := done
  refine ⟨noCandidate, ?_⟩
  have whole : token :: lexer.queue = tokens ++ [stop] := queue
  cases tokens with
  | nil =>
      obtain ⟨rfl, -⟩ := List.cons.inj whole
      exact absurd stops further
  | cons first tokens =>
      obtain ⟨-, rest⟩ := List.cons.inj whole
      exact ⟨tokens, stop, rest, stops, fun other found => others other (List.mem_cons_of_mem _ found)⟩

theorem IsDone.queue_eq_nil {token : Token} (done : (lexer.withFront token).IsDone)
    (stops : token.kind = .streamEnd) : lexer.queue = [] := by
  obtain ⟨-, tokens, stop, queue, -, others⟩ := done
  have whole : token :: lexer.queue = tokens ++ [stop] := queue
  cases tokens with
  | nil => exact (List.cons.inj whole).2
  | cons first tokens =>
      obtain ⟨rfl, -⟩ := List.cons.inj whole
      exact absurd stops (others token List.mem_cons_self)

/-- Handing out tokens in between gives the same tokens as keeping them all. -/
theorem tokensFrom_of_fetches {count fuel : Nat} (fetches : Fetches count lexer last)
    (done : last.IsDone) (waits : lexer.Waits) (enough : count + last.queue.length ≤ fuel) :
    lexer.tokensFrom fuel = (last.queue, none) := by
  induction fuel generalizing count lexer last with
  | zero =>
      have some := List.length_pos_iff.mpr done.queue_ne_nil
      omega
  | succ fuel ih =>
      have some := List.length_pos_iff.mpr done.queue_ne_nil
      obtain ⟨settled, settles, result, waits, further, less, fetches⟩ :=
        settle_of_fetches fetches done waits (by omega : count < fuel + 1)
      unfold tokensFrom
      rw [settles]
      dsimp only
      cases given : settled.queue with
      | nil =>
          unfold isUnsettled at result
          rw [given] at result
          cases result
      | cons token queue =>
          let behind : Lexer := { settled with queue, taken := settled.taken + 1 }
          have front : settled = behind.withFront token := by
            unfold withFront
            rw [Nat.add_sub_cancel, ← given]
          have waitsBehind : behind.Waits := waits.handOut result queue
          obtain ⟨reached, fetchesBehind, rfl⟩ := fetches.behind front waitsBehind
          have length : (reached.withFront token).queue.length = reached.queue.length + 1 := rfl
          dsimp only
          split
          · rename_i stops
            change _ = (token :: reached.queue, _)
            rw [done.queue_eq_nil stops]
          · rename_i goesOn
            change (token :: (behind.tokensFrom fuel).1, (behind.tokensFrom fuel).2) = _
            rw [ih fetchesBehind (done.of_withFront goesOn) waitsBehind (by omega)]
            rfl

def behindStart (text : List Char) : Lexer := { ofText text with queue := [], taken := 1 }

theorem behindStart_waits (text : List Char) : (behindStart text).Waits := by
  refine ⟨Nat.one_pos, fun candidate found => ?_⟩
  cases List.mem_singleton.mp found

theorem ofText_eq (text : List Char) :
    ofText text = (behindStart text).withFront ⟨.streamStart, .start, .start⟩ := rfl

theorem tokensOf_eq (text : List Char) :
    tokensOf text =
      (⟨.streamStart, .start, .start⟩ :: ((behindStart text).tokensFrom (5 * text.length + 9)).1,
        ((behindStart text).tokensFrom (5 * text.length + 9)).2) := by
  have start : (ofText text).settle (5 * text.length + 9 + 1) = .ok (ofText text) := by
    rw [settle_succ]
    rfl
  change (ofText text).tokensFrom (5 * text.length + 9 + 1) = _
  unfold tokensFrom
  rw [start]
  rfl

/-- The tokens of a text are those that a lexer collects on its way through the text. -/
theorem tokensOf_of_fetches {count : Nat} {text : List Char}
    (fetches : Fetches count (ofText text) last) (done : last.IsDone)
    (enough : count + last.queue.length ≤ 5 * (text.length + 2)) :
    tokensOf text = (last.queue, none) := by
  obtain ⟨reached, fetchesBehind, rfl⟩ := fetches.behind (ofText_eq text) (behindStart_waits text)
  have length : (reached.withFront ⟨.streamStart, .start, .start⟩).queue.length =
      reached.queue.length + 1 := rfl
  have later := tokensFrom_of_fetches fetchesBehind (done.of_withFront nofun)
    (behindStart_waits text) (by omega : count + reached.queue.length ≤ 5 * text.length + 9)
  rw [tokensOf_eq, later]
  rfl

end Lexer

end TaggedConfig.Yaml
