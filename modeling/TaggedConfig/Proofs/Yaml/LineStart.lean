import TaggedConfig.Proofs.RoundTrip.Leads
import TaggedConfig.Proofs.Yaml.QueueHead

/-!
# The first token of a line

On a line of its own without comments, a plain scalar ends with the line or in front of a colon with
a gap behind it, and then it is a key unless the colon is out of reach.  A directive takes the whole
line.
-/

namespace TaggedConfig.Yaml

/-- Blanks end no line and have no meaning of their own. -/
theorem of_isBlank {c : Char} (blank : isBlank c = true) :
    isBreak c = false ∧ c ≠ '#' ∧ c ≠ ':' ∧ isAllowed c = true := by
  unfold isBlank at blank
  rcases Bool.or_eq_true_iff.mp blank with space | tab
  · rw [beq_iff_eq.mp space]
    decide
  · rw [beq_iff_eq.mp tab]
    decide

namespace Plain

variable {began mark : Mark} {pending : Folding} {done text rest : List Char} {c : Char}

theorem scanFrom_blank (blank : isBlank c = true) (intact : pending.broken = false) :
    scanFrom false 0 began (c :: rest) mark pending done =
      scanFrom false 0 began rest (mark.next c) (pending.addBlank c) done := by
  have noReturn : c ≠ '\r' := by
    rintro rfl
    cases blank
  conv_lhs => unfold scanFrom
  simp [blank, intact, noReturn]

/-- A line is cut into a plain scalar, blanks behind it, and nothing or a colon with a gap. -/
structure IsCut (line words blanks rest : List Char) : Prop where
  whole : line = words ++ blanks ++ rest
  last : ∀ c ∈ words.getLast?, isBlank c = false
  blank : ∀ c ∈ blanks, isBlank c = true
  ends : rest = [] ∨ ∃ tail, rest = ':' :: tail ∧ startsWithGap tail = true

/-- The scalar ends behind the words that have been read. -/
theorem IsCut.behind (last : ∀ c ∈ done.head?, isBlank c = false)
    (blank : ∀ c ∈ pending.reversedText, isBlank c = true)
    (ends : rest = [] ∨ ∃ tail, rest = ':' :: tail ∧ startsWithGap tail = true) :
    IsCut (done.reverse ++ (pending.reversedText.reverse ++ rest)) done.reverse
      pending.reversedText.reverse rest where
  whole := (List.append_assoc ..).symm
  last := by rwa [List.getLast?_reverse]
  blank := fun c found => blank c (List.mem_reverse.mp found)
  ends := ends

/--
What has been read and what is left stay the same line: the scalar is its beginning, and only blanks
follow up to the place where it ends.
-/
theorem scanFrom_onLine (began mark : Mark) (pending : Folding) (done : List Char)
    (line : ∀ c ∈ text, isBreak c = false ∧ c ≠ '#') (last : ∀ c ∈ done.head?, isBlank c = false)
    (intact : pending.broken = false) (blank : ∀ c ∈ pending.reversedText, isBlank c = true)
    (inside : pending.isPending = true → 0 < mark.column) :
    ∃ words blanks read rest,
      IsCut (done.reverse ++ (pending.reversedText.reverse ++ text)) words blanks rest ∧
      text = read ++ rest ∧
      scanFrom false 0 began text mark pending done =
        .ok ⟨words, ⟨rest, mark.past read⟩, false⟩ := by
  induction text generalizing mark pending done with
  | nil =>
      refine ⟨done.reverse, pending.reversedText.reverse, [], [], .behind last blank (.inl rfl),
        rfl, ?_⟩
      unfold scanFrom
      rw [intact]
      rfl
  | cons c text ih =>
      obtain ⟨⟨unbroken, noComment⟩, later⟩ := List.forall_mem_cons.mp line
      cases here : isBlank c with
      | true =>
          obtain ⟨still, kept⟩ := Folding.addBlank_intact intact c
          have blankStill : ∀ d ∈ (pending.addBlank c).reversedText, isBlank d = true := by
            rw [kept]
            exact List.forall_mem_cons.mpr ⟨here, blank⟩
          obtain ⟨words, blanks, read, rest, cut, rfl, scanned⟩ :=
            ih (mark.next c) (pending.addBlank c) done later last still blankStill
              fun _ => Nat.succ_pos _
          refine ⟨words, blanks, c :: read, rest, ?_, rfl, ?_⟩
          · rw [kept] at cut
            simpa using cut
          · rw [scanFrom_blank here intact, scanned, Mark.past_cons unbroken]
      | false =>
          have goesOn : (pending.isPending && endsBefore false 0 mark (c :: text)) = false := by
            cases waits : pending.isPending with
            | false => rfl
            | true =>
                have column : mark.column ≠ 0 := (inside waits).ne'
                simp [endsBefore, column, noComment]
          rw [scanFrom_other here unbroken, goesOn, if_neg Bool.false_ne_true]
          split
          · rename_i colon
            obtain ⟨sign, gap⟩ := Bool.and_eq_true_iff.mp colon
            refine ⟨done.reverse, pending.reversedText.reverse, [], c :: text,
              .behind last blank (.inr ⟨text, by rw [beq_iff_eq.mp sign], gap⟩), rfl, ?_⟩
            rw [intact]
            rfl
          · obtain ⟨words, blanks, read, rest, cut, rfl, scanned⟩ :=
              ih (mark.next c) .empty (c :: (pending.reversedText ++ done)) later
                (fun d first => Option.some.inj first ▸ here) rfl (List.forall_mem_nil _)
                fun waits => absurd waits Bool.false_ne_true
            refine ⟨words, blanks, c :: read, rest, ?_, rfl, ?_⟩
            · simpa [Folding.reversedText, Folding.empty] using cut
            · rw [scanned, Mark.past_cons unbroken]

/-- A plain scalar on a line is read up to where the line is cut. -/
theorem scan_onLine (mark : Mark) (line : ∀ c ∈ text, isBreak c = false ∧ c ≠ '#') :
    ∃ words blanks rest, IsCut text words blanks rest ∧
      scan false 0 ⟨text, mark⟩ = .ok ⟨words, ⟨rest, mark.past (words ++ blanks)⟩, false⟩ := by
  obtain ⟨words, blanks, read, rest, cut, split, scanned⟩ :=
    scanFrom_onLine mark mark .empty [] line nofun rfl nofun nofun
  have whole : text = words ++ blanks ++ rest := cut.whole
  obtain rfl : read = words ++ blanks := List.append_cancel_right (split.symm.trans whole)
  exact ⟨words, blanks, rest, cut, scanned⟩

end Plain

namespace Lexer

/-- On a line, only spaces stand in front of a token: a tab is no indentation. -/
theorem skipGap_onLine {text : List Char} (line : ∀ c ∈ text, isBreak c = false ∧ c ≠ '#')
    {mark : Mark} (noOrderMark : text.head? = some '\ufeff' → mark.column ≠ 0) :
    skipGap false text mark true false =
      (⟨text.dropWhile (· == ' '), mark.past (text.takeWhile (· == ' '))⟩, true) := by
  induction text generalizing mark with
  | nil => rfl
  | cons c text ih =>
      obtain ⟨⟨unbroken, noComment⟩, later⟩ := List.forall_mem_cons.mp line
      by_cases space : c = ' '
      · subst space
        rw [skipGap_space, ih later fun _ => Nat.succ_ne_zero _,
          List.dropWhile_cons_of_pos rfl, List.takeWhile_cons_of_pos rfl,
          Mark.past_cons unbroken]
      · have noReturn := ne_of_isBreak_eq_false unbroken
        have noMark : (c == '\ufeff' && mark.column == 0) = false := by
          rw [Bool.and_eq_false_imp, beq_iff_eq, beq_eq_false_iff_ne]
          rintro rfl
          exact noOrderMark rfl
        have differs : (c == ' ') = false := beq_eq_false_iff_ne.mpr space
        rw [List.dropWhile_cons, List.takeWhile_cons, differs]
        conv_lhs => unfold skipGap
        simp [unbroken, noReturn, space, noComment, noMark]

def atFirst (text : List Char) : Lexer :=
  (behindStart text).moveTo
    ⟨text.dropWhile (· == ' '), Mark.start.past (text.takeWhile (· == ' '))⟩

theorem fetch_behindStart {text : List Char} (line : ∀ c ∈ text, isBreak c = false ∧ c ≠ '#')
    (noOrderMark : text.head? ≠ some '\ufeff') :
    (behindStart text).fetch = (atFirst text).dispatch := by
  have here : (behindStart text).atToken = atFirst text := by
    change ((behindStart text).moveTo (skipGap false text .start true false).1).allowKey
      (skipGap false text .start true false).2 = _
    rw [skipGap_onLine line fun first => absurd first noOrderMark]
    rfl
  unfold fetch
  rw [prepare_eq, here]
  rfl

variable {lexer next : Lexer}

theorem abandon_optional (lexer : Lexer) {candidate : KeyCandidate}
    (optional : candidate.required = false) : lexer.abandon candidate = .ok none := by
  unfold abandon
  rw [optional]
  rfl

/-- An optional candidate is kept as long as it is within reach. -/
theorem dropStale_optional {candidate : KeyCandidate} (only : lexer.candidates = [some candidate])
    (optional : candidate.required = false) :
    lexer.dropStale = .ok { lexer with
      candidates := [if isStale lexer.mark candidate then none else some candidate] } := by
  refine dropStale_eq_ok ?_
  have keeps : lexer.keepCandidate (some candidate) =
      .ok (if isStale lexer.mark candidate then none else some candidate) := by
    unfold keepCandidate
    dsimp only
    rw [lexer.abandon_optional optional]
    exact (apply_ite Except.ok _ _ _).symm
  rw [only, List.mapM_cons, keeps]
  rfl

/-- At the end of a text outside of collections, the end of the stream is the only token. -/
theorem fetch_atEnd {candidate? : Option KeyCandidate} (ended : lexer.cursor.rest = [])
    (outer : lexer.outerIndents = []) (candidates : lexer.candidates = [candidate?])
    (optional : ∀ candidate ∈ candidate?, candidate.required = false) :
    ∃ mark, mark.index = lexer.mark.index ∧ lexer.fetch =
      .ok { lexer with
        cursor := ⟨[], mark⟩
        keyAllowed := false
        candidates := [none]
        queue := lexer.queue ++ [⟨.streamEnd, mark, mark⟩] } := by
  obtain ⟨⟨_, mark⟩, indent, _, keyAllowed, _, queue, taken⟩ := lexer
  cases ended
  cases outer
  cases candidates
  refine ⟨if mark.column = 0 then mark else ⟨mark.index, mark.line + 1, 0⟩, ?_, ?_⟩
  · split
    · rfl
    · rfl
  · cases candidate? with
    | none => rfl
    | some candidate =>
        have free : candidate.required = false := optional candidate rfl
        let here : Lexer := ⟨⟨[], mark⟩, indent, [], keyAllowed, [some candidate], queue, taken⟩
        have fresh : here.dropStale = .ok { here with
            candidates := [if isStale mark candidate then none else some candidate] } :=
          dropStale_optional rfl free
        change (here.dropStale >>= _) >>= dispatch = _
        rw [fresh]
        split
        · rfl
        · change (Except.map _ (abandon _ candidate) >>= _) = _
          rw [abandon_optional _ free]
          rfl

theorem tokensFrom_of_last {text : List Char} {token : Token} {candidate? : Option KeyCandidate}
    (found : (behindStart text).fetch = .ok next) (queue : next.queue = [token])
    (other : token.kind ≠ .streamEnd) (ended : next.cursor.rest = [])
    (outer : next.outerIndents = []) (candidates : next.candidates = [candidate?])
    (optional : ∀ candidate ∈ candidate?, candidate.required = false) :
    ∃ mark, mark.index = next.mark.index ∧
      (behindStart text).tokensFrom (5 * text.length + 9) =
        ([token, ⟨.streamEnd, mark, mark⟩], none) := by
  obtain ⟨mark, place, last⟩ := fetch_atEnd ended outer candidates optional
  rw [queue] at last
  refine ⟨mark, place, tokensFrom_of_fetches (.step found (.step last (.none _))) ?_
    (behindStart_waits text) ?_⟩
  · refine ⟨rfl, [token], _, rfl, rfl, fun first same => ?_⟩
    rw [List.mem_singleton.mp same]
    exact other
  · change 2 + 2 ≤ _
    omega

theorem settle_of_queue_eq_nil (none : lexer.queue = []) (fuel : Nat) :
    lexer.settle (fuel + 1) = lexer.fetch >>= settle fuel := by
  have unsettled : lexer.isUnsettled = true := by
    unfold isUnsettled
    rw [none]
    rfl
  rw [settle_succ, none]
  change (if lexer.isUnsettled then _ else _) = _
  rw [unsettled]
  rfl

/-- The first token is handed out once a token has been found and the queue is settled. -/
theorem exists_settled {fuel : Nat} {first : Token} {others : List Token} (none : lexer.queue = [])
    (handed : (lexer.tokensFrom (fuel + 1)).1 = first :: others) :
    ∃ next settled queue, lexer.fetch = .ok next ∧ next.settle fuel = .ok settled ∧
      settled.queue = first :: queue ∧ (others = [] ∨
        others =
          (({ settled with queue, taken := settled.taken + 1 } : Lexer).tokensFrom fuel).1) := by
  unfold tokensFrom at handed
  cases settles : lexer.settle (fuel + 1) with
  | error fault =>
      rw [settles] at handed
      cases handed
  | ok settled =>
      rw [settles] at handed
      dsimp only at handed
      rw [settle_of_queue_eq_nil none] at settles
      obtain ⟨next, found, settles⟩ := exists_of_bind_eq_ok settles
      split at handed
      · cases handed
      · rename_i token queue waiting
        split at handed
        · cases handed
          exact ⟨next, settled, queue, found, settles, waiting, .inl rfl⟩
        · cases handed
          exact ⟨next, settled, queue, found, settles, waiting, .inr rfl⟩

theorem fetchDirective_atFirst {text : List Char} (line : ∀ c ∈ text, isBreak c = false ∧ c ≠ '#')
    (found : (atFirst text).fetchDirective = .ok next) :
    ∃ kind start stop, kind.isDirective = true ∧ next.queue = [⟨kind, start, stop⟩] ∧
      next.cursor.rest = [] ∧ next.outerIndents = [] ∧ next.candidates = [none] := by
  obtain ⟨closed, dropped, found⟩ := exists_of_bind_eq_ok found
  cases dropped
  obtain ⟨⟨kind, after⟩, scanned, found⟩ := exists_of_bind_eq_ok found
  have kept := ((Block.skipToLineEnd_suffix after).trans (Directive.scan_suffix scanned)).trans
    (List.dropWhile_suffix _)
  have ended : startsWithBreak (Block.skipToLineEnd after).rest = true →
      (Block.skipToLineEnd after).rest = [] := by
    intro ends
    cases left : (Block.skipToLineEnd after).rest with
    | nil => rfl
    | cons c rest =>
        rw [left] at ends kept
        change isBreak c = true at ends
        rw [(line c (kept.subset List.mem_cons_self)).1] at ends
        cases ends
  dsimp only at found
  cases ends : startsWithBreak (Block.skipToLineEnd after).rest with
  | false =>
      rw [ends] at found
      cases found
  | true =>
      rw [ends] at found
      cases found
      refine ⟨kind, _, _, Directive.isDirective_of_scan scanned, rfl, ?_, rfl, rfl⟩
      change (Block.skipBreak (Block.skipToLineEnd after)).rest = []
      unfold Block.skipBreak
      rw [ended ends]
      exact ended ends

def behindWords (text words : List Char) (after : Cursor) : Lexer :=
  { atFirst text with
    cursor := after
    keyAllowed := false
    candidates := [some ⟨false, 1, (atFirst text).mark⟩]
    queue := [⟨.scalar words .plain, (atFirst text).mark, after.mark⟩] }

theorem fetchPlain_atFirst {text : List Char} (line : ∀ c ∈ text, isBreak c = false ∧ c ≠ '#') :
    ∃ words blanks rest, Plain.IsCut (text.dropWhile (· == ' ')) words blanks rest ∧
      (atFirst text).fetchPlain =
        .ok (behindWords text words ⟨rest, (atFirst text).mark.past (words ++ blanks)⟩) := by
  obtain ⟨words, blanks, rest, cut, scanned⟩ :=
    Plain.scan_onLine (atFirst text).mark fun c found =>
      line c ((List.dropWhile_suffix (· == ' ')).subset found)
  refine ⟨words, blanks, rest, cut, ?_⟩
  have elsewhere : ((atFirst text).indent == ((atFirst text).mark.column : Int)) = false := by
    change ((-1 : Int) == _) = false
    rw [beq_eq_false_iff_ne]
    omega
  have saved : (atFirst text).saveCandidate = .ok { atFirst text with
      candidates := [some ⟨false, 1, (atFirst text).mark⟩] } := by
    change Except.ok ((atFirst text).setCandidate (some ⟨!false && _, _, _⟩)) = _
    rw [elsewhere]
    rfl
  unfold fetchPlain
  rw [saved]
  change Plain.scan false 0 ⟨text.dropWhile (· == ' '), (atFirst text).mark⟩ >>= _ = _
  rw [scanned]
  rfl

/-- In front of a colon there is nothing to do but to look after the candidate. -/
theorem fetch_colon {tail : List Char} (written : lexer.cursor.rest = ':' :: tail)
    (gap : startsWithGap tail = true) (outside : lexer.indent = -1)
    (kept : lexer.candidates.mapM lexer.keepCandidate = .ok lexer.candidates) :
    lexer.fetch = lexer.fetchValue := by
  have starts : StartsToken lexer.cursor.rest := by
    rw [written]
    rintro c same
    cases same
    decide
  have inside : lexer.indent ≤ lexer.mark.column := by
    rw [outside]
    omega
  unfold fetch
  rw [prepare_of_token starts kept (.inr inside)]
  exact dispatch_colon written gap

/-- A colon behind a plain scalar makes it a key, or it is a fault if it is out of reach. -/
theorem first_of_colon {text words tail : List Char} {mark : Mark} {fuel : Nat} {settled : Lexer}
    {first : Token} {queue : List Token} (gap : startsWithGap tail = true)
    (settles : (behindWords text words ⟨':' :: tail, mark⟩).settle (fuel + 1) = .ok settled)
    (waiting : settled.queue = first :: queue) :
    first.kind.isLead = false ∨ first.kind = .scalar words .plain ∧ ∀ fuel,
      (({ settled with queue, taken := settled.taken + 1 } : Lexer).tokensFrom fuel).1 = [] := by
  let behind := behindWords text words ⟨':' :: tail, mark⟩
  let candidate : KeyCandidate := ⟨false, 1, (atFirst text).mark⟩
  have dropped : behind.dropStale = .ok { behind with
      candidates := [if isStale mark candidate then none else some candidate] } :=
    dropStale_optional rfl rfl
  rw [settle_succ] at settles
  change (behind.dropStale >>= _) = _ at settles
  cases stale : isStale mark candidate with
  | true =>
      rw [dropped, stale] at settles
      cases settles
      cases waiting
      refine .inr ⟨rfl, fun fuel => ?_⟩
      cases fuel with
      | zero => rfl
      | succ fuel =>
          unfold tokensFrom
          rw [settle_of_queue_eq_nil rfl, fetch_colon rfl gap rfl rfl]
          rfl
  | false =>
      rw [stale] at dropped
      have kept : behind.candidates.mapM behind.keepCandidate = .ok behind.candidates := by
        obtain ⟨candidates, keeps, same⟩ := exists_of_bind_eq_ok dropped
        cases same
        exact keeps
      rw [dropped] at settles
      change (behind.fetch >>= settle fuel) = _ at settles
      obtain ⟨next, found, settles⟩ := exists_of_bind_eq_ok settles
      rw [fetch_colon rfl gap rfl kept] at found
      cases found
      have opened := keepsFirst_openBlock (behind.insert 1 .key candidate.mark)
        candidate.mark.column 1 candidate.mark
      have keeps := (opened.trans (.of_append rfl)).trans (keepsFirst_settle settles)
      exact .inl (keeps.isLead_eq_false ⟨_, _, rfl, rfl⟩ waiting)

end Lexer

end TaggedConfig.Yaml
