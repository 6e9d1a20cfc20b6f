import TaggedConfig.Proofs.OneLine.Characters
import TaggedConfig.Proofs.RoundTrip.Tokens

/-!
# The tokens of one line

On one line that holds no colon, nothing becomes a key.  So a text is read by its tokens alone: tags,
plain scalars, and the signs of sequences in brackets.
-/

namespace TaggedConfig.Yaml

/-- A plain scalar on one line: words with spaces between them, of which the first begins a scalar. -/
structure IsLinePlain (text : List Char) : Prop where
  begins : ∃ c rest, text = c :: rest ∧
    (isOpening c = true ∨ c = '-' ∧ ∃ d ∈ rest.head?, isOpening d = true)
  inner : ∀ c ∈ text, isInner c = true ∨ c = ' '
  last : ∀ c ∈ text.getLast?, c ≠ ' '

def EndsPlain (inFlow : Bool) (rest : List Char) : Prop :=
  rest = [] ∨ inFlow = true ∧ ∃ c ∈ rest.head?, isFlowIndicator c = true

theorem of_isInner {c : Char} (inner : isInner c = true) :
    isBlank c = false ∧ isBreak c = false ∧ isFlowIndicator c = false ∧ c ≠ ':' ∧ c ≠ '#' := by
  unfold isInner at inner
  simp only [Bool.not_eq_true', Bool.or_eq_false_iff, beq_eq_false_iff_ne] at inner
  obtain ⟨⟨⟨⟨noBlank, unbroken⟩, noIndicator⟩, noColon⟩, noComment⟩ := inner
  exact ⟨noBlank, unbroken, noIndicator, noColon, noComment⟩

theorem isInner_of_isOpening {c : Char} (opening : isOpening c = true) : isInner c = true :=
  (Bool.and_eq_true_iff.mp opening).1

namespace Plain

variable {inFlow : Bool} {began mark : Mark} {pending : Folding} {done text rest : List Char}
  {c : Char}

theorem scanFrom_gap :
    scanFrom inFlow 0 began (' ' :: rest) mark pending done =
      scanFrom inFlow 0 began rest (mark.next ' ') (pending.addBlank ' ') done := by
  conv_lhs => unfold scanFrom
  simp [isBlank]

theorem scanFrom_inner (inner : isInner c = true)
    (inside : pending.isPending = true → 0 < mark.column) :
    scanFrom inFlow 0 began (c :: rest) mark pending done =
      scanFrom inFlow 0 began rest (mark.next c) .empty (c :: (pending.reversedText ++ done)) := by
  obtain ⟨noBlank, unbroken, noIndicator, noColon, noComment⟩ := of_isInner inner
  have goesOn : (pending.isPending && endsBefore inFlow 0 mark (c :: rest)) = false := by
    cases waits : pending.isPending with
    | false => rfl
    | true =>
        have column : mark.column ≠ 0 := (inside waits).ne'
        simp [endsBefore, column, noComment]
  have noTrap : isMisplacedColon inFlow (c :: rest) = false := by
    unfold isMisplacedColon
    split
    · rename_i same
      exact absurd (List.cons.inj same).1 noColon
    · rfl
  have noReturn := ne_of_isBreak_eq_false unbroken
  conv_lhs => unfold scanFrom
  simp [noBlank, unbroken, noReturn, goesOn, noTrap, isTerminator, noColon, noIndicator]

/-- The words of a plain scalar on one line, whatever follows them. -/
theorem scanFrom_run (inner : ∀ c ∈ text, isInner c = true ∨ c = ' ')
    (last : ∀ c ∈ text.getLast?, c ≠ ' ') (intact : pending.broken = false)
    (ended : text = [] → pending = .empty) (inside : pending.isPending = true → 0 < mark.column) :
    scanFrom inFlow 0 began (text ++ rest) mark pending done =
      scanFrom inFlow 0 began rest (mark.afterText text) .empty
        (text.reverse ++ (pending.reversedText ++ done)) := by
  induction text generalizing mark pending done with
  | nil =>
      rw [ended rfl]
      rfl
  | cons c others ih =>
      obtain ⟨here, later⟩ := List.forall_mem_cons.mp inner
      have lastLater : ∀ d ∈ others.getLast?, d ≠ ' ' := by
        intro d found
        refine last d ?_
        rw [List.getLast?_cons, found]
        rfl
      rw [List.cons_append]
      rcases here with here | rfl
      · rw [scanFrom_inner here inside, ih later lastLater rfl (fun _ => rfl) nofun]
        simp [Mark.afterText, Folding.reversedText, Folding.empty]
      · have some : others ≠ [] := by
          rintro rfl
          exact last ' ' rfl rfl
        obtain ⟨still, kept⟩ := Folding.addBlank_intact intact ' '
        rw [scanFrom_gap, ih later lastLater still (fun none => absurd none some)
          (fun _ => Nat.succ_pos _), kept]
        simp [Mark.afterText]

theorem scan_line (scalar : IsLinePlain text) (ends : EndsPlain inFlow rest) :
    scan inFlow 0 ⟨text ++ rest, mark⟩ = .ok ⟨text, ⟨rest, mark.afterText text⟩, false⟩ := by
  unfold scan
  change scanFrom inFlow 0 mark (text ++ rest) mark .empty [] = _
  rw [scanFrom_run scalar.inner scalar.last rfl (fun _ => rfl) nofun]
  rcases ends with rfl | ⟨rfl, c, first, indicator⟩
  · unfold scanFrom
    simp [Folding.empty, Folding.reversedText]
  · cases rest with
    | nil => cases first
    | cons d rest =>
        cases first
        simp only [isFlowIndicator, Bool.or_eq_true, beq_iff_eq] at indicator
        rcases indicator with (((rfl | rfl) | rfl) | rfl) | rfl <;>
          simp [scanFrom, isBlank, isBreak, Folding.empty, Folding.isPending, isMisplacedColon,
            isTerminator, isFlowIndicator, Folding.reversedText]

end Plain

namespace Tag

/-- The name of a local tag: letters, digits, underscores and hyphens. -/
structure IsName (name : List Char) : Prop where
  some : name ≠ []
  letters : ∀ c ∈ name, isNameChar c = true

variable {name : List Char}

theorem IsName.ne_bang (named : IsName name) : ∀ c ∈ name, c ≠ '!' := by
  rintro c found rfl
  cases named.letters '!' found

theorem IsName.asciiOctets_cut (named : IsName name) :
    (asciiOctets name).takeWhile (· != 0) = asciiOctets name := by
  refine List.takeWhile_eq_self_iff.mpr fun octet found => ?_
  obtain ⟨c, member, rfl⟩ := List.mem_map.mp found
  have letter := named.letters c member
  have small : c.toNat < 256 ∧ c.toNat ≠ 0 := by
    unfold isNameChar at letter
    rcases Bool.or_eq_true_iff.mp letter with word | hyphen
    · obtain ⟨least, greatest⟩ := ascii_of_isAlphanum word
      have low : 0x20 ≤ c.toNat := least
      have high : c.toNat ≤ 0x7e := greatest
      omega
    · rw [beq_iff_eq.mp hyphen]
      decide
  rw [bne_iff_ne]
  intro zero
  have code := congrArg UInt8.toNat zero
  rw [UInt8.toNat_ofNat', Nat.mod_eq_of_lt small.1] at code
  exact small.2 code

/-- A tag is read up to the space behind its name. -/
theorem scan_name (named : IsName name) (rest : List Char) (mark : Mark) (inFlow : Bool) :
    ∃ after : Mark, scan inFlow ⟨'!' :: (name ++ ' ' :: rest), mark⟩ =
      .ok (['!'], asciiOctets name, ⟨' ' :: rest, after⟩) := by
  obtain ⟨c, letters, rfl⟩ := List.exists_cons_of_ne_nil named.some
  have spanned : ((c :: letters) ++ ' ' :: rest).takeWhile isNameChar = c :: letters := by
    rw [List.takeWhile_append_of_pos named.letters, List.takeWhile_cons_of_neg (by decide),
      List.append_nil]
  have left : ((c :: letters) ++ ' ' :: rest).dropWhile isNameChar = ' ' :: rest := by
    rw [List.dropWhile_append_of_pos named.letters, List.dropWhile_cons_of_neg (by decide)]
  have noAngle : c ≠ '<' := by
    rintro rfl
    cases named.letters '<' List.mem_cons_self
  have handled : handle ⟨'!' :: ((c :: letters) ++ ' ' :: rest), mark⟩ =
      ('!' :: c :: letters, ⟨' ' :: rest, (mark.next '!').afterText (c :: letters)⟩) := by
    unfold handle Cursor.skip Cursor.span
    dsimp only
    rw [spanned, left]
    rfl
  have opened : isClosedHandle ('!' :: c :: letters) = false := by
    unfold isClosedHandle
    rw [List.getLast?_cons_cons, List.getLast?_eq_some_getLast (List.cons_ne_nil c letters)]
    have other := named.ne_bang _ (List.getLast_mem (List.cons_ne_nil c letters))
    simpa using other
  have noFurther (after : Mark) : uri false .uriOfTag mark ('!' :: c :: letters)
      ⟨' ' :: rest, after⟩ = .ok (asciiOctets (c :: letters), ⟨' ' :: rest, after⟩) := by
    have ends : scanUri false .uriOfTag mark (' ' :: rest) after 0 [] =
        .ok ([], ⟨' ' :: rest, after⟩) := by
      unfold scanUri
      simp [isUriChar, isNameChar, Char.isAlphanum, Char.isAlpha, Char.isUpper, Char.isLower,
        Char.isDigit]
    unfold uri
    dsimp only
    rw [ends]
    change Except.ok ((asciiOctets (c :: letters) ++ []).takeWhile (· != 0), _) = _
    rw [List.append_nil, named.asciiOctets_cut]
  refine ⟨(mark.next '!').afterText (c :: letters), ?_⟩
  unfold scan
  dsimp only
  split
  · rename_i same
    exact absurd (List.cons.inj (List.cons.inj same).2).1 noAngle
  · rw [handled]
    dsimp only
    rw [opened, noFurther]
    cases inFlow <;> rfl

end Tag

namespace Lexer

def AllOptional (candidates : List (Option KeyCandidate)) : Prop :=
  ∀ candidate, some candidate ∈ candidates → candidate.required = false

/--
A lexer on the first line of a text, outside of block collections: what is left of the text, how many
brackets are open, and the tokens so far.
-/
structure OnLine (lexer : Lexer) (text : List Char) (depth : Nat) (kinds : List TokenKind) : Prop where
  text : lexer.cursor.rest = text
  indent : lexer.indent = -1
  outer : lexer.outerIndents = []
  levels : lexer.candidates.length = depth + 1
  optional : AllOptional lexer.candidates
  kinds : lexer.queue.map Token.kind = kinds

variable {lexer : Lexer} {text rest : List Char} {depth : Nat} {kinds : List TokenKind}

theorem OnLine.inFlow (line : lexer.OnLine text depth kinds) :
    lexer.inFlow = decide (0 < depth) := by
  unfold Lexer.inFlow
  rw [line.levels]
  simp

theorem OnLine.withCandidates (line : lexer.OnLine text depth kinds)
    {candidates : List (Option KeyCandidate)}
    (levels : candidates.length = lexer.candidates.length) (optional : AllOptional candidates) :
    ({ lexer with candidates } : Lexer).OnLine text depth kinds :=
  ⟨line.text, line.indent, line.outer, levels.trans line.levels, optional, line.kinds⟩

theorem keepCandidates_of_allOptional (lexer : Lexer) {candidates : List (Option KeyCandidate)}
    (optional : AllOptional candidates) :
    ∃ kept, candidates.mapM lexer.keepCandidate = .ok kept ∧ kept.length = candidates.length ∧
      AllOptional kept := by
  induction candidates with
  | nil => exact ⟨[], rfl, rfl, nofun⟩
  | cons candidate? others ih =>
      obtain ⟨kept, keeps, length, still⟩ :=
        ih fun candidate found => optional candidate (List.mem_cons_of_mem _ found)
      have here : ∃ kept? : Option KeyCandidate, lexer.keepCandidate candidate? = .ok kept? ∧
          ∀ candidate ∈ kept?, candidate.required = false := by
        match candidate? with
        | none => exact ⟨none, rfl, nofun⟩
        | some candidate =>
            have free := optional candidate List.mem_cons_self
            unfold keepCandidate abandon
            dsimp only
            rw [free]
            split
            · exact ⟨none, rfl, nofun⟩
            · refine ⟨some candidate, rfl, ?_⟩
              intro other same
              cases same
              exact free
      obtain ⟨kept?, keepsHere, free⟩ := here
      refine ⟨kept? :: kept, ?_, congrArg (· + 1) length, ?_⟩
      · rw [List.mapM_cons, keepsHere, keeps]
        rfl
      · intro candidate found
        rcases List.mem_cons.mp found with same | later
        · exact free candidate same.symm
        · exact still candidate later

theorem AllOptional.set {candidates : List (Option KeyCandidate)} (optional : AllOptional candidates)
    {candidate? : Option KeyCandidate} (free : ∀ candidate ∈ candidate?, candidate.required = false) :
    AllOptional (candidate? :: candidates.drop 1) := by
  intro candidate found
  rcases List.mem_cons.mp found with same | later
  · exact free candidate same.symm
  · exact optional candidate (List.mem_of_mem_drop later)

theorem OnLine.length_set (line : lexer.OnLine text depth kinds) (candidate? : Option KeyCandidate) :
    (candidate? :: lexer.candidates.drop 1).length = lexer.candidates.length := by
  rw [List.length_cons, List.length_drop, line.levels]
  omega

theorem OnLine.setCandidate (line : lexer.OnLine text depth kinds) {candidate? : Option KeyCandidate}
    (free : ∀ candidate ∈ candidate?, candidate.required = false) :
    (lexer.setCandidate candidate?).OnLine text depth kinds :=
  line.withCandidates (line.length_set candidate?) (line.optional.set free)

/-- Before a token of its own, the innermost level has no candidate. -/
theorem OnLine.dropped (line : lexer.OnLine text depth kinds) :
    ∃ candidates, lexer.dropCandidate = .ok { lexer with candidates } ∧
      ({ lexer with candidates } : Lexer).OnLine text depth kinds ∧ candidates.head?.join = none := by
  unfold dropCandidate
  match found : lexer.candidate? with
  | none => exact ⟨lexer.candidates, rfl, line, found⟩
  | some candidate =>
      have present : some candidate ∈ lexer.candidates := by
        unfold candidate? at found
        exact List.mem_of_mem_head? (Option.join_eq_some_iff.mp found)
      dsimp only
      unfold abandon
      rw [line.optional candidate present]
      exact ⟨_, rfl, line.setCandidate nofun, rfl⟩

/-- A token may be a candidate, but no key is required on the line. -/
theorem OnLine.saved (line : lexer.OnLine text depth kinds) :
    ∃ candidates, lexer.saveCandidate = .ok { lexer with candidates } ∧
      ({ lexer with candidates } : Lexer).OnLine text depth kinds := by
  have elsewhere : (lexer.indent == (lexer.mark.column : Int)) = false := by
    rw [line.indent, beq_eq_false_iff_ne]
    omega
  obtain ⟨candidates, dropped, line', -⟩ := line.dropped
  unfold saveCandidate
  split
  · rw [dropped, elsewhere, Bool.and_false]
    refine ⟨_, rfl, line'.setCandidate ?_⟩
    rintro candidate same
    cases same
    rfl
  · exact ⟨lexer.candidates, rfl, line⟩

/-- In front of a token there is nothing else to do on the line. -/
theorem OnLine.prepared (line : lexer.OnLine text depth kinds) (starts : StartsToken text) :
    ∃ ready : Lexer, lexer.prepare = .ok ready ∧ ready.OnLine text depth kinds := by
  have here : lexer.atToken = lexer := by
    unfold atToken
    rw [line.text, skipGap_token starts, ← line.text]
    rfl
  obtain ⟨kept, keeps, length, optional⟩ := keepCandidates_of_allOptional lexer line.optional
  have line' := line.withCandidates length optional
  refine ⟨{ lexer with candidates := kept }, ?_, line'⟩
  rw [prepare_eq, here, dropStale_eq_ok keeps]
  change Except.ok (closeBlocks _ _) = _
  unfold closeBlocks
  rw [line'.outer]
  split
  · rfl
  · rw [closeBlocks.close, ← line'.outer]

theorem OnLine.allowKey (line : lexer.OnLine text depth kinds) (allowed : Bool) :
    (lexer.allowKey allowed).OnLine text depth kinds :=
  ⟨line.text, line.indent, line.outer, line.levels, line.optional, line.kinds⟩

theorem OnLine.pushed (line : lexer.OnLine text depth kinds) (kind : TokenKind) (start : Mark)
    {cursor : Cursor} (behind : cursor.rest = rest) :
    ((lexer.push kind start cursor.mark).moveTo cursor).OnLine rest depth (kinds ++ [kind]) := by
  refine ⟨behind, line.indent, line.outer, line.levels, line.optional, ?_⟩
  rw [← line.kinds]
  exact List.map_append

theorem OnLine.pushSign {c : Char} (line : lexer.OnLine (c :: rest) depth kinds) (kind : TokenKind) :
    (lexer.pushSign kind 1).OnLine rest depth (kinds ++ [kind]) := by
  refine line.pushed kind lexer.mark ?_
  change lexer.cursor.rest.drop 1 = rest
  rw [line.text]
  rfl

theorem OnLine.fetchFlowStart (line : lexer.OnLine ('[' :: rest) depth kinds) (kind : TokenKind) :
    ∃ behind : Lexer, lexer.fetchFlowStart kind = .ok behind ∧
      behind.OnLine rest (depth + 1) (kinds ++ [kind]) := by
  obtain ⟨candidates, saved, line'⟩ := line.saved
  have inside : ({ lexer with candidates := none :: candidates } : Lexer).OnLine ('[' :: rest)
      (depth + 1) kinds := by
    refine ⟨line'.text, line'.indent, line'.outer, congrArg (· + 1) line'.levels, ?_, line'.kinds⟩
    intro candidate found
    rcases List.mem_cons.mp found with same | later
    · cases same
    · exact line'.optional candidate later
  unfold Lexer.fetchFlowStart
  rw [saved]
  exact ⟨_, rfl, (inside.allowKey true).pushSign kind⟩

theorem OnLine.fetchFlowEntry (line : lexer.OnLine (',' :: rest) depth kinds) :
    ∃ behind : Lexer, lexer.fetchFlowEntry = .ok behind ∧
      behind.OnLine rest depth (kinds ++ [.flowEntry]) := by
  obtain ⟨candidates, dropped, line', -⟩ := line.dropped
  unfold Lexer.fetchFlowEntry
  rw [dropped]
  exact ⟨_, rfl, (line'.allowKey true).pushSign .flowEntry⟩

theorem OnLine.fetchFlowEnd (line : lexer.OnLine (']' :: rest) (depth + 1) kinds)
    (kind : TokenKind) :
    ∃ behind : Lexer, lexer.fetchFlowEnd kind = .ok behind ∧
      behind.OnLine rest depth (kinds ++ [kind]) := by
  obtain ⟨candidates, dropped, line', -⟩ := line.dropped
  have outside : ({ lexer with candidates := candidates.drop 1 } : Lexer).OnLine (']' :: rest) depth
      kinds := by
    refine ⟨line'.text, line'.indent, line'.outer, ?_, ?_, line'.kinds⟩
    · rw [List.length_drop]
      exact congrArg (· - 1) line'.levels
    · exact fun candidate found => line'.optional candidate (List.mem_of_mem_drop found)
  have flow : ({ lexer with candidates } : Lexer).inFlow = true := by
    rw [line'.inFlow]
    exact decide_eq_true (Nat.succ_pos depth)
  unfold Lexer.fetchFlowEnd
  rw [dropped]
  change ∃ behind : Lexer, Except.ok (((if ({ lexer with candidates } : Lexer).inFlow then
    { lexer with candidates := candidates.drop 1 } else { lexer with candidates } : Lexer).allowKey
      false).pushSign kind 1) = .ok behind ∧ _
  rw [flow]
  exact ⟨_, rfl, (outside.allowKey false).pushSign kind⟩

theorem OnLine.fetchPlain {text rest : List Char} (line : lexer.OnLine (text ++ rest) depth kinds)
    (scalar : IsLinePlain text) (ends : EndsPlain (decide (0 < depth)) rest) :
    ∃ behind : Lexer, lexer.fetchPlain = .ok behind ∧
      behind.OnLine rest depth (kinds ++ [.scalar text .plain]) := by
  obtain ⟨candidates, saved, line'⟩ := line.saved
  have found : Plain.scan ({ lexer with candidates } : Lexer).inFlow 0 lexer.cursor =
      .ok ⟨text, ⟨rest, lexer.mark.afterText text⟩, false⟩ := by
    have written : lexer.cursor = ⟨text ++ rest, lexer.mark⟩ := by
      rw [← line.text]
      rfl
    rw [line'.inFlow, written]
    exact Plain.scan_line scalar ends
  have shallow : (lexer.indent + 1).toNat = 0 := by
    rw [line.indent]
    rfl
  unfold Lexer.fetchPlain
  rw [saved]
  change ∃ behind : Lexer, (Plain.scan ({ lexer with candidates } : Lexer).inFlow
    (lexer.indent + 1).toNat lexer.cursor >>= _) = .ok behind ∧ _
  rw [shallow, found]
  exact ⟨_, rfl, (line'.allowKey false).pushed _ _ rfl⟩

theorem OnLine.fetchTag {name : List Char} (named : Tag.IsName name)
    (line : lexer.OnLine ('!' :: (name ++ ' ' :: rest)) depth kinds) :
    ∃ behind : Lexer, lexer.fetchTag = .ok behind ∧
      behind.OnLine (' ' :: rest) depth (kinds ++ [.tag ['!'] (Tag.asciiOctets name)]) := by
  obtain ⟨candidates, saved, line'⟩ := line.saved
  have written : lexer.cursor = ⟨'!' :: (name ++ ' ' :: rest), lexer.mark⟩ := by
    rw [← line.text]
    rfl
  obtain ⟨after, found⟩ := Tag.scan_name named rest lexer.mark
    ({ lexer with candidates } : Lexer).inFlow
  rw [← written] at found
  unfold Lexer.fetchTag
  rw [saved]
  change ∃ behind : Lexer, (Tag.scan ({ lexer with candidates } : Lexer).inFlow
    lexer.cursor >>= _) = .ok behind ∧ _
  rw [found]
  exact ⟨_, rfl, (line'.allowKey false).pushed _ _ rfl⟩

/-- The text is over outside of brackets. -/
theorem OnLine.fetchStreamEnd (line : lexer.OnLine [] 0 kinds) (further : .streamEnd ∉ kinds) :
    ∃ behind : Lexer, lexer.fetchStreamEnd = .ok behind ∧ behind.IsDone ∧
      behind.queue.map Token.kind = kinds ++ [.streamEnd] := by
  let lineEnd : Mark :=
    if lexer.mark.column = 0 then lexer.mark else ⟨lexer.mark.index, lexer.mark.line + 1, 0⟩
  have moved : (lexer.moveTo ⟨[], lineEnd⟩).OnLine [] 0 kinds :=
    ⟨rfl, line.indent, line.outer, line.levels, line.optional, line.kinds⟩
  have closed : (lexer.moveTo ⟨[], lineEnd⟩).closeBlocks (-1) = lexer.moveTo ⟨[], lineEnd⟩ := by
    unfold closeBlocks
    rw [moved.outer]
    split
    · rfl
    · rw [closeBlocks.close, ← moved.outer]
  obtain ⟨candidates, dropped, line', idle⟩ := moved.dropped
  have none : candidates = [none] := by
    obtain ⟨candidate?, rfl⟩ := List.length_eq_one_iff.mp line'.levels
    exact congrArg (fun candidate? => [candidate?]) idle
  unfold Lexer.fetchStreamEnd
  change ∃ behind : Lexer, (((lexer.moveTo ⟨[], lineEnd⟩).closeBlocks (-1)).dropCandidate >>= _) =
    .ok behind ∧ _
  rw [closed, dropped]
  refine ⟨_, rfl, ⟨none, lexer.queue, _, rfl, rfl, fun token held same => ?_⟩, ?_⟩
  · refine further ?_
    rw [← same, ← line.kinds]
    exact List.mem_map_of_mem held
  · rw [← line.kinds]
    exact List.map_append

theorem ne_of_isOpening {c d : Char} (opening : isOpening c = true) (other : isOpening d = false) :
    c ≠ d := by
  rintro rfl
  cases opening.symm.trans other

/-- Most characters begin a plain scalar whatever follows. -/
theorem fetchFrom_of_isOpening {c : Char} (opening : isOpening c = true) (rest : List Char) :
    lexer.fetchFrom c rest = lexer.fetchPlain := by
  have markers := noMarkers (ne_of_isOpening opening (by decide) : c ≠ '-')
    (ne_of_isOpening opening (by decide) : c ≠ '.') rest
  obtain ⟨noBlank, unbroken, -⟩ := of_isInner (isInner_of_isOpening opening)
  unfold isOpening at opening
  simp only [Bool.and_eq_true, Bool.not_eq_true', Bool.or_eq_false_iff] at opening
  have noIndicator := opening.2.1.1
  have starts : startsPlain lexer.inFlow (c :: rest) = true := by
    simp [startsPlain, noBlank, unbroken, noIndicator]
  simp only [isIndicator, List.contains_cons, List.contains_nil, Bool.or_false,
    Bool.or_eq_false_iff] at noIndicator
  simp [fetchFrom, markers, starts, noIndicator]

/-- A hyphen begins a plain scalar if it is followed by a word and is no marker. -/
theorem fetchFrom_hyphen {d : Char} (word : isInner d = true)
    (noStart : startsWithMarker '-' ('-' :: d :: rest) = false) :
    lexer.fetchFrom '-' (d :: rest) = lexer.fetchPlain := by
  obtain ⟨noBlank, unbroken, -⟩ := of_isInner word
  have noEnd : startsWithMarker '.' ('-' :: d :: rest) = false := startsWithMarker_of_ne (by decide)
  simp [fetchFrom, noStart, noEnd, startsWithGap, noBlank, unbroken, startsPlain, isIndicator]

theorem dispatch_line {text rest : List Char} (scalar : IsLinePlain text)
    (written : lexer.cursor.rest = text ++ rest) : lexer.dispatch = lexer.fetchPlain := by
  obtain ⟨c, others, rfl, begins⟩ := scalar.begins
  rw [dispatch_eq written]
  rcases begins with opening | ⟨rfl, d, second, opening⟩
  · exact fetchFrom_of_isOpening opening _
  · cases others with
    | nil => cases second
    | cons e others =>
        cases second
        exact fetchFrom_hyphen (isInner_of_isOpening opening)
          (startsWithMarker_of_second (ne_of_isOpening opening (by decide)))

theorem dispatch_tag (written : lexer.cursor.rest = '!' :: rest) :
    lexer.dispatch = lexer.fetchTag := by
  have markers := noMarkers (by decide : '!' ≠ '-') (by decide) rest
  rw [dispatch_eq written]
  simp [fetchFrom, markers]

theorem dispatch_comma (written : lexer.cursor.rest = ',' :: rest) :
    lexer.dispatch = lexer.fetchFlowEntry := by
  have markers := noMarkers (by decide : ',' ≠ '-') (by decide) rest
  rw [dispatch_eq written]
  simp [fetchFrom, markers]

theorem startsToken_plain {text : List Char} (scalar : IsLinePlain text) (rest : List Char) :
    StartsToken (text ++ rest) := by
  obtain ⟨c, others, rfl, begins⟩ := scalar.begins
  intro d first
  cases first
  rcases begins with opening | ⟨rfl, -⟩
  · obtain ⟨noBlank, unbroken, -, -, noComment⟩ := of_isInner (isInner_of_isOpening opening)
    exact ⟨noBlank, unbroken, noComment, ne_of_isOpening opening (by decide)⟩
  · decide

theorem startsToken_sign {c : Char} (sign : c ∈ ['!', '[', ',', ']']) (rest : List Char) :
    StartsToken (c :: rest) := by
  intro d first
  cases first
  simp only [List.mem_cons, List.not_mem_nil, or_false] at sign
  rcases sign with rfl | rfl | rfl | rfl <;> simp [isBlank, isBreak]

end Lexer

/-- The tokens up to the end of a text, in front of which some brackets are open. -/
inductive LineTokens : List Char → (depth : Nat) → List TokenKind → Prop
  | stop : LineTokens [] 0 [.streamEnd]
  | space {rest : List Char} {depth : Nat} {kinds : List TokenKind}
      (later : LineTokens rest depth kinds) : LineTokens (' ' :: rest) depth kinds
  | tag {name rest : List Char} {depth : Nat} {kinds : List TokenKind} (named : Tag.IsName name)
      (later : LineTokens (' ' :: rest) depth kinds) :
      LineTokens ('!' :: (name ++ ' ' :: rest)) depth (.tag ['!'] (Tag.asciiOctets name) :: kinds)
  | plain {text rest : List Char} {depth : Nat} {kinds : List TokenKind}
      (scalar : IsLinePlain text) (ends : EndsPlain (decide (0 < depth)) rest)
      (later : LineTokens rest depth kinds) :
      LineTokens (text ++ rest) depth (.scalar text .plain :: kinds)
  | opens {rest : List Char} {depth : Nat} {kinds : List TokenKind}
      (later : LineTokens rest (depth + 1) kinds) :
      LineTokens ('[' :: rest) depth (.flowSequenceStart :: kinds)
  | comma {rest : List Char} {depth : Nat} {kinds : List TokenKind}
      (later : LineTokens rest depth kinds) : LineTokens (',' :: rest) depth (.flowEntry :: kinds)
  | closes {rest : List Char} {depth : Nat} {kinds : List TokenKind}
      (later : LineTokens rest depth kinds) :
      LineTokens (']' :: rest) (depth + 1) (.flowSequenceEnd :: kinds)

namespace LineTokens

variable {text : List Char} {depth : Nat} {kinds : List TokenKind}

/-- There are no more tokens than characters, apart from the end of the text. -/
theorem length_le (line : LineTokens text depth kinds) : kinds.length ≤ text.length + 1 := by
  induction line with
  | stop => decide
  | space _ ih => exact Nat.le_succ_of_le ih
  | tag named _ ih =>
      simp only [List.length_cons, List.length_append] at ih ⊢
      omega
  | plain scalar _ _ ih =>
      obtain ⟨c, others, rfl, -⟩ := scalar.begins
      simp only [List.length_cons, List.length_append] at ih ⊢
      omega
  | opens _ ih => exact Nat.succ_le_succ ih
  | comma _ ih => exact Nat.succ_le_succ ih
  | closes _ ih => exact Nat.succ_le_succ ih

end LineTokens

theorem LineTokens.ne_nil {text : List Char} {depth : Nat} {kinds : List TokenKind}
    (line : LineTokens text depth kinds) : kinds ≠ [] := by
  induction line with
  | space later ih => exact ih
  | _ => exact nofun

namespace Lexer

def Finds (lexer : Lexer) (kinds : List TokenKind) (count : Nat) : Prop :=
  ∃ done : Lexer, Fetches count lexer done ∧ done.IsDone ∧ done.queue.map Token.kind = kinds

variable {lexer : Lexer} {text rest : List Char} {depth further count : Nat}
  {before kinds : List TokenKind} {kind : TokenKind}

/-- A space in front of a token changes nothing. -/
theorem fetch_behind_space (written : lexer.cursor.rest = ' ' :: rest) :
    lexer.fetch = (lexer.moveTo ⟨rest, lexer.mark.next ' '⟩).fetch := by
  have same : lexer.atToken = (lexer.moveTo ⟨rest, lexer.mark.next ' '⟩).atToken := by
    unfold atToken
    rw [written, skipGap_space]
    rfl
  unfold fetch
  rw [prepare_eq, same, ← prepare_eq]

theorem OnLine.finds_behind_space (line : lexer.OnLine (' ' :: rest) depth before) (some : 0 < count)
    (later : ∀ behind : Lexer, behind.OnLine rest depth before → behind.Finds kinds count) :
    lexer.Finds kinds count := by
  obtain ⟨done, fetches, isDone, queue⟩ := later (lexer.moveTo ⟨rest, lexer.mark.next ' '⟩)
    ⟨rfl, line.indent, line.outer, line.levels, line.optional, line.kinds⟩
  cases fetches with
  | none => cases some
  | step found fetches =>
      rw [← fetch_behind_space line.text] at found
      exact ⟨done, .step found fetches, isDone, queue⟩

/-- The end of the text is found outside of brackets. -/
theorem OnLine.finds_end (line : lexer.OnLine [] 0 before) (new : .streamEnd ∉ before) :
    lexer.Finds (before ++ [.streamEnd]) 1 := by
  obtain ⟨ready, prepared, line'⟩ := line.prepared nofun
  obtain ⟨done, found, isDone, queue⟩ := line'.fetchStreamEnd new
  have read : ready.dispatch = .ok done := by
    unfold dispatch
    rw [line'.text]
    exact found
  refine ⟨done, .step ?_ (.none done), isDone, queue⟩
  unfold fetch
  rw [prepared]
  exact read

/-- One token more is found in front of others. -/
theorem OnLine.finds (line : lexer.OnLine text depth before) (starts : StartsToken text)
    (read : ∀ ready : Lexer, ready.OnLine text depth before → ∃ behind : Lexer,
      ready.dispatch = .ok behind ∧ behind.OnLine rest further (before ++ [kind]))
    (later : ∀ behind : Lexer, behind.OnLine rest further (before ++ [kind]) →
      behind.Finds (before ++ [kind] ++ kinds) count) :
    lexer.Finds (before ++ kind :: kinds) (count + 1) := by
  obtain ⟨ready, prepared, line'⟩ := line.prepared starts
  obtain ⟨behind, found, line''⟩ := read ready line'
  obtain ⟨done, fetches, isDone, queue⟩ := later behind line''
  have fetched : lexer.fetch = .ok behind := by
    unfold fetch
    rw [prepared]
    exact found
  refine ⟨done, .step fetched fetches, isDone, ?_⟩
  rw [queue, List.append_assoc]
  rfl

end Lexer

theorem LineTokens.finds {text : List Char} {depth : Nat} {kinds : List TokenKind}
    (line : LineTokens text depth kinds) {lexer : Lexer} {before : List TokenKind}
    (onLine : lexer.OnLine text depth before) (new : .streamEnd ∉ before) :
    lexer.Finds (before ++ kinds) kinds.length := by
  induction line generalizing lexer before with
  | stop => exact onLine.finds_end new
  | space later ih =>
      exact onLine.finds_behind_space (List.length_pos_iff.mpr later.ne_nil)
        fun behind line => ih line new
  | tag named later ih =>
      refine onLine.finds (Lexer.startsToken_sign (by simp) _) (fun ready line => ?_)
        fun behind line => ih line (by simpa using new)
      rw [Lexer.dispatch_tag line.text]
      exact line.fetchTag named
  | plain scalar ends later ih =>
      refine onLine.finds (Lexer.startsToken_plain scalar _) (fun ready line => ?_)
        fun behind line => ih line (by simpa using new)
      rw [Lexer.dispatch_line scalar line.text]
      exact line.fetchPlain scalar ends
  | opens later ih =>
      refine onLine.finds (Lexer.startsToken_sign (by simp) _) (fun ready line => ?_)
        fun behind line => ih line (by simpa using new)
      rw [(Lexer.dispatch_bracket line.text).1 rfl]
      exact line.fetchFlowStart _
  | comma later ih =>
      refine onLine.finds (Lexer.startsToken_sign (by simp) _) (fun ready line => ?_)
        fun behind line => ih line (by simpa using new)
      rw [Lexer.dispatch_comma line.text]
      exact line.fetchFlowEntry
  | closes later ih =>
      refine onLine.finds (Lexer.startsToken_sign (by simp) _) (fun ready line => ?_)
        fun behind line => ih line (by simpa using new)
      rw [(Lexer.dispatch_bracket line.text).2.2.1 rfl]
      exact line.fetchFlowEnd _

theorem LineTokens.tokens {text : List Char} {kinds : List TokenKind}
    (line : LineTokens text 0 kinds) (allowed : ∀ c ∈ text, isAllowed c = true) :
    ∃ tokens : List Token, Yaml.tokens text = (tokens, none) ∧
      tokens.map Token.kind = .streamStart :: kinds := by
  have onLine : (Lexer.ofText text).OnLine text 0 [.streamStart] :=
    ⟨rfl, rfl, rfl, rfl, nofun, rfl⟩
  obtain ⟨done, fetches, isDone, queue⟩ := line.finds onLine (by simp)
  have size := congrArg List.length queue
  rw [List.length_map, List.length_append, List.length_singleton] at size
  have short := line.length_le
  have found := Lexer.tokensOf_of_fetches fetches isDone (by omega)
  refine ⟨done.queue, ?_, queue⟩
  unfold Yaml.tokens
  rw [forbidden?_eq_none allowed]
  exact found

end TaggedConfig.Yaml
