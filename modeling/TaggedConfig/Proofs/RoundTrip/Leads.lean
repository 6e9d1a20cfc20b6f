import TaggedConfig.Proofs.RoundTrip.Steps
import TaggedConfig.Proofs.RoundTrip.Styles

/-!
# Signs and scalars

What every sign and every scalar that is written adds to the tokens, and to which scene it leads.
-/

namespace TaggedConfig.Yaml

open Writing

namespace Scene

def opened (scene : Scene) (opens : TokenKind) : Scene :=
  if (scene.column : Int) ≤ scene.indent then scene
  else
    { scene with
      indent := scene.column, outer := scene.indent :: scene.outer, kinds := scene.kinds ++ [opens] }

def behind (scene : Scene) (text : List Char) (column : Nat) (keyAllowed : Bool)
    (kinds : List TokenKind) : Scene :=
  { scene with text, column, keyAllowed, kinds := scene.kinds ++ kinds }

variable {scene : Scene} {opens : TokenKind}

theorem behind_behind {text further : List Char} {column place : Nat} {allowed later : Bool}
    {kinds others : List TokenKind} :
    (scene.behind text column allowed kinds).behind further place later others =
      scene.behind further place later (kinds ++ others) := by
  unfold behind
  rw [List.append_assoc]

theorem opened_of_eq (same : scene.indent = scene.column) : scene.opened opens = scene := by
  unfold opened
  rw [if_pos same.ge]

/-- Inside the innermost collection, the column of a token is the one of the opened collection. -/
theorem indent_opened (inside : scene.indent ≤ scene.column) :
    (scene.opened opens).indent = scene.column := by
  unfold opened
  split
  · rename_i here
    exact le_antisymm inside here
  · rfl

theorem text_opened : (scene.opened opens).text = scene.text := by
  unfold opened
  split
  · rfl
  · rfl

theorem column_opened : (scene.opened opens).column = scene.column := by
  unfold opened
  split
  · rfl
  · rfl

theorem weight_opened : (scene.opened opens).weight ≤ scene.weight + 2 := by
  unfold opened weight
  split
  · omega
  · simp only [List.length_append, List.length_cons, List.length_nil]
    omega

end Scene

namespace Lexer

variable {lexer : Lexer} {scene : Scene} {opens kind : TokenKind}

theorem Stands.candidate?_eq (stands : lexer.Stands scene) : lexer.candidate? = none := by
  unfold candidate?
  rw [stands.candidates]
  rfl

theorem Stands.dropCandidate_eq (stands : lexer.Stands scene) : lexer.dropCandidate = .ok lexer := by
  unfold dropCandidate
  rw [stands.candidate?_eq]

def openHere (lexer : Lexer) (opens : TokenKind) : Lexer :=
  lexer.openBlock lexer.mark.column none opens lexer.mark

theorem Stands.openHere (stands : lexer.Stands scene) (opens : TokenKind) :
    (lexer.openHere opens).Stands (scene.opened opens) := by
  have column := stands.column
  have indent := stands.indent
  unfold Lexer.openHere openBlock Scene.opened
  simp only [stands.block, column, indent, Bool.false_or, decide_eq_true_eq]
  split
  · exact stands
  · constructor
    · exact stands.text
    · exact column
    · rfl
    · exact congrArg (scene.indent :: ·) stands.outer
    · exact stands.keyAllowed
    · exact stands.candidates
    · change (lexer.queue ++ [_]).map Token.kind = _
      rw [List.map_append, stands.kinds]
      rfl
    · exact stands.taken

theorem fetchBlockEntry_eq (stands : lexer.Stands scene) (allowed : scene.keyAllowed = true) :
    lexer.fetchBlockEntry =
      .ok (((lexer.openHere .blockSequenceStart).allowKey true).pushSign .blockEntry 1) := by
  have opened := (stands.openHere .blockSequenceStart).dropCandidate_eq
  unfold Lexer.openHere at opened
  unfold fetchBlockEntry
  rw [stands.block, stands.keyAllowed, allowed, opened]
  rfl

theorem fetchKey_eq (stands : lexer.Stands scene) (allowed : scene.keyAllowed = true) :
    lexer.fetchKey =
      .ok (((lexer.openHere .blockMappingStart).allowKey true).pushSign .key 1) := by
  have opened := stands.openHere .blockMappingStart
  have block := opened.block
  have none := opened.dropCandidate_eq
  unfold Lexer.openHere at block none
  unfold fetchKey
  rw [stands.block, stands.keyAllowed, allowed, none]
  change Except.ok ((Lexer.allowKey _ !_).pushSign _ _) = _
  rw [block]
  rfl

theorem fetchValue_eq (stands : lexer.Stands scene) (allowed : scene.keyAllowed = true) :
    lexer.fetchValue =
      .ok (((lexer.openHere .blockMappingStart).allowKey true).pushSign .value 1) := by
  have block := (stands.openHere .blockMappingStart).block
  unfold Lexer.openHere at block
  unfold fetchValue
  rw [stands.candidate?_eq, stands.block, stands.keyAllowed, allowed]
  change Except.ok ((Lexer.allowKey _ !_).pushSign _ _) = _
  rw [block]
  rfl

/-- A gap leads to the next token, where candidates of earlier lines are given up. -/
theorem finishes_of_gap {behind : Lexer} {next : Scene} {candidate? : Option KeyCandidate}
    {place : Mark} (single : behind.candidates = [candidate?])
    (idle : ∀ candidate ∈ candidate?, candidate.required = false ∧ candidate.mark.line < place.line)
    (gap : skipGap false behind.cursor.rest behind.mark behind.keyAllowed false =
      (⟨next.text, place⟩, next.keyAllowed))
    (column : place.column = next.column) (indent : behind.indent = next.indent)
    (outer : behind.outerIndents = next.outer) (kinds : behind.queue.map Token.kind = next.kinds)
    (taken : behind.taken = 0) : behind.atToken.Finishes next := by
  have block : behind.inFlow = false := by
    unfold inFlow
    rw [single]
    rfl
  have here : behind.atToken = (behind.moveTo ⟨next.text, place⟩).allowKey next.keyAllowed := by
    unfold atToken
    rw [block, gap]
  rw [here]
  constructor
  · rfl
  · exact column
  · exact indent
  · exact outer
  · rfl
  · refine ⟨candidate?, single, fun candidate found => ?_⟩
    obtain ⟨optional, earlier⟩ := idle candidate found
    refine ⟨optional, ?_⟩
    unfold isStale
    exact Bool.or_eq_true_iff.mpr (.inl (decide_eq_true earlier))
  · exact kinds
  · exact taken

theorem Stands.skip_space (stands : lexer.Stands scene) {rest : List Char}
    (written : scene.text = ' ' :: rest) (starts : StartsToken rest) :
    lexer.atToken.Finishes (scene.behind rest (scene.column + 1) scene.keyAllowed []) := by
  have gap : skipGap false lexer.cursor.rest lexer.mark lexer.keyAllowed false =
      (⟨rest, lexer.mark.next ' '⟩, scene.keyAllowed) := by
    rw [stands.text, written, stands.keyAllowed]
    exact skipGap_space.trans (skipGap_token starts)
  exact finishes_of_gap stands.candidates nofun gap (congrArg (· + 1) stands.column) stands.indent
    stands.outer (stands.kinds.trans (List.append_nil _).symm) stands.taken

theorem Stands.pushSign (stands : lexer.Stands scene) {sign : Char} {tail : List Char}
    (written : scene.text = sign :: tail) (keyAllowed : Bool) (kind : TokenKind) :
    ((lexer.allowKey keyAllowed).pushSign kind 1).Stands
      (scene.behind tail (scene.column + 1) keyAllowed [kind]) := by
  constructor
  · change lexer.cursor.rest.drop 1 = tail
    rw [stands.text, written]
    rfl
  · exact congrArg (· + 1) stands.column
  · exact stands.indent
  · exact stands.outer
  · rfl
  · exact stands.candidates
  · change (lexer.queue ++ [_]).map Token.kind = _
    rw [List.map_append, stands.kinds]
    rfl
  · exact stands.taken

end Lexer

namespace Scene

variable {scene : Scene} {rest : List Char}

/-- Behind the first tokens of an entry, the next one stands inside the same collection. -/
theorem closed_behind_opened (inside : scene.indent ≤ scene.column) {column : Nat}
    (deeper : scene.column ≤ column) {opens : TokenKind} {keyAllowed : Bool}
    {kinds : List TokenKind} :
    ((scene.opened opens).behind rest column keyAllowed kinds).closed =
      (scene.opened opens).behind rest column keyAllowed kinds := by
  apply closed_of_le
  change (scene.opened opens).indent ≤ (column : Int)
  rw [indent_opened inside]
  exact Int.ofNat_le.mpr deeper

/-- Characters that have been read pay for tokens and steps. -/
theorem weight_behind_opened {count column : Nat} {opens : TokenKind} {keyAllowed : Bool}
    {kinds : List TokenKind}
    (shorter : count + kinds.length + 2 + 3 * rest.length ≤ 3 * scene.text.length) :
    count + ((scene.opened opens).behind rest column keyAllowed kinds).weight ≤ scene.weight := by
  have light : (scene.opened opens).weight ≤ scene.weight + 2 := weight_opened
  have text : (scene.opened opens).text = scene.text := text_opened
  unfold weight behind at *
  dsimp only
  rw [List.length_append]
  rw [text] at light
  omega

theorem leads_sign {sign : Char} {opens kind : TokenKind}
    (read : ∀ lexer : Lexer, lexer.Stands scene →
      lexer.dispatch = .ok (((lexer.openHere opens).allowKey true).pushSign kind 1))
    (inside : scene.indent ≤ scene.column) (written : scene.text = sign :: ' ' :: rest)
    (starts : StartsToken rest) :
    scene.Leads ((scene.opened opens).behind rest (scene.column + 2) true [kind]) := by
  rw [← closed_behind_opened inside (Nat.le_add_right _ 2)]
  refine .of_step (weight_behind_opened ?_) fun lexer stands => ⟨_, read lexer stands, ?_⟩
  · simp only [written, List.length_cons, List.length_nil]
    omega
  · have opened := (stands.openHere opens).pushSign (text_opened.trans written) true kind
    have gap := opened.skip_space rfl starts
    rw [behind_behind, column_opened] at gap
    exact gap

end Scene

namespace Lexer

variable {lexer : Lexer} {scene : Scene} {text tail content : List Char} {style : ScalarStyle}
  {after : Cursor} {indent depth : Nat}

def candidateHere? (lexer : Lexer) : Option KeyCandidate :=
  if lexer.keyAllowed then
    some ⟨lexer.indent == (lexer.mark.column : Int), lexer.queue.length, lexer.mark⟩
  else none

def pushScalar (lexer : Lexer) (keyAllowed : Bool) (kind : TokenKind) (after : Cursor) : Lexer :=
  ((lexer.allowKey keyAllowed).push kind lexer.mark after.mark).moveTo after

theorem Stands.setCandidate_none (stands : lexer.Stands scene) : lexer.setCandidate none = lexer := by
  obtain ⟨cursor, place, outer, allowed, candidates, queue, taken⟩ := lexer
  obtain rfl : candidates = [none] := stands.candidates
  rfl

theorem Stands.saveCandidate_eq (stands : lexer.Stands scene) :
    lexer.saveCandidate = .ok (lexer.setCandidate lexer.candidateHere?) := by
  unfold saveCandidate candidateHere?
  split
  · rw [stands.dropCandidate_eq, stands.block]
    change Except.ok (lexer.setCandidate (some ⟨_, lexer.taken + lexer.queue.length, _⟩)) = _
    rw [stands.taken, Nat.zero_add]
    rfl
  · rw [stands.setCandidate_none]

theorem fetchQuoted_eq {quote : Quoted.Quote} (stands : lexer.Stands scene)
    (scanned : Quoted.scan quote lexer.cursor = .ok ⟨text, after⟩) :
    lexer.fetchQuoted quote style =
      .ok ((lexer.setCandidate lexer.candidateHere?).pushScalar false (.scalar text style) after) := by
  have same : Quoted.scan quote (lexer.setCandidate lexer.candidateHere?).cursor =
      .ok ⟨text, after⟩ := scanned
  unfold fetchQuoted
  rw [stands.saveCandidate_eq]
  change Quoted.scan quote (lexer.setCandidate lexer.candidateHere?).cursor >>= _ = _
  rw [same]
  rfl

theorem fetchPlain_eq {broken : Bool} (stands : lexer.Stands scene)
    (scanned : Plain.scan false (scene.indent + 1).toNat lexer.cursor = .ok ⟨text, after, broken⟩) :
    lexer.fetchPlain =
      .ok ((lexer.setCandidate lexer.candidateHere?).pushScalar broken (.scalar text .plain)
        after) := by
  have block : (lexer.setCandidate lexer.candidateHere?).inFlow = false := by
    unfold inFlow setCandidate
    rw [stands.candidates]
    rfl
  have same : Plain.scan (lexer.setCandidate lexer.candidateHere?).inFlow
      ((lexer.setCandidate lexer.candidateHere?).indent + 1).toNat
      (lexer.setCandidate lexer.candidateHere?).cursor = .ok ⟨text, after, broken⟩ := by
    rw [block, ← scanned, ← stands.indent]
    rfl
  unfold fetchPlain
  rw [stands.saveCandidate_eq]
  change Plain.scan _ _ _ >>= _ = _
  rw [same]
  rfl

theorem fetchBlockScalar_eq (stands : lexer.Stands scene)
    (scanned : Block.scan false scene.indent lexer.cursor = .ok ⟨text, after⟩) :
    lexer.fetchBlockScalar .literal =
      .ok ((lexer.setCandidate none).pushScalar true (.scalar text .literal) after) := by
  unfold fetchBlockScalar
  rw [stands.dropCandidate_eq, stands.setCandidate_none]
  change Block.scan false lexer.indent lexer.cursor >>= _ = _
  rw [stands.indent, scanned]
  rfl

/-- Behind the line of a scalar, nothing can make a key of it any more. -/
theorem Stands.pushScalar (stands : lexer.Stands scene) {candidate? : Option KeyCandidate}
    (idle : ∀ candidate ∈ candidate?, candidate.required = false ∧ candidate.mark = lexer.mark)
    (kind : TokenKind) (after : Cursor) {keyAllowed : Bool} {place : Mark}
    (gap : skipGap false after.rest after.mark keyAllowed false = (⟨content, place⟩, true))
    (column : place.column = depth) (later : lexer.mark.line < place.line) :
    ((lexer.setCandidate candidate?).pushScalar keyAllowed kind after).atToken.Finishes
      (scene.behind content depth true [kind]) := by
  have single : (lexer.setCandidate candidate?).candidates = [candidate?] := by
    unfold setCandidate
    rw [stands.candidates]
    rfl
  refine finishes_of_gap single (fun candidate found => ?_) gap column stands.indent stands.outer ?_
    stands.taken
  · obtain ⟨optional, began⟩ := idle candidate found
    rw [began]
    exact ⟨optional, later⟩
  · change (lexer.queue ++ [_]).map Token.kind = _
    rw [List.map_append, stands.kinds]
    rfl

/-- A scalar deeper than its collection need not become a key. -/
theorem Stands.idle (stands : lexer.Stands scene) (deeper : scene.indent < scene.column) :
    ∀ candidate ∈ lexer.candidateHere?, candidate.required = false ∧
      candidate.mark = lexer.mark := by
  intro candidate found
  unfold candidateHere? at found
  split at found
  · cases found
    rw [stands.indent, stands.column]
    exact ⟨beq_eq_false_iff_ne.mpr deeper.ne, rfl⟩
  · cases found

theorem Stands.cursor_eq (stands : lexer.Stands scene) : lexer.cursor = ⟨scene.text, lexer.mark⟩ := by
  rw [← stands.text]
  rfl

/-- A quoted scalar is read up to its closing quote. -/
theorem Stands.read_quoted (stands : lexer.Stands scene)
    (quoted : style = .singleQuoted ∨ style = .doubleQuoted) (allows : Allows style text)
    (deep : 0 < indent) (written : scene.text = styled style indent text ++ tail)
    (ends : ∀ others, tail = '\'' :: others → False) :
    lexer.dispatch = .ok ((lexer.setCandidate lexer.candidateHere?).pushScalar false
      (.scalar text style) ⟨tail, lexer.mark.past (styled style indent text)⟩) := by
  have cursor := stands.cursor_eq
  rw [written] at cursor
  rcases quoted with rfl | rfl
  · obtain ⟨allowed, noLineFeed⟩ := allows
    have rest : lexer.cursor.rest = '\'' :: singleQuotedFrom indent false text ++ '\'' :: tail := by
      rw [cursor]
      unfold styled
      simp
    have scanned : Quoted.scan .single ⟨_, lexer.mark⟩ = _ :=
      Quoted.scan_singleQuoted deep allowed noLineFeed ends
    rw [← rest] at scanned
    rw [dispatch_single rest]
    exact fetchQuoted_eq stands scanned
  · have rest : lexer.cursor.rest = '"' :: text.flatMap doubleQuotedChar ++ '"' :: tail := by
      rw [cursor]
      unfold styled
      simp
    have scanned : Quoted.scan .double ⟨_, lexer.mark⟩ = _ := Quoted.scan_doubleQuoted text tail
    rw [← rest] at scanned
    rw [dispatch_double rest]
    exact fetchQuoted_eq stands scanned

/-- Every style but a block can stand in front of a colon, and is read up to it. -/
theorem Stands.read_key (stands : lexer.Stands scene) (inside : scene.indent ≤ scene.column)
    (oneLine : style ≠ .literal) (allows : Allows style text) (deep : 0 < indent)
    (written : scene.text = styled style indent text ++ ':' :: tail)
    (gap : startsWithGap tail = true) :
    lexer.dispatch = .ok ((lexer.setCandidate lexer.candidateHere?).pushScalar false
      (.scalar text style) ⟨':' :: tail, lexer.mark.past (styled style indent text)⟩) := by
  cases style with
  | plain =>
      have plain := isPlainText_of_allowsPlain allows.2 allows.1
      have rest : lexer.cursor.rest = text ++ ':' :: tail := stands.text.trans written
      have cursor : lexer.cursor = ⟨text ++ ':' :: tail, lexer.mark⟩ := by
        rw [← rest]
        rfl
      have place := stands.column
      rw [dispatch_plain plain rest stands.block (by decide)]
      refine fetchPlain_eq stands ?_
      rw [cursor]
      exact plain.scan_key (by omega) gap
  | singleQuoted => exact stands.read_quoted (.inl rfl) allows deep written nofun
  | doubleQuoted => exact stands.read_quoted (.inr rfl) allows deep written nofun
  | literal => contradiction
  | folded => cases allows

/-- Whatever is written on a line ends with a line break. -/
theorem exists_endLine_eq (text : List Char) :
    ∃ (line : List Char) (c : Char), isBreak c = true ∧ endLine text = line ++ [c] := by
  unfold endLine
  split
  · rename_i broken
    obtain ⟨c, last, broken⟩ := Option.any_eq_true _ _ |>.mp broken
    exact ⟨text.dropLast, c, broken, (List.dropLast_append_getLast? c last).symm⟩
  · exact ⟨text, '\n', rfl, rfl⟩

theorem endLine_eq_append {text : List Char} (unbroken : ∀ c ∈ text.getLast?, isBreak c = false) :
    endLine text = text ++ ['\n'] := by
  unfold endLine
  rw [if_neg]
  intro broken
  obtain ⟨c, last, broken⟩ := Option.any_eq_true _ _ |>.mp broken
  rw [unbroken c last] at broken
  cases broken

theorem past_endLine (mark : Mark) (text : List Char) (depth : Nat) :
    (mark.past (endLine text ++ indentation depth)).column = depth ∧
      mark.line < (mark.past (endLine text ++ indentation depth)).line := by
  obtain ⟨line, c, broken, same⟩ := exists_endLine_eq text
  rw [same, List.append_assoc, List.singleton_append]
  exact ⟨mark.column_past_line line broken depth, mark.line_lt_past line broken _⟩

theorem endLine_quoted (quoted : style = .singleQuoted ∨ style = .doubleQuoted) :
    endLine (styled style indent text) = styled style indent text ++ ['\n'] := by
  apply endLine_eq_append
  intro c last
  rcases quoted with rfl | rfl
  · rw [← Option.mem_some.mp (List.getLast?_concat ▸ last : c ∈ some '\'')]
    rfl
  · rw [← Option.mem_some.mp (List.getLast?_concat ▸ last : c ∈ some '"')]
    rfl

/-- The line of a quoted scalar is read up to the next token. -/
theorem Stands.read_quotedLine (stands : lexer.Stands scene) (deeper : scene.indent < scene.column)
    (quoted : style = .singleQuoted ∨ style = .doubleQuoted) (allows : Allows style text)
    (deep : 0 < indent)
    (written : scene.text = endLine (styled style indent text) ++ (indentation depth ++ content))
    (starts : StartsToken content) :
    ∃ behind : Lexer, lexer.dispatch = .ok behind ∧
      behind.atToken.Finishes (scene.behind content depth true [.scalar text style]) := by
  obtain ⟨column, later⟩ := past_endLine lexer.mark (styled style indent text) depth
  rw [endLine_quoted quoted, List.append_assoc, List.singleton_append] at written column later
  have gap : skipGap false ('\n' :: (indentation depth ++ content))
      (lexer.mark.past (styled style indent text)) false false =
        (⟨content, lexer.mark.past (styled style indent text ++ '\n' :: indentation depth)⟩,
          true) := by
    rw [skipGap_line starts, ← Mark.past_append]
  exact ⟨_, stands.read_quoted quoted allows deep written nofun,
    stands.pushScalar (stands.idle deeper) _ ⟨_, _⟩ gap column later⟩

/-- The line of a plain scalar is read up to the next token. -/
theorem Stands.read_plainLine (stands : lexer.Stands scene) (deeper : scene.indent < scene.column)
    (allows : Allows .plain text)
    (written : scene.text = endLine text ++ (indentation depth ++ content))
    (starts : StartsToken content)
    (shallow : (depth : Int) ≤ scene.indent ∨ content = [] ∧ depth = 0) :
    ∃ behind : Lexer, lexer.dispatch = .ok behind ∧
      behind.atToken.Finishes (scene.behind content depth true [.scalar text .plain]) := by
  obtain ⟨column, later⟩ := past_endLine lexer.mark text depth
  have plain := isPlainText_of_allowsPlain allows.2 allows.1
  have ends : endLine text = text ++ ['\n'] :=
    endLine_eq_append fun c last => plain.unbroken c (List.mem_of_getLast? last)
  have place := stands.column
  have cursor := stands.cursor_eq
  have rest := stands.text.trans written
  rw [written, ends, List.append_assoc, List.singleton_append] at cursor
  rw [ends, List.append_assoc, List.singleton_append] at rest column later
  have outside : content ≠ [] → depth < (scene.indent + 1).toNat := by
    intro some
    rcases shallow with inside | ⟨ended, -⟩
    · omega
    · contradiction
  have scanned : Plain.scan false (scene.indent + 1).toNat lexer.cursor =
      .ok ⟨text, ⟨content, lexer.mark.past (text ++ '\n' :: indentation depth)⟩, true⟩ := by
    rw [cursor]
    exact plain.scan_value (by omega) starts outside
  refine ⟨_, ?_, stands.pushScalar (stands.idle deeper) _ ⟨content, lexer.mark.past _⟩
    (skipGap_token starts) column later⟩
  rw [dispatch_plain plain rest stands.block (by decide), fetchPlain_eq stands scanned]

theorem Stands.read_literal (stands : lexer.Stands scene) (allows : Allows .literal text)
    (indented : scene.indent.toNat + 2 = indent)
    (written : scene.text = endLine (literal indent text) ++ (indentation depth ++ content))
    (starts : StartsToken content) (shallow : depth < indent) :
    ∃ behind : Lexer, lexer.dispatch = .ok behind ∧
      behind.atToken.Finishes (scene.behind content depth true [.scalar text .literal]) := by
  obtain ⟨column, later⟩ := past_endLine lexer.mark (literal indent text) depth
  obtain ⟨allowed, found⟩ := allows
  have cursor := stands.cursor_eq
  rw [written] at cursor
  have scanned : Block.scan false scene.indent lexer.cursor = .ok ⟨text, ⟨content,
      lexer.mark.past (endLine (literal indent text) ++ indentation depth)⟩⟩ := by
    rw [cursor]
    exact Block.scan_literal (List.ne_nil_of_mem found) allowed indented starts shallow
  have bar : ∃ rest, lexer.cursor.rest = '|' :: rest := by
    rw [cursor, Block.endLine_literal indent (List.ne_nil_of_mem found)]
    exact ⟨_, rfl⟩
  obtain ⟨rest, bar⟩ := bar
  have noCandidate : ∀ candidate ∈ (none : Option KeyCandidate), candidate.required = false ∧
      candidate.mark = lexer.mark := by
    rintro candidate ⟨⟩
  refine ⟨_, ?_, stands.pushScalar noCandidate _ ⟨content, lexer.mark.past _⟩ (skipGap_token starts)
    column later⟩
  rw [dispatch_bar bar stands.block, fetchBlockScalar_eq stands scanned]

theorem Stands.read_scalar (stands : lexer.Stands scene) (deeper : scene.indent < scene.column)
    (allows : Allows style text) (indented : style = .plain ∨ scene.indent.toNat + 2 = indent)
    (written : scene.text = endLine (styled style indent text) ++ (indentation depth ++ content))
    (starts : StartsToken content)
    (shallow : (depth : Int) ≤ scene.indent ∨ content = [] ∧ depth = 0) :
    ∃ behind : Lexer, lexer.dispatch = .ok behind ∧
      behind.atToken.Finishes (scene.behind content depth true [.scalar text style]) := by
  rcases indented with rfl | indented
  · exact stands.read_plainLine deeper allows written starts shallow
  · have deep : 0 < indent := by omega
    cases style with
    | plain => exact stands.read_plainLine deeper allows written starts shallow
    | singleQuoted => exact stands.read_quotedLine deeper (.inl rfl) allows deep written starts
    | doubleQuoted => exact stands.read_quotedLine deeper (.inr rfl) allows deep written starts
    | literal => exact stands.read_literal allows indented written starts (by omega)
    | folded => cases allows

/-- In front of a token, a lexer is prepared if its candidates are within reach. -/
theorem prepare_of_token (starts : StartsToken lexer.cursor.rest)
    (kept : lexer.candidates.mapM lexer.keepCandidate = .ok lexer.candidates)
    (inside : lexer.inFlow = true ∨ lexer.indent ≤ lexer.mark.column) :
    lexer.prepare = .ok lexer := by
  have here : lexer.atToken = lexer := by
    unfold atToken
    rw [skipGap_token starts]
    rfl
  have stays : lexer.closeBlocks lexer.mark.column = lexer := by
    cases flow : lexer.inFlow with
    | true => exact closeBlocks_of_inFlow flow _
    | false =>
        rw [flow] at inside
        rw [closeBlocks_eq flow, closing_of_le (by simpa using inside), List.replicate_zero,
          List.append_nil]
  rw [prepare_eq, here, dropStale_eq_ok kept]
  exact congrArg Except.ok stays

/-- On its line and not too far behind, a candidate is kept. -/
theorem keepCandidate_here {behind : Lexer} (line : behind.mark.line = lexer.mark.line)
    (near : behind.mark.index ≤ lexer.mark.index + keyReach) :
    behind.keepCandidate lexer.candidateHere? = .ok lexer.candidateHere? := by
  unfold candidateHere?
  split
  · have fresh : isStale behind.mark
        ⟨lexer.indent == (lexer.mark.column : Int), lexer.queue.length, lexer.mark⟩ = false := by
      unfold isStale
      rw [Bool.or_eq_false_iff, decide_eq_false_iff_not, decide_eq_false_iff_not]
      exact ⟨line.not_gt, near.not_gt⟩
    unfold keepCandidate
    dsimp only
    rw [fresh]
    rfl
  · rfl

def insideFlow (lexer : Lexer) (start : TokenKind) : Lexer :=
  ({ lexer with candidates := [none, lexer.candidateHere?] }.allowKey true).pushSign start 1

def behindFlow (lexer : Lexer) (start stop : TokenKind) : Lexer :=
  ({ lexer.insideFlow start with candidates := [lexer.candidateHere?] }.allowKey false).pushSign
    stop 1

theorem prepare_insideFlow (start : TokenKind)
    (starts : StartsToken (lexer.cursor.rest.drop 1)) :
    (lexer.insideFlow start).prepare = .ok (lexer.insideFlow start) := by
  refine prepare_of_token starts ?_ (.inl rfl)
  have kept : (lexer.insideFlow start).keepCandidate lexer.candidateHere? =
      .ok lexer.candidateHere? :=
    keepCandidate_here rfl (Nat.add_le_add_left (by decide : 1 ≤ keyReach) lexer.mark.index)
  change [none, lexer.candidateHere?].mapM _ = _
  rw [List.mapM_cons, List.mapM_cons, kept]
  rfl

/-- The brackets of an empty collection that end their line are read up to the next token. -/
theorem Stands.read_flow (stands : lexer.Stands scene) (deeper : scene.indent < scene.column)
    {opening closing : Char} {start stop : TokenKind}
    (opens : ∀ (lexer : Lexer) (rest : List Char), lexer.cursor.rest = opening :: rest →
      lexer.dispatch = lexer.fetchFlowStart start)
    (closes : ∀ (lexer : Lexer) (rest : List Char), lexer.cursor.rest = closing :: rest →
      lexer.dispatch = lexer.fetchFlowEnd stop)
    (written : scene.text = opening :: closing :: '\n' :: (indentation depth ++ content))
    (starts : StartsToken content) (closer : StartsToken [closing]) :
    ∃ behind : Lexer, Run 1 lexer (lexer.insideFlow start) ∧
      (lexer.insideFlow start).dispatch = .ok behind ∧
        behind.atToken.Finishes (scene.behind content depth true [start, stop]) := by
  have rest := stands.text.trans written
  have inner : (lexer.insideFlow start).cursor.rest =
      closing :: '\n' :: (indentation depth ++ content) := by
    change lexer.cursor.rest.drop 1 = _
    rw [rest]
    rfl
  have read : lexer.dispatch = .ok (lexer.insideFlow start) := by
    rw [opens lexer _ rest]
    unfold fetchFlowStart
    rw [stands.saveCandidate_eq]
    unfold setCandidate
    rw [stands.candidates]
    rfl
  have prepared : (lexer.insideFlow start).prepare = .ok (lexer.insideFlow start) := by
    apply prepare_insideFlow
    rw [rest]
    exact closer
  have closed : (lexer.insideFlow start).dispatch = .ok (lexer.behindFlow start stop) := closes _ _ inner
  let place := ((lexer.mark.advance 1).advance 1).past ('\n' :: indentation depth)
  have gap : skipGap false (lexer.behindFlow start stop).cursor.rest
      (lexer.behindFlow start stop).mark (lexer.behindFlow start stop).keyAllowed false =
        (⟨content, place⟩, true) := by
    change skipGap false ((lexer.insideFlow start).cursor.rest.drop 1)
      ((lexer.mark.advance 1).advance 1) false false = _
    rw [inner]
    exact skipGap_line starts depth
  have column : place.column = depth := Mark.column_past_line _ [] rfl depth
  have later : lexer.mark.line < place.line :=
    Mark.line_lt_past ((lexer.mark.advance 1).advance 1) [] rfl (indentation depth)
  have kinds : (lexer.behindFlow start stop).queue.map Token.kind = scene.kinds ++ [start, stop] := by
    change ((lexer.queue ++ [_]) ++ [_]).map Token.kind = _
    rw [List.append_assoc, List.map_append, stands.kinds]
    rfl
  refine ⟨_, .step read prepared (.none _), closed, finishes_of_gap rfl (fun candidate found => ?_) gap
    column stands.indent stands.outer kinds stands.taken⟩
  obtain ⟨optional, began⟩ := stands.idle deeper candidate found
  rw [began]
  exact ⟨optional, later⟩

end Lexer

namespace Scene

variable {scene : Scene} {text content : List Char} {style : ScalarStyle} {indent depth : Nat}

theorem leads_scalar (deeper : scene.indent < scene.column) (allows : Allows style text)
    (indented : style = .plain ∨ scene.indent.toNat + 2 = indent)
    (written : scene.text = endLine (styled style indent text) ++ (indentation depth ++ content))
    (starts : StartsToken content)
    (shallow : (depth : Int) ≤ scene.indent ∨ content = [] ∧ depth = 0) :
    scene.Leads (scene.behind content depth true [.scalar text style]).closed := by
  refine .of_step ?_ fun lexer stands =>
    stands.read_scalar deeper allows indented written starts shallow
  obtain ⟨line, c, -, same⟩ := Lexer.exists_endLine_eq (styled style indent text)
  unfold weight behind
  rw [written, same]
  simp only [List.length_append, List.length_cons, List.length_nil]
  omega

/-- An empty collection that ends its line leads to the next token. -/
theorem leads_flow (deeper : scene.indent < scene.column) {opening closing : Char}
    {start stop : TokenKind}
    (opens : ∀ (lexer : Lexer) (rest : List Char), lexer.cursor.rest = opening :: rest →
      lexer.dispatch = lexer.fetchFlowStart start)
    (closes : ∀ (lexer : Lexer) (rest : List Char), lexer.cursor.rest = closing :: rest →
      lexer.dispatch = lexer.fetchFlowEnd stop)
    (written : scene.text = opening :: closing :: '\n' :: (indentation depth ++ content))
    (starts : StartsToken content) (closer : StartsToken [closing]) :
    scene.Leads (scene.behind content depth true [start, stop]).closed := by
  refine .of_run 1 ?_ fun lexer stands =>
    ⟨_, stands.read_flow deeper opens closes written starts closer⟩
  unfold weight behind
  rw [written]
  simp only [List.length_append, List.length_cons, List.length_nil]
  omega

end Scene

end TaggedConfig.Yaml
