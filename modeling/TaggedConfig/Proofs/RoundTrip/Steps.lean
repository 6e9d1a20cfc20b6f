import TaggedConfig.Proofs.RoundTrip.LiteralText
import TaggedConfig.Proofs.RoundTrip.QuotedText

/-!
# One token after the other

In front of a token, a lexer is known by what is left of the text, by its column, by the block
collections that are open, and by the tokens so far.  Every sign and every scalar that is written
leads from such a scene to the next one.
-/

namespace TaggedConfig.Yaml

open Writing

/-- What a lexer sees in front of a token. -/
structure Scene where
  text : List Char
  column : Nat
  /-- The innermost open block collection, and those around it. -/
  indent : Int
  outer : List Int
  keyAllowed : Bool
  /-- The tokens so far. -/
  kinds : List TokenKind

namespace Scene

def closedTo (scene : Scene) (column : Int) : Scene :=
  let ends := Lexer.closing column scene.indent scene.outer
  { scene with
    indent := ends.1, outer := ends.2.1, kinds := scene.kinds ++ List.replicate ends.2.2 .blockEnd }

/-- The block collections that are indented deeper than the next token end in front of it. -/
def closed (scene : Scene) : Scene := scene.closedTo scene.column

/-- How many tokens and steps there can still be, with those that have been counted already. -/
def weight (scene : Scene) : Nat :=
  scene.kinds.length + scene.outer.length + 3 * scene.text.length

end Scene

namespace Lexer

theorem closing_of_le {column indent : Int} (inside : indent ≤ column) (outer : List Int) :
    closing column indent outer = (indent, outer, 0) := by
  cases outer with
  | nil => rfl
  | cons next outer =>
      unfold closing
      rw [if_neg (not_lt.mpr inside)]

theorem closing_of_lt {column indent : Int} (outside : column < indent) (next : Int)
    (outer : List Int) :
    closing column indent (next :: outer) =
      ((closing column next outer).1, (closing column next outer).2.1,
        (closing column next outer).2.2 + 1) := by
  conv_lhs => unfold closing
  rw [if_pos outside]

theorem length_closing (column indent : Int) (outer : List Int) :
    (closing column indent outer).2.1.length + (closing column indent outer).2.2 = outer.length := by
  induction outer generalizing indent with
  | nil => rfl
  | cons next others ih =>
      have before := ih next
      rcases lt_or_ge column indent with outside | inside
      · rw [closing_of_lt outside, List.length_cons]
        dsimp only
        omega
      · rw [closing_of_le inside]
        rfl

end Lexer

/-- No collection ends in front of a token that stands inside the innermost of them. -/
theorem Scene.closed_of_le {scene : Scene} (inside : scene.indent ≤ scene.column) :
    scene.closed = scene := by
  unfold closed closedTo
  rw [Lexer.closing_of_le inside]
  simp

theorem Scene.weight_closedTo (scene : Scene) (column : Int) :
    (scene.closedTo column).weight = scene.weight := by
  have length := Lexer.length_closing column scene.indent scene.outer
  unfold weight closedTo
  dsimp only
  rw [List.length_append, List.length_replicate]
  omega

namespace Lexer

/-- A lexer stands at a scene, outside of flow collections and with no candidate. -/
structure Stands (lexer : Lexer) (scene : Scene) : Prop where
  text : lexer.cursor.rest = scene.text
  column : lexer.mark.column = scene.column
  indent : lexer.indent = scene.indent
  outer : lexer.outerIndents = scene.outer
  keyAllowed : lexer.keyAllowed = scene.keyAllowed
  candidates : lexer.candidates = [none]
  kinds : lexer.queue.map Token.kind = scene.kinds
  taken : lexer.taken = 0

/-- A lexer has come to a scene, where no candidate is within reach any more. -/
structure Finishes (lexer : Lexer) (scene : Scene) : Prop where
  text : lexer.cursor.rest = scene.text
  column : lexer.mark.column = scene.column
  indent : lexer.indent = scene.indent
  outer : lexer.outerIndents = scene.outer
  keyAllowed : lexer.keyAllowed = scene.keyAllowed
  candidates : ∃ candidate?, lexer.candidates = [candidate?] ∧ ∀ candidate ∈ candidate?,
    candidate.required = false ∧ isStale lexer.mark candidate = true
  kinds : lexer.queue.map Token.kind = scene.kinds
  taken : lexer.taken = 0

theorem Finishes.keepCandidates {lexer : Lexer} {scene : Scene} (finishes : lexer.Finishes scene) :
    lexer.candidates.mapM lexer.keepCandidate = .ok [none] := by
  obtain ⟨candidate?, single, idle⟩ := finishes.candidates
  rw [single]
  cases candidate? with
  | none => rfl
  | some candidate =>
      obtain ⟨optional, stale⟩ := idle candidate rfl
      have given : lexer.keepCandidate (some candidate) = .ok none := by
        unfold keepCandidate abandon
        dsimp only
        rw [stale, optional]
        rfl
      rw [List.mapM_cons, given]
      rfl

theorem Stands.block {lexer : Lexer} {scene : Scene} (stands : lexer.Stands scene) :
    lexer.inFlow = false := by
  unfold inFlow
  rw [stands.candidates]
  rfl

theorem Stands.closeBlocks {lexer : Lexer} {scene : Scene} (stands : lexer.Stands scene)
    (column : Int) : (lexer.closeBlocks column).Stands (scene.closedTo column) := by
  have indent := stands.indent
  have outer := stands.outer
  rw [closeBlocks_eq stands.block]
  unfold Scene.closedTo
  constructor
  · exact stands.text
  · exact stands.column
  · rw [← indent, ← outer]
  · rw [← indent, ← outer]
  · exact stands.keyAllowed
  · exact stands.candidates
  · rw [List.map_append, List.map_replicate, ← indent, ← outer, ← stands.kinds]
  · exact stands.taken

/-- Once the gap is behind, what is left is to give up candidates and to end block collections. -/
theorem prepare_of_finishes {lexer : Lexer} {scene : Scene}
    (finishes : lexer.atToken.Finishes scene) :
    ∃ ready : Lexer, lexer.prepare = .ok ready ∧ ready.Stands scene.closed := by
  let fresh : Lexer := { lexer.atToken with candidates := [none] }
  have stands : fresh.Stands scene := by
    obtain ⟨text, column, indent, outer, keyAllowed, -, kinds, taken⟩ := finishes
    exact ⟨text, column, indent, outer, keyAllowed, rfl, kinds, taken⟩
  have column : fresh.mark.column = scene.column := finishes.column
  refine ⟨fresh.closeBlocks scene.column, ?_, stands.closeBlocks scene.column⟩
  rw [prepare_eq, dropStale_eq_ok finishes.keepCandidates, ← column]
  rfl

/-- A number of tokens, with the gaps behind them, lead from one state to another. -/
inductive Run : Nat → Lexer → Lexer → Prop
  | none (lexer : Lexer) : Run 0 lexer lexer
  | step {count : Nat} {first behind second last : Lexer} (read : first.dispatch = .ok behind)
      (prepared : behind.prepare = .ok second) (later : Run count second last) :
      Run (count + 1) first last

theorem Run.append {count further : Nat} {start middle last : Lexer}
    (before : Run count start middle) (later : Run further middle last) :
    Run (count + further) start last := by
  induction before with
  | none => rwa [Nat.zero_add]
  | step read prepared _ ih =>
      rw [Nat.add_right_comm]
      exact .step read prepared (ih later)

/-- A run is a number of steps that find tokens. -/
theorem Run.fetches {count : Nat} {start first last done : Lexer} (run : Run count first last)
    (prepared : start.prepare = .ok first) (ends : last.dispatch = .ok done) :
    Fetches (count + 1) start done := by
  induction run generalizing start with
  | none =>
      refine .step ?_ (.none done)
      unfold fetch
      rw [prepared]
      exact ends
  | step read later _ ih =>
      refine .step ?_ (ih later ends)
      unfold fetch
      rw [prepared]
      exact read

variable {lexer : Lexer} {mark : Mark} {text rest : List Char} {inFlow keyAllowed : Bool}

theorem skipGap_token (starts : StartsToken text) :
    skipGap inFlow text mark keyAllowed false = (⟨text, mark⟩, keyAllowed) := by
  cases text with
  | nil => rfl
  | cons c rest =>
      obtain ⟨noBlank, unbroken, noComment, noOrderMark⟩ := starts c rfl
      obtain ⟨noSpace, noTab⟩ := Bool.or_eq_false_iff.mp noBlank
      have noReturn := ne_of_isBreak_eq_false unbroken
      conv_lhs => unfold skipGap
      simp [unbroken, noSpace, noTab, noComment, noOrderMark, noReturn]

theorem skipGap_space :
    skipGap inFlow (' ' :: rest) mark keyAllowed false =
      skipGap inFlow rest (mark.next ' ') keyAllowed false := by
  conv_lhs => unfold skipGap
  simp [isBreak]

theorem skipGap_indentation (indent : Nat) :
    skipGap inFlow (indentation indent ++ rest) mark keyAllowed false =
      skipGap inFlow rest (mark.past (indentation indent)) keyAllowed false := by
  induction indent generalizing mark with
  | zero => rfl
  | succ indent ih =>
      have spaces : indentation (indent + 1) = ' ' :: indentation indent := rfl
      rw [spaces, List.cons_append, skipGap_space, ih, Mark.past_cons rfl]

/-- Behind a line break, the next token begins the line, and a key may begin. -/
theorem skipGap_line (starts : StartsToken rest) (indent : Nat) :
    skipGap false ('\n' :: (indentation indent ++ rest)) mark keyAllowed false =
      (⟨rest, mark.past ('\n' :: indentation indent)⟩, true) := by
  have broken : skipGap false ('\n' :: (indentation indent ++ rest)) mark keyAllowed false =
      skipGap false (indentation indent ++ rest) (mark.nextLine 1) true false := by
    conv_lhs => unfold skipGap
    cases keyAllowed <;> simp [isBreak] <;> rfl
  rw [broken, skipGap_indentation, skipGap_token starts, Mark.past_cons_break rfl]
  rfl

theorem startsWithMarker_of_ne {sign c : Char} (other : c ≠ sign) :
    startsWithMarker sign (c :: rest) = false := by
  unfold startsWithMarker
  split
  · rename_i same
    cases same
    rw [beq_eq_false_iff_ne.mpr other]
    rfl
  · rfl

theorem startsWithMarker_of_second {sign c d : Char} (other : d ≠ sign) :
    startsWithMarker sign (c :: d :: rest) = false := by
  unfold startsWithMarker
  split
  · rename_i same
    cases same
    rw [beq_eq_false_iff_ne.mpr other, Bool.and_false]
    rfl
  · rfl

/-- A character that is neither a dash nor a full stop begins no document marker. -/
theorem noMarkers {c : Char} (noDash : c ≠ '-') (noStop : c ≠ '.') (rest : List Char) :
    startsWithMarker '-' (c :: rest) = false ∧ startsWithMarker '.' (c :: rest) = false :=
  ⟨startsWithMarker_of_ne noDash, startsWithMarker_of_ne noStop⟩

theorem dispatch_eq {c : Char} (written : lexer.cursor.rest = c :: rest) :
    lexer.dispatch = lexer.fetchFrom c rest := by
  unfold dispatch
  rw [written]

theorem dispatch_dash (written : lexer.cursor.rest = '-' :: ' ' :: rest) :
    lexer.dispatch = lexer.fetchBlockEntry := by
  have noStart : startsWithMarker '-' ('-' :: ' ' :: rest) = false :=
    startsWithMarker_of_second (by decide)
  have noEnd : startsWithMarker '.' ('-' :: ' ' :: rest) = false :=
    startsWithMarker_of_ne (by decide)
  rw [dispatch_eq written]
  simp [fetchFrom, noStart, noEnd, startsWithGap, isBlank]

theorem dispatch_question (written : lexer.cursor.rest = '?' :: ' ' :: rest) :
    lexer.dispatch = lexer.fetchKey := by
  have markers := noMarkers (by decide : '?' ≠ '-') (by decide) (' ' :: rest)
  rw [dispatch_eq written]
  simp [fetchFrom, markers, startsWithGap, isBlank]

theorem dispatch_colon (written : lexer.cursor.rest = ':' :: rest) (gap : startsWithGap rest = true) :
    lexer.dispatch = lexer.fetchValue := by
  have markers := noMarkers (by decide : ':' ≠ '-') (by decide) rest
  rw [dispatch_eq written]
  simp [fetchFrom, markers, gap]

theorem dispatch_single (written : lexer.cursor.rest = '\'' :: rest) :
    lexer.dispatch = lexer.fetchQuoted .single .singleQuoted := by
  have markers := noMarkers (by decide : '\'' ≠ '-') (by decide) rest
  rw [dispatch_eq written]
  simp [fetchFrom, markers]

theorem dispatch_double (written : lexer.cursor.rest = '"' :: rest) :
    lexer.dispatch = lexer.fetchQuoted .double .doubleQuoted := by
  have markers := noMarkers (by decide : '"' ≠ '-') (by decide) rest
  rw [dispatch_eq written]
  simp [fetchFrom, markers]

theorem dispatch_bar (written : lexer.cursor.rest = '|' :: rest) (block : lexer.inFlow = false) :
    lexer.dispatch = lexer.fetchBlockScalar .literal := by
  have markers := noMarkers (by decide : '|' ≠ '-') (by decide) rest
  rw [dispatch_eq written]
  simp [fetchFrom, markers, block]

theorem dispatch_bracket {c : Char} (written : lexer.cursor.rest = c :: rest) :
    (c = '[' → lexer.dispatch = lexer.fetchFlowStart .flowSequenceStart) ∧
      (c = '\x7b' → lexer.dispatch = lexer.fetchFlowStart .flowMappingStart) ∧
      (c = ']' → lexer.dispatch = lexer.fetchFlowEnd .flowSequenceEnd) ∧
      (c = '\x7d' → lexer.dispatch = lexer.fetchFlowEnd .flowMappingEnd) := by
  rw [dispatch_eq written]
  refine ⟨?_, ?_, ?_, ?_⟩
  · rintro rfl
    simp [fetchFrom, noMarkers (by decide : '[' ≠ '-') (by decide) rest]
  · rintro rfl
    simp [fetchFrom, noMarkers (by decide : '\x7b' ≠ '-') (by decide) rest]
  · rintro rfl
    simp [fetchFrom, noMarkers (by decide : ']' ≠ '-') (by decide) rest]
  · rintro rfl
    simp [fetchFrom, noMarkers (by decide : '\x7d' ≠ '-') (by decide) rest]

/-- A text is no document marker because of what follows it. -/
theorem startsWithMarker_append {sign : Char} {tail : List Char}
    (noMarker : ∀ others, text ≠ sign :: sign :: sign :: others) (nonempty : text ≠ [])
    (behind : tail.head? ≠ some sign) : startsWithMarker sign (text ++ tail) = false := by
  cases found : startsWithMarker sign (text ++ tail) with
  | false => rfl
  | true =>
      obtain ⟨c, rest, rfl⟩ := List.exists_cons_of_ne_nil nonempty
      unfold startsWithMarker at found
      split at found
      · rename_i same
        simp only [Bool.and_eq_true, beq_iff_eq] at found
        obtain ⟨⟨⟨rfl, rfl⟩, rfl⟩, -⟩ := found
        cases rest with
        | nil =>
            rw [List.singleton_append] at same
            rw [(List.cons.inj same).2] at behind
            exact absurd rfl behind
        | cons d rest =>
            cases rest with
            | nil =>
                obtain ⟨-, same⟩ := List.cons.inj same
                change d :: tail = _ at same
                rw [(List.cons.inj same).2] at behind
                exact absurd rfl behind
            | cons e rest =>
                obtain ⟨rfl, same⟩ := List.cons.inj same
                obtain ⟨rfl, same⟩ := List.cons.inj same
                obtain ⟨rfl, -⟩ := List.cons.inj same
                exact absurd rfl (noMarker rest)
      · cases found

/-- The reader sees a plain scalar where the writer has begun one. -/
theorem dispatch_plain {next : Char} {tail : List Char} (plain : IsPlainText text)
    (written : lexer.cursor.rest = text ++ next :: tail) (block : lexer.inFlow = false)
    (noSign : next ∉ ['-', '.']) : lexer.dispatch = lexer.fetchPlain := by
  obtain ⟨c, rest, rfl⟩ := List.exists_cons_of_ne_nil plain.some
  obtain ⟨begins, -⟩ := Bool.or_eq_false_iff.mp plain.noMarkup
  obtain ⟨noIndicator, noGap, noMarker⟩ := of_beginsLikeMarkup_eq_false begins
  have unbroken := plain.unbroken c List.mem_cons_self
  have noSpace : c ≠ ' ' :=
    beq_eq_false_iff_ne.mp (Bool.or_eq_false_iff.mp (plain.first c rfl)).1
  have noBlank := isBlank_eq_false (plain.printable c List.mem_cons_self) noSpace
  have behind {sign : Char} (found : sign ∈ ['-', '.']) : (next :: tail).head? ≠ some sign := by
    rintro ⟨⟩
    exact noSign found
  have noStart : startsWithMarker '-' (c :: (rest ++ next :: tail)) = false :=
    startsWithMarker_append (noMarker '-' (by decide)) plain.some (behind (by decide))
  have noEnd : startsWithMarker '.' (c :: (rest ++ next :: tail)) = false :=
    startsWithMarker_append (noMarker '.' (by decide)) plain.some (behind (by decide))
  rw [dispatch_eq written]
  unfold Writing.isIndicator isFlowIndicator at noIndicator
  simp only [Bool.or_eq_false_iff, beq_eq_false_iff_ne] at noIndicator
  by_cases sign : c = '?' ∨ c = ':' ∨ c = '-'
  · have inside : startsWithWordEnd rest = false := by
      rcases sign with rfl | rfl | rfl
      · exact noGap
      · exact noGap
      · exact noGap
    have gap : startsWithGap (rest ++ next :: tail) = false := Plain.startsWithGap_append inside
    have noBlankBehind : (rest ++ next :: tail).head?.any isBlank = false := by
      cases rest with
      | nil => cases inside
      | cons d rest => exact (Bool.or_eq_false_iff.mp gap).1
    rcases sign with rfl | rfl | rfl
    · simp [fetchFrom, noStart, noEnd, startsPlain, gap, block]
    · simp [fetchFrom, noStart, noEnd, startsPlain, gap, block]
    · simp [fetchFrom, noStart, noEnd, startsPlain, gap, noBlankBehind, -List.head?_append]
  · simp only [not_or] at sign
    have noSignal : isIndicator c = false := by
      simp [isIndicator, noIndicator, sign]
    simp [fetchFrom, noStart, noEnd, startsPlain, noBlank, unbroken, noIndicator, sign, noSignal]

end Lexer

/-- From every state at a scene, tokens lead to a state at another scene. -/
def Scene.Leads (scene next : Scene) : Prop :=
  ∀ lexer : Lexer, lexer.Stands scene → ∃ (count : Nat) (reached : Lexer),
    Lexer.Run count lexer reached ∧ reached.Stands next ∧ count + next.weight ≤ scene.weight

namespace Scene.Leads

variable {first second third : Scene}

theorem trans (before : first.Leads second) (later : second.Leads third) : first.Leads third := by
  intro lexer stands
  obtain ⟨count, middle, run, stands, light⟩ := before lexer stands
  obtain ⟨further, last, goesOn, stands, lighter⟩ := later middle stands
  exact ⟨count + further, last, run.append goesOn, stands, by omega⟩

theorem of_run (count : Nat) (light : count + 1 + second.weight ≤ first.weight)
    (steps : ∀ lexer : Lexer, lexer.Stands first → ∃ last behind : Lexer,
      Lexer.Run count lexer last ∧ last.dispatch = .ok behind ∧ behind.atToken.Finishes second) :
    first.Leads second.closed := by
  intro lexer stands
  obtain ⟨last, behind, run, read, finishes⟩ := steps lexer stands
  obtain ⟨ready, prepared, stands⟩ := Lexer.prepare_of_finishes finishes
  refine ⟨count + 1, ready, run.append (.step read prepared (.none ready)), stands, ?_⟩
  rw [closed, weight_closedTo]
  exact light

theorem of_step (light : 1 + second.weight ≤ first.weight)
    (step : ∀ lexer : Lexer, lexer.Stands first →
      ∃ behind : Lexer, lexer.dispatch = .ok behind ∧ behind.atToken.Finishes second) :
    first.Leads second.closed := by
  refine .of_run 0 light fun lexer stands => ?_
  obtain ⟨behind, read, finishes⟩ := step lexer stands
  exact ⟨lexer, behind, .none lexer, read, finishes⟩

end Scene.Leads

end TaggedConfig.Yaml
