import TaggedConfig.Proofs.Fallible
import TaggedConfig.Yaml.Token.Lexer

/-!
# Handing out tokens

Tokens are handed out between the steps that find others.  The steps do not look at tokens that can
be handed out, so the tokens of a text are the queue of a lexer that reads the text to its end and
keeps all of them.
-/

namespace TaggedConfig.Yaml.Lexer

def withFront (lexer : Lexer) (token : Token) : Lexer :=
  { lexer with queue := token :: lexer.queue, taken := lexer.taken - 1 }

/-- Tokens have been handed out, and none of them can become a key. -/
structure Waits (lexer : Lexer) : Prop where
  begun : 0 < lexer.taken
  later : ∀ candidate, some candidate ∈ lexer.candidates → lexer.taken ≤ candidate.number

structure IsBlind (operation : Lexer → Except SyntaxError Lexer) : Prop where
  front {lexer : Lexer} (waits : lexer.Waits) (token : Token) :
    operation (lexer.withFront token) = (operation lexer).map (withFront · token)
  keeps {lexer after : Lexer} (waits : lexer.Waits) (found : operation lexer = .ok after) :
    after.Waits

variable {lexer after : Lexer}

theorem Waits.of_subset (waits : lexer.Waits) (taken : after.taken = lexer.taken)
    (candidates : ∀ candidate, some candidate ∈ after.candidates →
      some candidate ∈ lexer.candidates) : after.Waits := by
  constructor
  · rw [taken]
    exact waits.begun
  · intro candidate found
    rw [taken]
    exact waits.later candidate (candidates candidate found)

/-- Only the number of tokens handed out and the candidates matter. -/
theorem Waits.of_eq (waits : lexer.Waits) (taken : after.taken = lexer.taken)
    (candidates : after.candidates = lexer.candidates) : after.Waits :=
  waits.of_subset taken fun _ found => candidates ▸ found

/-- The block collections that stay open in front of a column, and the number of those that end. -/
def closing (column : Int) : Int → List Int → Int × List Int × Nat
  | indent, [] => (indent, [], 0)
  | indent, outer :: rest =>
      if column < indent then
        let (stays, others, count) := closing column outer rest
        (stays, others, count + 1)
      else (indent, outer :: rest, 0)

theorem close_eq (lexer : Lexer) (column indent : Int) (outer : List Int) (queue : List Token) :
    closeBlocks.close lexer column indent outer queue =
      ((closing column indent outer).1, (closing column indent outer).2.1, queue ++
        List.replicate (closing column indent outer).2.2 ⟨.blockEnd, lexer.mark, lexer.mark⟩) := by
  induction outer generalizing indent queue with
  | nil =>
      unfold closeBlocks.close closing
      rw [List.replicate_zero, List.append_nil]
  | cons next outer ih =>
      unfold closeBlocks.close closing
      split
      · rw [ih, List.append_assoc]
        rfl
      · rw [List.replicate_zero, List.append_nil]

/-- In block context, the collections that are indented deeper end here. -/
theorem closeBlocks_eq (block : lexer.inFlow = false) (column : Int) :
    lexer.closeBlocks column =
      { lexer with
        indent := (closing column lexer.indent lexer.outerIndents).1
        outerIndents := (closing column lexer.indent lexer.outerIndents).2.1
        queue := lexer.queue ++ List.replicate
          (closing column lexer.indent lexer.outerIndents).2.2 ⟨.blockEnd, lexer.mark, lexer.mark⟩ } := by
  unfold closeBlocks
  rw [block, close_eq]
  rfl

theorem closeBlocks_of_inFlow (flow : lexer.inFlow = true) (column : Int) :
    lexer.closeBlocks column = lexer := by
  unfold closeBlocks
  rw [if_pos flow]

theorem closeBlocks_withFront (lexer : Lexer) (token : Token) (column : Int) :
    (lexer.withFront token).closeBlocks column = (lexer.closeBlocks column).withFront token := by
  cases context : lexer.inFlow with
  | true =>
      have same : (lexer.withFront token).inFlow = true := context
      rw [closeBlocks_of_inFlow context, closeBlocks_of_inFlow same]
  | false =>
      have same : (lexer.withFront token).inFlow = false := context
      rw [closeBlocks_eq context, closeBlocks_eq same]
      rfl

theorem Waits.closeBlocks (waits : lexer.Waits) (column : Int) :
    (lexer.closeBlocks column).Waits := by
  cases context : lexer.inFlow with
  | true =>
      rw [closeBlocks_of_inFlow context]
      exact waits
  | false =>
      rw [closeBlocks_eq context]
      exact waits.of_eq rfl rfl

theorem Waits.setCandidate_none (waits : lexer.Waits) : (lexer.setCandidate none).Waits := by
  refine waits.of_subset rfl fun candidate found => ?_
  rcases List.mem_cons.mp found with same | later
  · cases same
  · exact List.mem_of_mem_drop later

theorem abandon_eq_none {candidate : KeyCandidate} {kept : Option KeyCandidate}
    (given : lexer.abandon candidate = .ok kept) : kept = none :=
  of_ite_eq_ok given nofun fun same => (Except.ok.inj same).symm

theorem dropCandidate_isBlind : IsBlind dropCandidate := by
  constructor
  · intro lexer waits token
    have same : (lexer.withFront token).candidate? = lexer.candidate? := rfl
    unfold dropCandidate
    rw [same]
    cases lexer.candidate? with
    | none => rfl
    | some candidate =>
        dsimp only
        unfold abandon
        cases candidate.required with
        | true => rfl
        | false => rfl
  · intro lexer after waits found
    unfold dropCandidate at found
    split at found
    · cases found
      exact waits
    · rename_i candidate present
      cases given : lexer.abandon candidate with
      | error fault =>
          rw [given] at found
          cases found
      | ok kept =>
          rw [given, abandon_eq_none given] at found
          cases found
          exact waits.setCandidate_none

/-- Staleness depends on the place only. -/
theorem keepCandidate_withFront (lexer : Lexer) (token : Token) :
    (lexer.withFront token).keepCandidate = lexer.keepCandidate := by
  funext candidate
  cases candidate with
  | none => rfl
  | some candidate => rfl

theorem mem_of_keepCandidate {candidates kept : List (Option KeyCandidate)}
    (given : candidates.mapM lexer.keepCandidate = .ok kept) {candidate : KeyCandidate}
    (found : some candidate ∈ kept) : some candidate ∈ candidates := by
  induction candidates generalizing kept with
  | nil =>
      cases given
      cases found
  | cons first rest ih =>
      rw [List.mapM_cons] at given
      obtain ⟨here, keptHere, given⟩ := exists_of_bind_eq_ok given
      obtain ⟨others, keptLater, same⟩ := exists_of_bind_eq_ok given
      cases same
      rcases List.mem_cons.mp found with rfl | later
      · cases first with
        | none => cases keptHere
        | some first =>
            refine of_ite_eq_ok keptHere (fun given => ?_) fun same => ?_
            · cases abandon_eq_none given
            · cases same
              exact List.mem_cons_self
      · exact List.mem_cons_of_mem _ (ih keptLater later)

theorem dropStale_isBlind : IsBlind dropStale := by
  constructor
  · intro lexer waits token
    unfold dropStale
    rw [keepCandidate_withFront]
    change lexer.candidates.mapM lexer.keepCandidate >>= _ =
      Except.map _ (lexer.candidates.mapM lexer.keepCandidate >>= _)
    cases lexer.candidates.mapM lexer.keepCandidate with
    | error fault => rfl
    | ok kept => rfl
  · intro lexer after waits found
    obtain ⟨kept, given, same⟩ := exists_of_bind_eq_ok found
    cases same
    exact waits.of_subset rfl fun candidate found => mem_of_keepCandidate given found

theorem saveCandidate_isBlind : IsBlind saveCandidate := by
  constructor
  · intro lexer waits token
    have same : (lexer.withFront token).keyAllowed = lexer.keyAllowed := rfl
    unfold saveCandidate
    rw [same]
    split
    · rw [dropCandidate_isBlind.front waits]
      cases dropped : lexer.dropCandidate with
      | error fault => rfl
      | ok behind =>
          have begun := (dropCandidate_isBlind.keeps waits dropped).begun
          have number : behind.taken - 1 + (token :: behind.queue).length =
              behind.taken + behind.queue.length := by
            rw [List.length_cons]
            omega
          change Except.ok ((behind.withFront token).setCandidate (some
            ⟨_, behind.taken - 1 + (token :: behind.queue).length, behind.mark⟩)) = _
          rw [number]
          rfl
    · rfl
  · intro lexer after waits found
    refine of_ite_eq_ok found (fun found => ?_) fun same => ?_
    · obtain ⟨behind, dropped, same⟩ := exists_of_bind_eq_ok found
      cases same
      have waits := dropCandidate_isBlind.keeps waits dropped
      refine ⟨waits.begun, fun candidate found => ?_⟩
      rcases List.mem_cons.mp found with same | later
      · cases same
        exact Nat.le_add_right _ _
      · exact waits.later candidate (List.mem_of_mem_drop later)
    · cases same
      exact waits

/-- A token that is put in front of one that waits comes behind those that do not. -/
theorem insert_withFront (waits : lexer.Waits) {number : Nat} (later : lexer.taken ≤ number)
    (token : Token) (kind : TokenKind) (mark : Mark) :
    (lexer.withFront token).insert number kind mark =
      (lexer.insert number kind mark).withFront token := by
  have begun := waits.begun
  have index : number - (lexer.taken - 1) = number - lexer.taken + 1 := by omega
  change ({ lexer.withFront token with
    queue := (token :: lexer.queue).take (number - (lexer.taken - 1)) ++
      (⟨kind, mark, mark⟩ :: (token :: lexer.queue).drop (number - (lexer.taken - 1))) } : Lexer) = _
  rw [index]
  rfl

theorem openBlock_withFront (waits : lexer.Waits) {place : Option Nat}
    (later : ∀ number ∈ place, lexer.taken ≤ number) (token : Token) (column : Nat)
    (kind : TokenKind) (mark : Mark) :
    (lexer.withFront token).openBlock column place kind mark =
      (lexer.openBlock column place kind mark).withFront token := by
  have same : ((lexer.withFront token).inFlow || (column : Int) ≤ (lexer.withFront token).indent) =
      (lexer.inFlow || (column : Int) ≤ lexer.indent) := rfl
  unfold openBlock
  rw [same]
  split
  · rfl
  · cases place with
    | none => rfl
    | some number =>
        let opened : Lexer :=
          { lexer with indent := column, outerIndents := lexer.indent :: lexer.outerIndents }
        have opens : opened.Waits := waits.of_eq rfl rfl
        exact insert_withFront opens (later number rfl) token kind mark

theorem Waits.openBlock (waits : lexer.Waits) (column : Nat) (place : Option Nat)
    (kind : TokenKind) (mark : Mark) : (lexer.openBlock column place kind mark).Waits := by
  unfold Lexer.openBlock
  split
  · exact waits
  · cases place with
    | none => exact waits.of_eq rfl rfl
    | some number => exact waits.of_eq rfl rfl

/-- What follows a blind operation is blind if it only builds on its result. -/
theorem IsBlind.front_bind {operation next nextFront : Lexer → Except SyntaxError Lexer}
    (blind : IsBlind operation) (waits : lexer.Waits) (token : Token)
    (later : ∀ behind : Lexer, behind.Waits →
      nextFront (behind.withFront token) = (next behind).map (withFront · token)) :
    (operation (lexer.withFront token) >>= nextFront) =
      (operation lexer >>= next).map (withFront · token) := by
  rw [blind.front waits]
  cases found : operation lexer with
  | error fault => rfl
  | ok behind => exact later behind (blind.keeps waits found)

theorem fetchStreamEnd_isBlind : IsBlind fetchStreamEnd := by
  constructor
  · intro lexer waits token
    let lineEnd : Mark :=
      if lexer.mark.column = 0 then lexer.mark else ⟨lexer.mark.index, lexer.mark.line + 1, 0⟩
    have moved : (lexer.moveTo ⟨[], lineEnd⟩).Waits := waits.of_eq rfl rfl
    change (((lexer.moveTo ⟨[], lineEnd⟩).withFront token).closeBlocks (-1)).dropCandidate >>= _ = _
    rw [closeBlocks_withFront]
    exact dropCandidate_isBlind.front_bind (moved.closeBlocks _) token fun _ _ => rfl
  · intro lexer after waits found
    obtain ⟨behind, dropped, same⟩ := exists_of_bind_eq_ok found
    cases same
    have moved : (lexer.moveTo ⟨[], if lexer.mark.column = 0 then lexer.mark
      else ⟨lexer.mark.index, lexer.mark.line + 1, 0⟩⟩).Waits := waits.of_eq rfl rfl
    exact (dropCandidate_isBlind.keeps (moved.closeBlocks _) dropped).of_eq rfl rfl

theorem fetchDirective_isBlind : IsBlind fetchDirective := by
  constructor
  · intro lexer waits token
    unfold fetchDirective
    rw [closeBlocks_withFront]
    refine dropCandidate_isBlind.front_bind (waits.closeBlocks _) token fun behind _ => ?_
    have same : Directive.scan (behind.withFront token).cursor = Directive.scan behind.cursor := rfl
    rw [same]
    cases Directive.scan behind.cursor with
    | error fault => rfl
    | ok scanned =>
        change (if _ then _ else _) = Except.map _ (if _ then _ else _)
        split
        · rfl
        · rfl
  · intro lexer after waits found
    obtain ⟨behind, dropped, found⟩ := exists_of_bind_eq_ok found
    obtain ⟨⟨kind, stop⟩, scanned, found⟩ := exists_of_bind_eq_ok found
    refine of_ite_eq_ok found nofun fun same => ?_
    cases same
    exact (dropCandidate_isBlind.keeps (waits.closeBlocks _) dropped).of_eq rfl rfl

theorem fetchDocumentMarker_isBlind (kind : TokenKind) :
    IsBlind (fetchDocumentMarker · kind) := by
  constructor
  · intro lexer waits token
    unfold fetchDocumentMarker
    rw [closeBlocks_withFront]
    exact dropCandidate_isBlind.front_bind (waits.closeBlocks _) token fun _ _ => rfl
  · intro lexer after waits found
    obtain ⟨behind, dropped, same⟩ := exists_of_bind_eq_ok found
    cases same
    exact (dropCandidate_isBlind.keeps (waits.closeBlocks _) dropped).of_eq rfl rfl

theorem fetchFlowStart_isBlind (kind : TokenKind) : IsBlind (fetchFlowStart · kind) := by
  constructor
  · intro lexer waits token
    exact saveCandidate_isBlind.front_bind waits token fun _ _ => rfl
  · intro lexer after waits found
    obtain ⟨behind, saved, same⟩ := exists_of_bind_eq_ok found
    cases same
    refine (saveCandidate_isBlind.keeps waits saved).of_subset rfl fun candidate found => ?_
    rcases List.mem_cons.mp found with same | later
    · cases same
    · exact later

theorem fetchFlowEnd_isBlind (kind : TokenKind) : IsBlind (fetchFlowEnd · kind) := by
  constructor
  · intro lexer waits token
    refine dropCandidate_isBlind.front_bind waits token fun behind _ => ?_
    have same : (behind.withFront token).inFlow = behind.inFlow := rfl
    dsimp only
    rw [same]
    split
    · rfl
    · rfl
  · intro lexer after waits found
    obtain ⟨behind, dropped, same⟩ := exists_of_bind_eq_ok found
    have waits := dropCandidate_isBlind.keeps waits dropped
    cases same
    cases context : behind.inFlow with
    | true =>
        rw [if_pos rfl]
        exact waits.of_subset rfl fun _ found => List.mem_of_mem_drop found
    | false =>
        rw [if_neg Bool.false_ne_true]
        exact waits.of_eq rfl rfl

theorem fetchFlowEntry_isBlind : IsBlind fetchFlowEntry := by
  constructor
  · intro lexer waits token
    exact dropCandidate_isBlind.front_bind waits token fun _ _ => rfl
  · intro lexer after waits found
    obtain ⟨behind, dropped, same⟩ := exists_of_bind_eq_ok found
    cases same
    exact (dropCandidate_isBlind.keeps waits dropped).of_eq rfl rfl

/-- A sign that may begin a collection: a dash or a question mark. -/
theorem sign_isBlind (problem : Problem) (opens kind : TokenKind) {allowed : Lexer → Bool}
    (same : ∀ (lexer : Lexer) (token : Token), allowed (lexer.withFront token) = allowed lexer) :
    IsBlind fun lexer => do
      if !lexer.inFlow && !lexer.keyAllowed then
        throw (.alone problem lexer.mark)
      let lexer ← (lexer.openBlock lexer.mark.column none opens lexer.mark).dropCandidate
      return (lexer.allowKey (allowed lexer)).pushSign kind 1 := by
  constructor
  · intro lexer waits token
    have noPlace : ∀ number ∈ (none : Option Nat), lexer.taken ≤ number := nofun
    have mark : (lexer.withFront token).mark = lexer.mark := rfl
    have refuses : (!(lexer.withFront token).inFlow && !(lexer.withFront token).keyAllowed) =
        (!lexer.inFlow && !lexer.keyAllowed) := rfl
    dsimp only
    rw [refuses]
    split
    · rfl
    · rw [mark, openBlock_withFront waits noPlace]
      refine dropCandidate_isBlind.front_bind (waits.openBlock _ _ _ _) token fun behind _ => ?_
      rw [same]
      rfl
  · intro lexer after waits found
    refine of_ite_eq_ok found nofun fun found => ?_
    obtain ⟨behind, dropped, same⟩ := exists_of_bind_eq_ok found
    cases same
    exact (dropCandidate_isBlind.keeps (waits.openBlock _ _ _ _) dropped).of_eq rfl rfl

theorem fetchBlockEntry_isBlind : IsBlind fetchBlockEntry :=
  sign_isBlind .blockEntryNotAllowed .blockSequenceStart .blockEntry fun _ _ => rfl

theorem fetchKey_isBlind : IsBlind fetchKey :=
  sign_isBlind .keyNotAllowed .blockMappingStart .key fun _ _ => rfl

theorem Waits.le_number (waits : lexer.Waits) {candidate : KeyCandidate}
    (found : lexer.candidate? = some candidate) : lexer.taken ≤ candidate.number := by
  refine waits.later candidate ?_
  unfold candidate? at found
  cases given : lexer.candidates with
  | nil =>
      rw [given] at found
      cases found
  | cons first rest =>
      rw [given] at found
      cases found
      exact List.mem_cons_self

theorem fetchValue_isBlind : IsBlind fetchValue := by
  constructor
  · intro lexer waits token
    have same : (lexer.withFront token).candidate? = lexer.candidate? := rfl
    unfold fetchValue
    rw [same]
    cases found : lexer.candidate? with
    | some candidate =>
        have number := waits.le_number found
        have inserted : (lexer.insert candidate.number .key candidate.mark).Waits :=
          waits.of_eq rfl rfl
        have place : ∀ number ∈ some candidate.number, lexer.taken ≤ number := by
          rintro other ⟨⟩
          exact number
        dsimp only
        rw [insert_withFront waits number, openBlock_withFront inserted place]
        rfl
    | none =>
        have noPlace : ∀ number ∈ (none : Option Nat), lexer.taken ≤ number := nofun
        have mark : (lexer.withFront token).mark = lexer.mark := rfl
        have refuses : (!(lexer.withFront token).inFlow && !(lexer.withFront token).keyAllowed) =
            (!lexer.inFlow && !lexer.keyAllowed) := rfl
        dsimp only
        rw [refuses]
        split
        · rfl
        · rw [mark, openBlock_withFront waits noPlace]
          rfl
  · intro lexer after waits found
    unfold fetchValue at found
    split at found
    · rename_i candidate present
      cases found
      have inserted : (lexer.insert candidate.number .key candidate.mark).Waits :=
        waits.of_eq rfl rfl
      exact (inserted.openBlock _ _ _ _).setCandidate_none.of_eq rfl rfl
    · refine of_ite_eq_ok found nofun fun same => ?_
      cases same
      exact (waits.openBlock _ _ _ _).of_eq rfl rfl

/-- A token that may become a key is remembered before it is read. -/
theorem saved_isBlind {α : Type} {scan : Lexer → Except SyntaxError α}
    {finish : Lexer → α → Lexer}
    (sameScan : ∀ (lexer : Lexer) (token : Token), scan (lexer.withFront token) = scan lexer)
    (sameFinish : ∀ (lexer : Lexer) (token : Token) (scanned : α),
      finish (lexer.withFront token) scanned = (finish lexer scanned).withFront token)
    (keeps : ∀ {lexer : Lexer}, lexer.Waits → ∀ scanned : α, (finish lexer scanned).Waits) :
    IsBlind fun lexer => do
      let lexer ← lexer.saveCandidate
      let scanned ← scan lexer
      return finish lexer scanned := by
  constructor
  · intro lexer waits token
    refine saveCandidate_isBlind.front_bind waits token fun behind _ => ?_
    rw [sameScan]
    cases scan behind with
    | error fault => rfl
    | ok scanned => exact congrArg Except.ok (sameFinish behind token scanned)
  · intro lexer after waits found
    obtain ⟨behind, saved, found⟩ := exists_of_bind_eq_ok found
    obtain ⟨scanned, -, same⟩ := exists_of_bind_eq_ok found
    cases same
    exact keeps (saveCandidate_isBlind.keeps waits saved) scanned

theorem fetchAnchor_isBlind (context : Context) (kind : List Char → TokenKind) :
    IsBlind (fetchAnchor · context kind) :=
  saved_isBlind (fun _ _ => rfl) (fun _ _ _ => rfl) fun waits _ => waits.of_eq rfl rfl

theorem fetchTag_isBlind : IsBlind fetchTag :=
  saved_isBlind (fun _ _ => rfl) (fun _ _ _ => rfl) fun waits _ => waits.of_eq rfl rfl

theorem fetchQuoted_isBlind (quote : Quoted.Quote) (style : ScalarStyle) :
    IsBlind (fetchQuoted · quote style) :=
  saved_isBlind (fun _ _ => rfl) (fun _ _ _ => rfl) fun waits _ => waits.of_eq rfl rfl

theorem fetchPlain_isBlind : IsBlind fetchPlain :=
  saved_isBlind (fun _ _ => rfl) (fun _ _ _ => rfl) fun waits _ => waits.of_eq rfl rfl

theorem fetchBlockScalar_isBlind (style : ScalarStyle) : IsBlind (fetchBlockScalar · style) := by
  constructor
  · intro lexer waits token
    refine dropCandidate_isBlind.front_bind waits token fun behind _ => ?_
    change Block.scan _ behind.indent behind.cursor >>= _ = Except.map _ (_ >>= _)
    cases Block.scan (style == .folded) behind.indent behind.cursor with
    | error fault => rfl
    | ok scanned => rfl
  · intro lexer after waits found
    obtain ⟨behind, dropped, found⟩ := exists_of_bind_eq_ok found
    obtain ⟨scanned, -, same⟩ := exists_of_bind_eq_ok found
    cases same
    exact (dropCandidate_isBlind.keeps waits dropped).of_eq rfl rfl

theorem prepare_isBlind : IsBlind prepare := by
  constructor
  · intro lexer waits token
    let gap := skipGap lexer.inFlow lexer.cursor.rest lexer.mark lexer.keyAllowed false
    have moved : ((lexer.moveTo gap.1).allowKey gap.2).Waits := waits.of_eq rfl rfl
    refine dropStale_isBlind.front_bind moved token fun behind _ => ?_
    exact congrArg Except.ok (closeBlocks_withFront behind token behind.mark.column)
  · intro lexer after waits found
    obtain ⟨behind, dropped, same⟩ := exists_of_bind_eq_ok found
    cases same
    refine (dropStale_isBlind.keeps ?_ dropped).closeBlocks _
    exact waits.of_eq rfl rfl

theorem IsBlind.ite {condition : Lexer → Bool}
    {yes no : Lexer → Except SyntaxError Lexer}
    (same : ∀ (lexer : Lexer) (token : Token), condition (lexer.withFront token) = condition lexer)
    (onYes : IsBlind yes) (onNo : IsBlind no) :
    IsBlind fun lexer => if condition lexer then yes lexer else no lexer := by
  constructor
  · intro lexer waits token
    rw [same]
    split
    · exact onYes.front waits token
    · exact onNo.front waits token
  · intro lexer after waits found
    exact of_ite_eq_ok found (onYes.keeps waits) (onNo.keeps waits)

theorem fetchFrom_isBlind (c : Char) (rest : List Char) : IsBlind (fetchFrom · c rest) := by
  refine .ite (fun _ _ => rfl) fetchDirective_isBlind ?_
  refine .ite (fun _ _ => rfl) (fetchDocumentMarker_isBlind _) ?_
  refine .ite (fun _ _ => rfl) (fetchDocumentMarker_isBlind _) ?_
  refine .ite (fun _ _ => rfl) (fetchFlowStart_isBlind _) ?_
  refine .ite (fun _ _ => rfl) (fetchFlowStart_isBlind _) ?_
  refine .ite (fun _ _ => rfl) (fetchFlowEnd_isBlind _) ?_
  refine .ite (fun _ _ => rfl) (fetchFlowEnd_isBlind _) ?_
  refine .ite (fun _ _ => rfl) fetchFlowEntry_isBlind ?_
  refine .ite (fun _ _ => rfl) fetchBlockEntry_isBlind ?_
  refine .ite (fun _ _ => rfl) fetchKey_isBlind ?_
  refine .ite (fun _ _ => rfl) fetchValue_isBlind ?_
  refine .ite (fun _ _ => rfl) (fetchAnchor_isBlind _ _) ?_
  refine .ite (fun _ _ => rfl) (fetchAnchor_isBlind _ _) ?_
  refine .ite (fun _ _ => rfl) fetchTag_isBlind ?_
  refine .ite (fun _ _ => rfl) (fetchBlockScalar_isBlind _) ?_
  refine .ite (fun _ _ => rfl) (fetchBlockScalar_isBlind _) ?_
  refine .ite (fun _ _ => rfl) (fetchQuoted_isBlind _ _) ?_
  refine .ite (fun _ _ => rfl) (fetchQuoted_isBlind _ _) ?_
  refine .ite (fun _ _ => rfl) fetchPlain_isBlind ?_
  exact ⟨fun _ _ => rfl, nofun⟩

theorem dispatch_isBlind : IsBlind dispatch := by
  constructor
  · intro lexer waits token
    have same : (lexer.withFront token).cursor.rest = lexer.cursor.rest := rfl
    unfold dispatch
    rw [same]
    split
    · exact fetchStreamEnd_isBlind.front waits token
    · exact (fetchFrom_isBlind _ _).front waits token
  · intro lexer after waits found
    unfold dispatch at found
    split at found
    · exact fetchStreamEnd_isBlind.keeps waits found
    · exact (fetchFrom_isBlind _ _).keeps waits found

/-- Finding a token does not depend on those that have been handed out. -/
theorem fetch_isBlind : IsBlind fetch := by
  constructor
  · intro lexer waits token
    exact prepare_isBlind.front_bind waits token fun _ ready => dispatch_isBlind.front ready token
  · intro lexer after waits found
    obtain ⟨ready, prepared, found⟩ := exists_of_bind_eq_ok found
    exact dispatch_isBlind.keeps (prepare_isBlind.keeps waits prepared) found

end TaggedConfig.Yaml.Lexer
