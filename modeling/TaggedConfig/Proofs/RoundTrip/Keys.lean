import TaggedConfig.Proofs.RoundTrip.Leads
import TaggedConfig.Proofs.RoundTrip.Written

/-!
# Keys in front of their colon

A scalar is known to be a key once its colon is read; the tokens that say so then go in front of it.
-/

namespace TaggedConfig.Yaml

open Writing

namespace Lexer

variable {lexer : Lexer} {scene : Scene} {tail written : List Char} {kind : TokenKind}

def pushKey (lexer : Lexer) (kind : TokenKind) (written tail : List Char) : Lexer :=
  (lexer.setCandidate lexer.candidateHere?).pushScalar false kind
    ⟨':' :: tail, lexer.mark.past written⟩

theorem Stands.candidates_pushKey (stands : lexer.Stands scene) :
    (lexer.pushKey kind written tail).candidates = [lexer.candidateHere?] := by
  change lexer.candidateHere? :: lexer.candidates.drop 1 = _
  rw [stands.candidates]
  rfl

theorem Stands.prepare_pushKey (stands : lexer.Stands scene) (inside : scene.indent ≤ scene.column)
    (unbroken : ∀ c ∈ written, isBreak c = false) (short : Mark.bytes written ≤ keyReach)
    (kind : TokenKind) (tail : List Char) :
    (lexer.pushKey kind written tail).prepare = .ok (lexer.pushKey kind written tail) := by
  have place : (lexer.pushKey kind written tail).mark =
      ⟨lexer.mark.index + Mark.bytes written, lexer.mark.line,
        lexer.mark.column + written.length⟩ := Mark.past_unbroken unbroken
  have kept : (lexer.pushKey kind written tail).keepCandidate lexer.candidateHere? =
      .ok lexer.candidateHere? := by
    refine keepCandidate_here ?_ ?_
    · rw [place]
    · rw [place]
      exact Nat.add_le_add_left short _
  have colon : StartsToken (lexer.pushKey kind written tail).cursor.rest := by
    rintro c ⟨⟩
    decide
  refine prepare_of_token colon ?_ (.inr ?_)
  · rw [stands.candidates_pushKey, List.mapM_cons, kept]
    rfl
  · have column := stands.column
    have indent : (lexer.pushKey kind written tail).indent = scene.indent := stands.indent
    rw [place, indent]
    dsimp only
    omega

theorem queue_insert {before others : List Token} (queue : lexer.queue = before ++ others)
    (taken : lexer.taken = 0) (kind : TokenKind) (mark : Mark) :
    (lexer.insert before.length kind mark).queue = before ++ ⟨kind, mark, mark⟩ :: others := by
  change lexer.queue.take (before.length - lexer.taken) ++
    _ :: lexer.queue.drop (before.length - lexer.taken) = _
  rw [taken, queue, Nat.sub_zero, List.take_left, List.drop_left]

theorem openBlock_of_le {column : Nat} (here : (column : Int) ≤ lexer.indent) (place : Option Nat)
    (kind : TokenKind) (mark : Mark) : lexer.openBlock column place kind mark = lexer := by
  unfold openBlock
  rw [decide_eq_true here, Bool.or_true, if_pos rfl]

theorem openBlock_of_lt {column number : Nat} (block : lexer.inFlow = false)
    (deeper : lexer.indent < column) (kind : TokenKind) (mark : Mark) :
    lexer.openBlock column (some number) kind mark =
      { lexer with indent := column, outerIndents := lexer.indent :: lexer.outerIndents }.insert
        number kind mark := by
  unfold openBlock
  rw [block, decide_eq_false deeper.not_ge, Bool.or_false, if_neg Bool.false_ne_true]

/-- The key token goes in front of the scalar, and the start of a mapping in front of both. -/
theorem Stands.openBlock_pushKey (stands : lexer.Stands scene)
    (unbroken : ∀ c ∈ written, isBreak c = false) (kind : TokenKind) (tail : List Char) :
    ((((lexer.pushKey kind written tail).insert lexer.queue.length .key lexer.mark).openBlock
        lexer.mark.column (some lexer.queue.length) .blockMappingStart lexer.mark).setCandidate
          none).Stands
      ((scene.opened .blockMappingStart).behind (':' :: tail) (scene.column + written.length) false
        [.key, kind]) := by
  have column : (lexer.pushKey kind written tail).mark.column = scene.column + written.length := by
    rw [← stands.column]
    exact congrArg Mark.column (Mark.past_unbroken unbroken)
  let inserted := (lexer.pushKey kind written tail).insert lexer.queue.length .key lexer.mark
  have queue : inserted.queue = lexer.queue ++ [_, _] :=
    queue_insert (rfl : (lexer.pushKey kind written tail).queue = lexer.queue ++ [_]) stands.taken .key
      lexer.mark
  have candidates := congrArg (fun level => none :: level.drop 1) stands.candidates
  unfold Scene.opened
  by_cases here : (scene.column : Int) ≤ scene.indent
  · have inside : (lexer.mark.column : Int) ≤ inserted.indent := by
      rw [stands.column]
      exact here.trans_eq stands.indent.symm
    rw [openBlock_of_le inside, if_pos here]
    constructor
    · rfl
    · exact column
    · exact stands.indent
    · exact stands.outer
    · rfl
    · exact candidates
    · change inserted.queue.map Token.kind = _
      rw [queue, List.map_append, stands.kinds]
      rfl
    · exact stands.taken
  · have deeper : inserted.indent < lexer.mark.column := by
      rw [stands.column]
      exact stands.indent.trans_lt (lt_of_not_ge here)
    have block : inserted.inFlow = false := by
      unfold inFlow
      change decide (1 < (lexer.pushKey kind written tail).candidates.length) = false
      rw [stands.candidates_pushKey]
      rfl
    let opened : Lexer :=
      { inserted with indent := lexer.mark.column, outerIndents := inserted.indent :: inserted.outerIndents }
    have whole : (opened.insert lexer.queue.length .blockMappingStart lexer.mark).queue =
        lexer.queue ++ [_, _, _] := queue_insert queue stands.taken _ _
    rw [openBlock_of_lt block deeper, if_neg here]
    constructor
    · rfl
    · exact column
    · exact congrArg Nat.cast stands.column
    · exact congrArg₂ List.cons stands.indent stands.outer
    · rfl
    · exact candidates
    · change (opened.insert lexer.queue.length .blockMappingStart lexer.mark).queue.map Token.kind = _
      rw [whole, List.map_append, stands.kinds]
      exact (List.append_assoc scene.kinds [_] [_, _]).symm
    · exact stands.taken

theorem Stands.fetchValue_pushKey (stands : lexer.Stands scene) (allowed : scene.keyAllowed = true)
    (unbroken : ∀ c ∈ written, isBreak c = false) (kind : TokenKind) (tail : List Char) :
    ∃ behind : Lexer, (lexer.pushKey kind written tail).fetchValue = .ok behind ∧
      behind.Stands ((scene.opened .blockMappingStart).behind tail
        (scene.column + written.length + 1) false [.key, kind, .value]) := by
  have here : lexer.candidateHere? =
      some ⟨lexer.indent == (lexer.mark.column : Int), lexer.queue.length, lexer.mark⟩ := by
    unfold candidateHere?
    rw [stands.keyAllowed, if_pos allowed]
  have candidate : (lexer.pushKey kind written tail).candidate? =
      some ⟨lexer.indent == (lexer.mark.column : Int), lexer.queue.length, lexer.mark⟩ := by
    unfold candidate?
    rw [stands.candidates_pushKey, here]
    rfl
  unfold fetchValue
  rw [candidate]
  have opened := (stands.openBlock_pushKey unbroken kind tail).pushSign rfl false .value
  rw [Scene.behind_behind] at opened
  exact ⟨_, rfl, opened⟩

/-- The gap behind the colon of a key is a line break and the indentation of the next line. -/
theorem Stands.skip_line (stands : lexer.Stands scene) {rest : List Char} {depth : Nat}
    (text : scene.text = '\n' :: (indentation depth ++ rest)) (starts : StartsToken rest) :
    lexer.atToken.Finishes (scene.behind rest depth true []) := by
  have gap : skipGap false lexer.cursor.rest lexer.mark lexer.keyAllowed false =
      (⟨rest, lexer.mark.past ('\n' :: indentation depth)⟩, true) := by
    rw [stands.text, text]
    exact skipGap_line starts depth
  exact finishes_of_gap stands.candidates nofun gap (Mark.column_past_line _ [] rfl depth)
    stands.indent stands.outer (stands.kinds.trans (List.append_nil _).symm) stands.taken

end Lexer

namespace Scene

variable {scene : Scene} {text rest : List Char} {style : ScalarStyle} {indent depth : Nat}

structure IsShortKey (style : ScalarStyle) (text : List Char) : Prop where
  oneLine : style ≠ .literal
  allows : Allows style text
  unbroken : ∀ c ∈ text, isBreak c = false
  short : Mark.bytes text ≤ 128

theorem IsShortKey.styled_ne_nil (key : IsShortKey style text) (indent : Nat) :
    styled style indent text ≠ [] := by
  obtain ⟨oneLine, allows, -, -⟩ := key
  cases style with
  | plain => exact allows.2
  | singleQuoted => exact nofun
  | doubleQuoted => exact nofun
  | literal => contradiction
  | folded => cases allows

theorem leads_key {tail : List Char} (key : IsShortKey style text) (deep : 0 < indent)
    (allowed : scene.keyAllowed = true) (inside : scene.indent ≤ scene.column)
    (written : scene.text = styled style indent text ++ ':' :: tail)
    (gap : startsWithGap tail = true) (shorter : rest.length < tail.length)
    {column : Nat} (deeper : scene.column ≤ column) {keyAllowed : Bool}
    (finishes : ∀ behind : Lexer, behind.Stands ((scene.opened .blockMappingStart).behind tail
      (scene.column + (styled style indent text).length + 1) false
        [.key, .scalar text style, .value]) →
      behind.atToken.Finishes ((scene.opened .blockMappingStart).behind rest column keyAllowed
        [.key, .scalar text style, .value])) :
    scene.Leads ((scene.opened .blockMappingStart).behind rest column keyAllowed
      [.key, .scalar text style, .value]) := by
  obtain ⟨unbroken, short⟩ : (∀ d ∈ styled style indent text, isBreak d = false) ∧
      Mark.bytes (styled style indent text) ≤ 6 * Mark.bytes text + 2 :=
    styled_of_unbroken key.oneLine key.unbroken
  have near := key.short
  have reach : Mark.bytes (styled style indent text) ≤ Lexer.keyReach := by
    unfold Lexer.keyReach
    omega
  rw [← closed_behind_opened inside deeper]
  refine .of_run 1 (weight_behind_opened ?_) fun lexer stands => ?_
  · have some := List.length_pos_iff.mpr (key.styled_ne_nil indent)
    simp only [written, List.length_append, List.length_cons, List.length_nil]
    omega
  · obtain ⟨behind, valued, stops⟩ :=
      stands.fetchValue_pushKey allowed unbroken (.scalar text style) tail
    have read := stands.read_key inside key.oneLine key.allows deep written gap
    have prepared := stands.prepare_pushKey inside unbroken reach (.scalar text style) tail
    refine ⟨_, behind, .step read prepared (.none _), ?_, finishes behind stops⟩
    rw [Lexer.dispatch_colon rfl gap]
    exact valued

theorem leads_key_space (key : IsShortKey style text) (deep : 0 < indent)
    (allowed : scene.keyAllowed = true) (inside : scene.indent ≤ scene.column)
    (written : scene.text = styled style indent text ++ ':' :: ' ' :: rest)
    (starts : StartsToken rest) :
    scene.Leads ((scene.opened .blockMappingStart).behind rest
      (scene.column + (styled style indent text).length + 2) false
        [.key, .scalar text style, .value]) := by
  refine leads_key key deep allowed inside written rfl (Nat.lt_succ_self _) (by omega)
    fun behind stands => ?_
  have gap := stands.skip_space rfl starts
  rwa [behind_behind] at gap

theorem leads_key_line (key : IsShortKey style text) (deep : 0 < indent)
    (allowed : scene.keyAllowed = true) (inside : scene.indent ≤ scene.column)
    (written : scene.text = styled style indent text ++ ':' :: '\n' :: (indentation depth ++ rest))
    (starts : StartsToken rest) (deeper : scene.column ≤ depth) :
    scene.Leads ((scene.opened .blockMappingStart).behind rest depth true
      [.key, .scalar text style, .value]) := by
  have shorter : rest.length < ('\n' :: (indentation depth ++ rest)).length := by
    rw [List.length_cons, List.length_append]
    omega
  refine leads_key key deep allowed inside written rfl shorter deeper fun behind stands => ?_
  have gap := stands.skip_line rfl starts
  rwa [behind_behind] at gap

end Scene

end TaggedConfig.Yaml
