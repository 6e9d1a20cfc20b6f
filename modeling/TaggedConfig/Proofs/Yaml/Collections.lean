import TaggedConfig.Proofs.Fallible
import TaggedConfig.Yaml.Reading

/-!
# Collections are complete before their document

What is expected, and what is expected later, tells how many collections are open.  Each event
changes this number by at most one, and it is none again only at the end of the document.  So a
document that begins with a collection is that collection, even if it breaks off.
-/

namespace TaggedConfig.Yaml

/-- The number of open collections that an expectation is about; a single pair is in a sequence. -/
def Expectation.level : Expectation → Nat
  | .streamStart | .firstDocument | .document | .documentContent | .documentEnd | .blockNode
  | .nothing => 0
  | .pairKey | .pairValue | .pairEnd => 2
  | _ => 1

namespace Grammar

/-- Expectations, the next one first, inside so many open collections of a document. -/
inductive Awaits : List Expectation → Nat → Prop
  | document : Awaits [.documentEnd] 0
  | inner {expected : Expectation} {returns : List Expectation} {depth : Nat}
      (inside : 0 < expected.level) (later : Awaits returns depth) :
      Awaits (expected :: returns) (expected.level + depth)

def Inside (grammar : Grammar) (depth : Nat) : Prop :=
  Awaits (grammar.expected :: grammar.returns) depth

/-- An event changes the number of open collections. -/
inductive Turns : Event → Nat → Nat → Prop
  | alias (name : List Char) (depth : Nat) : Turns (.alias name) depth depth
  | scalar (properties : Properties) (text : List Char) (style : ScalarStyle) (depth : Nat) :
      Turns (.scalar properties text style) depth depth
  | sequenceStart (properties : Properties) (depth : Nat) :
      Turns (.sequenceStart properties) depth (depth + 1)
  | sequenceEnd (depth : Nat) : Turns .sequenceEnd (depth + 1) depth
  | mappingStart (properties : Properties) (depth : Nat) :
      Turns (.mappingStart properties) depth (depth + 1)
  | mappingEnd (depth : Nat) : Turns .mappingEnd (depth + 1) depth

/-- An event leads from so many open collections to the number that is expected behind it. -/
def StepTurns (depth : Nat) (next : PlacedEvent × Grammar) : Prop :=
  ∃ after, Turns next.1.event depth after ∧ next.2.Inside after

variable {grammar further : Grammar} {next : PlacedEvent × Grammar} {token : Token} {depth : Nat}

namespace Awaits

theorem skip (awaits : Awaits grammar.returns depth) : Awaits grammar.skip.returns depth :=
  awaits

theorem expect (awaits : Awaits grammar.returns depth) {expected : Expectation}
    (inside : 0 < expected.level) : (grammar.expect expected).Inside (expected.level + depth) :=
  .inner inside awaits

theorem thenExpect (awaits : Awaits grammar.returns depth) {expected : Expectation}
    (inside : 0 < expected.level) :
    Awaits (grammar.thenExpect expected).returns (expected.level + depth) :=
  .inner inside awaits

/-- Behind a complete node, what was put aside is expected. -/
theorem return? (awaits : Awaits grammar.returns depth) : grammar.return?.Inside depth := by
  unfold Inside Grammar.return?
  cases later : grammar.returns with
  | nil =>
      rw [later] at awaits
      cases awaits
  | cons expected returns =>
      rw [later] at awaits
      exact awaits

/-- A node that is left out is an empty scalar. -/
theorem leaveOut (inside : grammar.Inside depth) (mark : Mark) :
    StepTurns depth (grammar.leaveOut mark) :=
  ⟨depth, .scalar .none [] .plain depth, inside⟩

theorem returns_of_takeAnchor {anchor : Option (List Char)}
    (taken : grammar.takeAnchor = .ok (anchor, further)) : further.returns = grammar.returns := by
  obtain ⟨token, peeked, found⟩ := exists_of_bind_eq_ok taken
  split at found <;> cases found <;> rfl

theorem returns_of_takeTag {tag : Option (Token × List Char × List UInt8)}
    (taken : grammar.takeTag = .ok (tag, further)) : further.returns = grammar.returns := by
  obtain ⟨token, peeked, found⟩ := exists_of_bind_eq_ok taken
  split at found <;> cases found <;> rfl

/-- The properties of a node change nothing about what is expected later. -/
theorem returns_of_takeHead {head : NodeHead} (taken : grammar.takeHead = .ok (head, further)) :
    further.returns = grammar.returns := by
  obtain ⟨token, peeked, found⟩ := exists_of_bind_eq_ok taken
  obtain ⟨⟨anchor, afterAnchor⟩, anchored, found⟩ := exists_of_bind_eq_ok found
  obtain ⟨⟨tag, afterTag⟩, tagged, found⟩ := exists_of_bind_eq_ok found
  have kept := (returns_of_takeTag tagged).trans (returns_of_takeAnchor anchored)
  refine of_ite_eq_ok found (fun same => ?_) fun found => ?_
  · cases same
    exact kept
  · obtain ⟨⟨second, afterSecond⟩, anchoredAgain, same⟩ := exists_of_bind_eq_ok found
    cases same
    exact (returns_of_takeAnchor anchoredAgain).trans kept

theorem otherwise (awaits : Awaits grammar.returns depth) {inBlock : Bool} {head : NodeHead}
    {properties : Properties}
    (done : node.otherwise inBlock grammar head properties token = .ok next) :
    StepTurns depth next := by
  refine of_ite_eq_ok done (fun same => ?_) nofun
  cases same
  exact ⟨depth, .scalar _ _ _ depth, awaits.return?⟩

/-- A node is complete at once, or it opens a collection. -/
theorem node (awaits : Awaits grammar.returns depth) {inBlock indentless : Bool}
    (done : grammar.node inBlock indentless = .ok next) : StepTurns depth next := by
  obtain ⟨first, peeked, found⟩ := exists_of_bind_eq_ok done
  dsimp only at found
  split at found
  · cases found
    exact ⟨depth, .alias _ depth, awaits.skip.return?⟩
  · obtain ⟨⟨head, headless⟩, taken, found⟩ := exists_of_bind_eq_ok found
    obtain ⟨properties, -, found⟩ := exists_of_bind_eq_ok found
    obtain ⟨token, peeked, found⟩ := exists_of_bind_eq_ok found
    have kept : Awaits headless.returns depth := by
      rw [returns_of_takeHead taken]
      exact awaits
    have opens (event : Event) (turns : Turns event depth (depth + 1)) {expected : Expectation}
        (one : expected.level = 1)
        (same : (.ok (⟨event, head.mark⟩, headless.expect expected) : Except Stop _) = .ok next) :
        StepTurns depth next := by
      cases same
      refine ⟨depth + 1, turns, ?_⟩
      have inner : Awaits (expected :: headless.returns) (expected.level + depth) :=
        .inner (by omega) kept
      rw [one, Nat.add_comm] at inner
      exact inner
    dsimp only at found
    split at found
    · exact of_ite_eq_ok found (opens _ (.sequenceStart properties depth) rfl) kept.otherwise
    · cases found
      exact ⟨depth, .scalar _ _ _ depth, kept.skip.return?⟩
    · exact opens _ (.sequenceStart properties depth) rfl found
    · exact opens _ (.mappingStart properties depth) rfl found
    · exact opens _ (.sequenceStart properties depth) rfl found
    · exact opens _ (.mappingStart properties depth) rfl found
    · exact kept.otherwise found

/-- Inside a collection a node is followed by what was put aside for it. -/
theorem nodeThen (awaits : Awaits grammar.returns depth) {expected : Expectation}
    (inside : 0 < expected.level) {inBlock indentless : Bool}
    (done : (grammar.thenExpect expected).node inBlock indentless = .ok next) :
    StepTurns (expected.level + depth) next :=
  node (awaits.thenExpect inside) done

theorem nodeUnless (awaits : Awaits grammar.returns depth) {closers : List TokenKind}
    {inBlock indentless : Bool} {expected : Expectation} (inside : 0 < expected.level)
    {omitted : Mark}
    (done : grammar.nodeUnless closers inBlock indentless expected omitted = .ok next) :
    StepTurns (expected.level + depth) next := by
  obtain ⟨first, peeked, found⟩ := exists_of_bind_eq_ok done
  refine of_ite_eq_ok found (fun same => ?_) (nodeThen awaits inside)
  cases same
  exact leaveOut (awaits.expect inside) omitted

/-- What closes a collection leads back to what was expected behind it. -/
theorem close (awaits : Awaits grammar.returns depth) {event : Event}
    (turns : Turns event (1 + depth) depth) (token : Token) :
    StepTurns (1 + depth) (grammar.close event token) :=
  ⟨depth, turns, awaits.skip.return?⟩

theorem turns_sequenceEnd (depth : Nat) : Turns .sequenceEnd (1 + depth) depth := by
  rw [Nat.add_comm]
  exact .sequenceEnd depth

theorem turns_mappingEnd (depth : Nat) : Turns .mappingEnd (1 + depth) depth := by
  rw [Nat.add_comm]
  exact .mappingEnd depth

theorem blockSequenceEntry (awaits : Awaits grammar.returns depth)
    (done : grammar.blockSequenceEntry = .ok next) : StepTurns (1 + depth) next := by
  obtain ⟨token, peeked, found⟩ := exists_of_bind_eq_ok done
  split at found
  · exact nodeUnless awaits.skip (by decide) found
  · cases found
    exact close awaits (turns_sequenceEnd depth) token
  · cases found

theorem indentlessEntry (awaits : Awaits grammar.returns depth)
    (done : grammar.indentlessEntry = .ok next) : StepTurns (1 + depth) next := by
  obtain ⟨token, peeked, found⟩ := exists_of_bind_eq_ok done
  split at found
  · exact nodeUnless awaits.skip (by decide) found
  · cases found
    exact ⟨depth, turns_sequenceEnd depth, awaits.return?⟩

theorem blockMappingKey (awaits : Awaits grammar.returns depth)
    (done : grammar.blockMappingKey = .ok next) : StepTurns (1 + depth) next := by
  obtain ⟨token, peeked, found⟩ := exists_of_bind_eq_ok done
  split at found
  · exact nodeUnless awaits.skip (by decide) found
  · cases found
    exact close awaits (turns_mappingEnd depth) token
  · cases found

theorem blockMappingValue (awaits : Awaits grammar.returns depth)
    (done : grammar.blockMappingValue = .ok next) : StepTurns (1 + depth) next := by
  obtain ⟨token, peeked, found⟩ := exists_of_bind_eq_ok done
  split at found
  · exact nodeUnless awaits.skip (by decide) found
  · cases found
    exact leaveOut (awaits.expect (by decide)) token.start

theorem returns_of_separator {isFirst : Bool} {closer : TokenKind} {context : Context}
    {problem : Problem} (done : grammar.separator isFirst closer context problem = .ok further) :
    further.returns = grammar.returns := by
  obtain ⟨token, peeked, found⟩ := exists_of_bind_eq_ok done
  refine of_ite_eq_ok found (fun same => by cases same; rfl) fun found => ?_
  exact of_ite_eq_ok found (fun same => by cases same; rfl) nofun

theorem flowSequenceEntry (awaits : Awaits grammar.returns depth) {isFirst : Bool}
    (done : grammar.flowSequenceEntry isFirst = .ok next) : StepTurns (1 + depth) next := by
  obtain ⟨separated, read, found⟩ := exists_of_bind_eq_ok done
  obtain ⟨token, peeked, found⟩ := exists_of_bind_eq_ok found
  have kept : Awaits separated.returns depth := by
    rw [returns_of_separator read]
    exact awaits
  split at found
  · cases found
    refine ⟨2 + depth, ?_, kept.skip.expect (by decide)⟩
    rw [show 2 + depth = 1 + depth + 1 by omega]
    exact .mappingStart .none (1 + depth)
  · cases found
    exact close kept (turns_sequenceEnd depth) token
  · exact nodeThen kept (by decide) found

theorem pairKey (awaits : Awaits grammar.returns depth) (done : grammar.pairKey = .ok next) :
    StepTurns (2 + depth) next := by
  obtain ⟨token, peeked, found⟩ := exists_of_bind_eq_ok done
  have omitted (same : Except.ok ((grammar.skip.expect .pairValue).leaveOut token.stop) =
      (Except.ok next : Except Stop _)) : StepTurns (2 + depth) next := by
    cases same
    exact leaveOut (awaits.skip.expect (by decide)) token.stop
  split at found
  · exact omitted found
  · exact omitted found
  · exact omitted found
  · exact nodeThen awaits (by decide) found

theorem pairValue (awaits : Awaits grammar.returns depth) (done : grammar.pairValue = .ok next) :
    StepTurns (2 + depth) next := by
  obtain ⟨token, peeked, found⟩ := exists_of_bind_eq_ok done
  split at found
  · obtain ⟨following, peeked, found⟩ := exists_of_bind_eq_ok found
    exact nodeUnless awaits.skip (by decide) found
  · cases found
    exact leaveOut (awaits.expect (by decide)) token.start

theorem pairEnd (awaits : Awaits grammar.returns depth) (done : grammar.pairEnd = .ok next) :
    StepTurns (2 + depth) next := by
  obtain ⟨token, peeked, same⟩ := exists_of_bind_eq_ok done
  cases same
  refine ⟨1 + depth, ?_, awaits.expect (by decide)⟩
  rw [show 2 + depth = 1 + depth + 1 by omega]
  exact .mappingEnd (1 + depth)

theorem flowMappingKey (awaits : Awaits grammar.returns depth) {isFirst : Bool}
    (done : grammar.flowMappingKey isFirst = .ok next) : StepTurns (1 + depth) next := by
  obtain ⟨separated, read, found⟩ := exists_of_bind_eq_ok done
  obtain ⟨token, peeked, found⟩ := exists_of_bind_eq_ok found
  have kept : Awaits separated.returns depth := by
    rw [returns_of_separator read]
    exact awaits
  split at found
  · obtain ⟨following, peeked, found⟩ := exists_of_bind_eq_ok found
    exact nodeUnless kept.skip (by decide) found
  · cases found
    exact close kept (turns_mappingEnd depth) token
  · exact nodeThen kept (by decide) found

theorem flowMappingValue (awaits : Awaits grammar.returns depth)
    (done : grammar.flowMappingValue = .ok next) : StepTurns (1 + depth) next := by
  obtain ⟨token, peeked, found⟩ := exists_of_bind_eq_ok done
  split at found
  · obtain ⟨following, peeked, found⟩ := exists_of_bind_eq_ok found
    exact nodeUnless awaits.skip (by decide) found
  · cases found
    exact leaveOut (awaits.expect (by decide)) token.start

theorem returns_of_enterCollection (done : grammar.enterCollection = .ok further) :
    further.returns = grammar.returns := by
  obtain ⟨token, peeked, same⟩ := exists_of_bind_eq_ok done
  cases same
  rfl

end Awaits

/-- Inside a collection every event counts. -/
theorem Inside.step (inside : grammar.Inside depth) (some : 0 < depth)
    (done : grammar.step = .ok next) : StepTurns depth next := by
  unfold Inside at inside
  generalize expects : grammar.expected :: grammar.returns = expectations at inside
  cases inside with
  | document => omega
  | @inner expected returns outer level awaits =>
      obtain ⟨same, rfl⟩ := List.cons.inj expects
      have entered {behind : Grammar} (read : grammar.enterCollection = .ok behind) :
          Awaits behind.returns outer := by
        rw [Awaits.returns_of_enterCollection read]
        exact awaits
      unfold Grammar.step at done
      rw [same] at done
      cases expected with
      | streamStart => cases level
      | firstDocument => cases level
      | document => cases level
      | documentContent => cases level
      | documentEnd => cases level
      | blockNode => cases level
      | nothing => cases level
      | blockSequenceFirst =>
          obtain ⟨behind, read, done⟩ := exists_of_bind_eq_ok done
          exact (entered read).blockSequenceEntry done
      | blockSequenceEntry => exact awaits.blockSequenceEntry done
      | indentlessEntry => exact awaits.indentlessEntry done
      | blockMappingFirst =>
          obtain ⟨behind, read, done⟩ := exists_of_bind_eq_ok done
          exact (entered read).blockMappingKey done
      | blockMappingKey => exact awaits.blockMappingKey done
      | blockMappingValue => exact awaits.blockMappingValue done
      | flowSequenceFirst =>
          obtain ⟨behind, read, done⟩ := exists_of_bind_eq_ok done
          exact (entered read).flowSequenceEntry done
      | flowSequenceEntry => exact awaits.flowSequenceEntry done
      | pairKey => exact awaits.pairKey done
      | pairValue => exact awaits.pairValue done
      | pairEnd => exact awaits.pairEnd done
      | flowMappingFirst =>
          obtain ⟨behind, read, done⟩ := exists_of_bind_eq_ok done
          exact (entered read).flowMappingKey done
      | flowMappingKey => exact awaits.flowMappingKey done
      | flowMappingValue => exact awaits.flowMappingValue done
      | flowMappingNoValue =>
          obtain ⟨token, peeked, same⟩ := exists_of_bind_eq_ok done
          cases same
          exact Awaits.leaveOut (awaits.expect (by decide)) token.start

theorem Inside.eq_documentEnd (inside : grammar.Inside 0) : grammar.expected = .documentEnd := by
  unfold Inside at inside
  generalize expects : grammar.expected :: grammar.returns = expectations at inside
  generalize none : 0 = depth at inside
  cases inside with
  | document => exact (List.cons.inj expects).1
  | inner level later => omega

theorem Inside.documentEnd_of_step (inside : grammar.Inside 0) {next : PlacedEvent × Grammar}
    (done : grammar.step = .ok next) : grammar.documentEnd = .ok next := by
  unfold Grammar.step at done
  rwa [inside.eq_documentEnd] at done

theorem Inside.event_eq (inside : grammar.Inside 0) {next : PlacedEvent × Grammar}
    (done : grammar.step = .ok next) : next.1.event = .documentEnd := by
  obtain ⟨token, peeked, same⟩ := exists_of_bind_eq_ok (inside.documentEnd_of_step done)
  cases same
  rfl

end Grammar

namespace Tree

def isCollection : Tree → Bool
  | .sequence .. | .mapping .. => true
  | _ => false

def HasCollection (root : Option Tree) : Prop := ∃ tree, root = some tree ∧ tree.isCollection = true

namespace Building

structure Holds (building : Building) (depth : Nat) : Prop where
  opened : building.stack.length = depth
  closed : depth = 0 → HasCollection building.root

variable {building : Building} {depth : Nat}

theorem Holds.add (holds : building.Holds (depth + 1)) (tree : Tree) :
    (building.add tree).Holds (depth + 1) := by
  unfold Building.add
  cases stack : building.stack with
  | nil =>
      have opened := holds.opened
      rw [stack] at opened
      cases opened
  | cons top rest =>
      refine ⟨?_, nofun⟩
      have opened := holds.opened
      rw [stack] at opened
      exact opened

theorem Holds.count (holds : building.Holds depth) : building.count.Holds depth :=
  ⟨holds.opened, holds.closed⟩

theorem Holds.anchor (holds : building.Holds depth) (name : Option (List Char)) :
    (building.anchor name).2.Holds depth := by
  cases name with
  | none => exact holds
  | some name => exact ⟨holds.opened, holds.closed⟩

theorem Holds.begin (opened : building.stack.length = depth) (isMapping : Bool)
    (properties : Properties) (mark : Mark) :
    (building.begin isMapping properties mark).Holds (depth + 1) := by
  refine ⟨?_, nofun⟩
  unfold Building.begin Building.anchor
  cases properties.anchor with
  | none => exact congrArg (· + 1) opened
  | some name => exact congrArg (· + 1) opened

theorem isCollection_close (collection : Open) (closed : Bool) :
    (collection.close closed).isCollection = true := by
  unfold Open.close
  dsimp only
  split
  · rfl
  · rfl

theorem Holds.finish (holds : building.Holds (depth + 1)) (closed : Bool) :
    (building.finish closed).Holds depth := by
  unfold Building.finish
  cases stack : building.stack with
  | nil =>
      have opened := holds.opened
      rw [stack] at opened
      cases opened
  | cons top rest =>
      have opened := holds.opened
      rw [stack] at opened
      have left : rest.length = depth := Nat.succ.inj opened
      cases rest with
      | nil =>
          refine ⟨left, fun _ => ⟨_, rfl, isCollection_close top closed⟩⟩
      | cons next rest =>
          refine ⟨left, ?_⟩
          rintro rfl
          cases left

/-- A document that breaks off is the outermost of its open collections. -/
theorem Holds.breakOff (holds : building.Holds depth) : HasCollection building.breakOff.root := by
  have closes (opens : List Open) (building : Building) (holds : building.Holds opens.length) :
      HasCollection (opens.foldl (fun building _ => building.finish false) building).root := by
    induction opens generalizing building with
    | nil => exact holds.closed rfl
    | cons top rest ih => exact ih _ (holds.finish false)
  refine closes building.stack building ⟨rfl, ?_⟩
  rw [holds.opened]
  exact holds.closed

end Building

variable {building : Building} {grammar : Grammar} {depth : Nat}

theorem build_isCollection (inside : grammar.Inside depth) (holds : building.Holds depth)
    (fault : Option SyntaxError) (fuel : Nat) :
    HasCollection (build fault (grammar.eventsFrom fuel).1 building).root := by
  induction fuel generalizing grammar building depth with
  | zero => exact holds.breakOff
  | succ fuel ih =>
      unfold Grammar.eventsFrom
      cases stepped : grammar.step with
      | error stop => exact holds.breakOff
      | ok next =>
          obtain ⟨⟨event, mark⟩, behind⟩ := next
          dsimp only
          cases depth with
          | zero =>
              obtain rfl : event = .documentEnd := inside.event_eq stepped
              exact holds.breakOff
          | succ depth =>
              obtain ⟨after, turns, inside⟩ := inside.step (Nat.succ_pos depth) stepped
              dsimp only at turns inside
              cases turns with
              | «alias» name =>
                  unfold build
                  dsimp only
                  split
                  · exact ih inside (holds.count.add _)
                  · exact holds.breakOff
              | scalar properties text style =>
                  exact ih inside ((holds.count.anchor properties.anchor).add _)
              | sequenceStart properties =>
                  exact ih inside (Building.Holds.begin holds.count.opened false properties mark)
              | mappingStart properties =>
                  exact ih inside (Building.Holds.begin holds.count.opened true properties mark)
              | sequenceEnd =>
                  exact ih inside (holds.count.finish true)
              | mappingEnd =>
                  exact ih inside (holds.count.finish true)

end Tree

end TaggedConfig.Yaml
