import TaggedConfig.Proofs.Yaml.TokenLength
import TaggedConfig.Yaml.Event.Grammar

/-!
# The length of scalars in events

An event takes the text of a scalar from a token, or stands for a node that was left out and is empty.
So no scalar among the events of a text is longer than the text.
-/

namespace TaggedConfig.Yaml

def Event.Within (size : Nat) : Event → Prop
  | .scalar _ text _ => text.length ≤ size
  | _ => True

namespace Grammar

def Within (size : Nat) (grammar : Grammar) : Prop :=
  ∀ token ∈ grammar.tokens, token.kind.Within size

/-- Neither the scalar of an event nor those that are left are longer than this. -/
def StepWithin (size : Nat) (next : PlacedEvent × Grammar) : Prop :=
  next.1.event.Within size ∧ next.2.Within size

variable {size : Nat} {grammar further : Grammar} {next : PlacedEvent × Grammar} {token : Token}

namespace Within

theorem peek (within : grammar.Within size) (found : grammar.peek = .ok token) :
    token.kind.Within size := by
  unfold Grammar.peek at found
  split at found
  · rename_i first rest same
    cases found
    exact within _ (by simp [same])
  · cases found

theorem skip (within : grammar.Within size) : grammar.skip.Within size :=
  fun token found => within token (List.mem_of_mem_drop found)

theorem expect (within : grammar.Within size) (expected : Expectation) :
    (grammar.expect expected).Within size :=
  within

theorem thenExpect (within : grammar.Within size) (expected : Expectation) :
    (grammar.thenExpect expected).Within size :=
  within

theorem leaveOut (within : grammar.Within size) (mark : Mark) :
    StepWithin size (grammar.leaveOut mark) :=
  ⟨Nat.zero_le size, within⟩

theorem takeAnchor (within : grammar.Within size) {anchor : Option (List Char)}
    (taken : grammar.takeAnchor = .ok (anchor, further)) : further.Within size := by
  obtain ⟨token, peeked, found⟩ := exists_of_bind_eq_ok taken
  split at found <;> cases found
  · exact within.skip
  · exact within

theorem takeTag (within : grammar.Within size) {tag : Option (Token × List Char × List UInt8)}
    (taken : grammar.takeTag = .ok (tag, further)) : further.Within size := by
  obtain ⟨token, peeked, found⟩ := exists_of_bind_eq_ok taken
  split at found <;> cases found
  · exact within.skip
  · exact within

theorem takeHead (within : grammar.Within size) {head : NodeHead}
    (taken : grammar.takeHead = .ok (head, further)) : further.Within size := by
  obtain ⟨token, peeked, found⟩ := exists_of_bind_eq_ok taken
  obtain ⟨⟨anchor, afterAnchor⟩, anchored, found⟩ := exists_of_bind_eq_ok found
  obtain ⟨⟨tag, afterTag⟩, tagged, found⟩ := exists_of_bind_eq_ok found
  have kept := (within.takeAnchor anchored).takeTag tagged
  refine of_ite_eq_ok found (fun same => ?_) fun found => ?_
  · cases same
    exact kept
  · obtain ⟨⟨second, afterSecond⟩, anchoredAgain, same⟩ := exists_of_bind_eq_ok found
    cases same
    exact kept.takeAnchor anchoredAgain

theorem otherwise (within : grammar.Within size) {inBlock : Bool} {head : NodeHead}
    {properties : Properties}
    (done : node.otherwise inBlock grammar head properties token = .ok next) :
    StepWithin size next := by
  refine of_ite_eq_ok done (fun same => ?_) nofun
  cases same
  exact ⟨Nat.zero_le size, within⟩

theorem node (within : grammar.Within size) {inBlock indentless : Bool}
    (done : grammar.node inBlock indentless = .ok next) : StepWithin size next := by
  obtain ⟨first, peeked, found⟩ := exists_of_bind_eq_ok done
  dsimp only at found
  split at found
  · cases found
    exact ⟨trivial, within.skip⟩
  · obtain ⟨⟨head, headless⟩, taken, found⟩ := exists_of_bind_eq_ok found
    obtain ⟨properties, -, found⟩ := exists_of_bind_eq_ok found
    obtain ⟨token, peeked, found⟩ := exists_of_bind_eq_ok found
    have kept := within.takeHead taken
    have begins (event : Event) (plain : event.Within size) {expected : Expectation}
        (same : (.ok (⟨event, head.mark⟩, headless.expect expected) : Except Stop _) = .ok next) :
        StepWithin size next := by
      cases same
      exact ⟨plain, kept⟩
    dsimp only at found
    split at found
    · exact of_ite_eq_ok found (begins (.sequenceStart properties) trivial) kept.otherwise
    · have scalar := ‹token.kind = .scalar _ _›
      have fits := kept.peek peeked
      rw [scalar] at fits
      cases found
      exact ⟨fits, kept.skip⟩
    · exact begins (.sequenceStart properties) trivial found
    · exact begins (.mappingStart properties) trivial found
    · exact begins (.sequenceStart properties) trivial found
    · exact begins (.mappingStart properties) trivial found
    · exact kept.otherwise found

theorem nodeUnless (within : grammar.Within size) {closers : List TokenKind}
    {inBlock indentless : Bool} {expected : Expectation} {omitted : Mark}
    (done : grammar.nodeUnless closers inBlock indentless expected omitted = .ok next) :
    StepWithin size next := by
  obtain ⟨first, peeked, found⟩ := exists_of_bind_eq_ok done
  refine of_ite_eq_ok found (fun same => ?_) fun found => ?_
  · cases same
    exact leaveOut within omitted
  · exact node (within.thenExpect expected) found

theorem directives {fuel : Nat} {hasVersion : Bool} (within : grammar.Within size)
    (done : directives fuel hasVersion grammar = .ok further) : further.Within size := by
  induction fuel generalizing hasVersion grammar with
  | zero =>
      cases done
      exact within
  | succ fuel ih =>
      obtain ⟨token, peeked, found⟩ := exists_of_bind_eq_ok done
      split at found
      · refine of_ite_eq_ok found nofun fun found => ?_
        exact of_ite_eq_ok found nofun (ih within.skip)
      · refine of_ite_eq_ok found nofun fun found => ih ?_ found
        exact within.skip
      · cases found
        exact within

theorem documentStart (within : grammar.Within size) {isFirst : Bool}
    (done : grammar.documentStart isFirst = .ok next) : StepWithin size next := by
  have explicit {grammar : Grammar} {first : Token} (within : grammar.Within size)
      (done : documentStart.explicit grammar first = .ok next) : StepWithin size next := by
    obtain ⟨directed, read, found⟩ := exists_of_bind_eq_ok done
    obtain ⟨token, peeked, found⟩ := exists_of_bind_eq_ok found
    refine of_ite_eq_ok found (fun same => ?_) nofun
    cases same
    exact ⟨trivial, (within.directives read).skip⟩
  have cleared : (if isFirst then grammar else grammar.skipDocumentEnds).Within size := by
    split
    · exact within
    · exact fun token found => within token ((List.dropWhile_sublist _).mem found)
  obtain ⟨token, peeked, found⟩ := exists_of_bind_eq_ok done
  split at found
  · cases found
    exact ⟨trivial, cleared.skip⟩
  · exact explicit cleared found
  · exact explicit cleared found
  · exact explicit cleared found
  · refine of_ite_eq_ok found (fun same => ?_) (explicit cleared)
    cases same
    exact ⟨trivial, cleared⟩

theorem documentContent (within : grammar.Within size)
    (done : grammar.documentContent = .ok next) : StepWithin size next := by
  obtain ⟨token, peeked, found⟩ := exists_of_bind_eq_ok done
  have empty
      (same : Except.ok (grammar.return?.leaveOut token.start) = (Except.ok next : Except Stop _)) :
      StepWithin size next := by
    cases same
    exact leaveOut within token.start
  split at found
  · exact empty found
  · exact empty found
  · exact empty found
  · exact empty found
  · exact empty found
  · exact node within found

theorem documentEnd (within : grammar.Within size)
    (done : grammar.documentEnd = .ok next) : StepWithin size next := by
  obtain ⟨token, peeked, found⟩ := exists_of_bind_eq_ok done
  cases found
  refine ⟨trivial, ?_⟩
  dsimp only
  split
  · exact within.skip
  · exact within

theorem close (within : grammar.Within size) (event : Event) (plain : event.Within size)
    (token : Token) : StepWithin size (grammar.close event token) :=
  ⟨plain, within.skip⟩

theorem blockSequenceEntry (within : grammar.Within size)
    (done : grammar.blockSequenceEntry = .ok next) : StepWithin size next := by
  obtain ⟨token, peeked, found⟩ := exists_of_bind_eq_ok done
  split at found
  · exact nodeUnless within.skip found
  · cases found
    exact close within .sequenceEnd trivial token
  · cases found

theorem indentlessEntry (within : grammar.Within size)
    (done : grammar.indentlessEntry = .ok next) : StepWithin size next := by
  obtain ⟨token, peeked, found⟩ := exists_of_bind_eq_ok done
  split at found
  · exact nodeUnless within.skip found
  · cases found
    exact ⟨trivial, within⟩

theorem blockMappingKey (within : grammar.Within size)
    (done : grammar.blockMappingKey = .ok next) : StepWithin size next := by
  obtain ⟨token, peeked, found⟩ := exists_of_bind_eq_ok done
  split at found
  · exact nodeUnless within.skip found
  · cases found
    exact close within .mappingEnd trivial token
  · cases found

theorem blockMappingValue (within : grammar.Within size)
    (done : grammar.blockMappingValue = .ok next) : StepWithin size next := by
  obtain ⟨token, peeked, found⟩ := exists_of_bind_eq_ok done
  split at found
  · exact nodeUnless within.skip found
  · cases found
    exact leaveOut within token.start

theorem separator (within : grammar.Within size) {isFirst : Bool} {closer : TokenKind}
    {context : Context} {problem : Problem}
    (done : grammar.separator isFirst closer context problem = .ok further) :
    further.Within size := by
  obtain ⟨token, peeked, found⟩ := exists_of_bind_eq_ok done
  refine of_ite_eq_ok found (fun same => by cases same; exact within) fun found => ?_
  exact of_ite_eq_ok found (fun same => by cases same; exact within.skip) nofun

theorem flowSequenceEntry (within : grammar.Within size) {isFirst : Bool}
    (done : grammar.flowSequenceEntry isFirst = .ok next) : StepWithin size next := by
  obtain ⟨separated, read, found⟩ := exists_of_bind_eq_ok done
  obtain ⟨token, peeked, found⟩ := exists_of_bind_eq_ok found
  have kept := separator within read
  split at found
  · cases found
    exact ⟨trivial, kept.skip⟩
  · cases found
    exact close kept .sequenceEnd trivial token
  · exact node (kept.thenExpect .flowSequenceEntry) found

theorem pairKey (within : grammar.Within size) (done : grammar.pairKey = .ok next) :
    StepWithin size next := by
  obtain ⟨token, peeked, found⟩ := exists_of_bind_eq_ok done
  have omitted (same : Except.ok ((grammar.skip.expect .pairValue).leaveOut token.stop) =
      (Except.ok next : Except Stop _)) : StepWithin size next := by
    cases same
    exact leaveOut within.skip token.stop
  split at found
  · exact omitted found
  · exact omitted found
  · exact omitted found
  · exact node (within.thenExpect .pairValue) found

theorem pairValue (within : grammar.Within size) (done : grammar.pairValue = .ok next) :
    StepWithin size next := by
  obtain ⟨token, peeked, found⟩ := exists_of_bind_eq_ok done
  split at found
  · obtain ⟨following, peeked, found⟩ := exists_of_bind_eq_ok found
    exact nodeUnless within.skip found
  · cases found
    exact leaveOut within token.start

theorem pairEnd (within : grammar.Within size) (done : grammar.pairEnd = .ok next) :
    StepWithin size next := by
  obtain ⟨token, peeked, same⟩ := exists_of_bind_eq_ok done
  cases same
  exact ⟨trivial, within⟩

theorem flowMappingKey (within : grammar.Within size) {isFirst : Bool}
    (done : grammar.flowMappingKey isFirst = .ok next) : StepWithin size next := by
  obtain ⟨separated, read, found⟩ := exists_of_bind_eq_ok done
  obtain ⟨token, peeked, found⟩ := exists_of_bind_eq_ok found
  have kept := separator within read
  split at found
  · obtain ⟨following, peeked, found⟩ := exists_of_bind_eq_ok found
    exact nodeUnless kept.skip found
  · cases found
    exact close kept .mappingEnd trivial token
  · exact node (kept.thenExpect .flowMappingNoValue) found

theorem flowMappingValue (within : grammar.Within size)
    (done : grammar.flowMappingValue = .ok next) : StepWithin size next := by
  obtain ⟨token, peeked, found⟩ := exists_of_bind_eq_ok done
  split at found
  · obtain ⟨following, peeked, found⟩ := exists_of_bind_eq_ok found
    exact nodeUnless within.skip found
  · cases found
    exact leaveOut within token.start

theorem enterCollection (within : grammar.Within size)
    (done : grammar.enterCollection = .ok further) : further.Within size := by
  obtain ⟨token, peeked, same⟩ := exists_of_bind_eq_ok done
  cases same
  exact within.skip

/-- Every expectation keeps the bound. -/
theorem step (within : grammar.Within size) (done : grammar.step = .ok next) :
    StepWithin size next := by
  unfold Grammar.step at done
  split at done
  · exact documentStart (within.skip.expect .firstDocument) done
  · exact documentStart within done
  · exact documentStart within done
  · exact documentContent within done
  · exact documentEnd within done
  · exact node within done
  · obtain ⟨entered, read, done⟩ := exists_of_bind_eq_ok done
    exact blockSequenceEntry (enterCollection within read) done
  · exact blockSequenceEntry within done
  · exact indentlessEntry within done
  · obtain ⟨entered, read, done⟩ := exists_of_bind_eq_ok done
    exact blockMappingKey (enterCollection within read) done
  · exact blockMappingKey within done
  · exact blockMappingValue within done
  · obtain ⟨entered, read, done⟩ := exists_of_bind_eq_ok done
    exact flowSequenceEntry (enterCollection within read) done
  · exact flowSequenceEntry within done
  · exact pairKey within done
  · exact pairValue within done
  · exact pairEnd within done
  · obtain ⟨entered, read, done⟩ := exists_of_bind_eq_ok done
    exact flowMappingKey (enterCollection within read) done
  · exact flowMappingKey within done
  · exact flowMappingValue within done
  · obtain ⟨token, peeked, same⟩ := exists_of_bind_eq_ok done
    cases same
    exact leaveOut within token.start
  · cases done

theorem eventsFrom {fuel : Nat} (within : grammar.Within size) :
    ∀ placed ∈ (grammar.eventsFrom fuel).1, placed.event.Within size := by
  induction fuel generalizing grammar with
  | zero => exact nofun
  | succ fuel ih =>
      intro placed
      unfold Grammar.eventsFrom
      split
      · exact nofun
      · rename_i event following done
        have bounds := step within done
        intro found
        rcases List.mem_cons.mp found with rfl | found
        · exact bounds.1
        · exact ih bounds.2 placed found

end Within

end Grammar

/-- No scalar among the events of a text is longer than the text. -/
theorem within_of_mem_events {text : List Char} {placed : PlacedEvent}
    (found : placed ∈ (events text).1) : placed.event.Within text.length :=
  Grammar.Within.eventsFrom (fun _ member => within_of_mem_tokens member) placed found

end TaggedConfig.Yaml
