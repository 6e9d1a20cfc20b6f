import TaggedConfig.Proofs.Yaml.Collections
import TaggedConfig.Proofs.Yaml.NodeLength

/-!
# Documents of one scalar

A text is a boolean or a number only if its one document is one scalar, which is read as that.  Null
and strings are left out here: they also stand for texts without any document and for documents of
which nothing is typed.
-/

namespace TaggedConfig.Yaml

def Node.isTyped : Node → Bool
  | .bool _ | .integer _ | .float _ => true
  | _ => false

def scalarEvents (properties : Properties) (text : List Char) (style : ScalarStyle) : List Event :=
  [.documentStart, .scalar properties text style, .documentEnd, .streamEnd]

namespace Tree

variable {document : Surroundings} {path : List PathStep} {node : Node} {count final : Nat}

theorem isTyped_wrapTag (tag : NodeTag) {content : Node} (untyped : content.isTyped = false) :
    (wrapTag tag content).isTyped = false := by
  cases tag with
  | named name => rfl
  | absent => exact untyped
  | standard type => exact untyped
  | nameless => exact untyped
  | foreign => exact untyped

/-- A collection is no boolean and no number, with a tag or without. -/
theorem isTyped_of_isCollection {tree : Tree} (collection : tree.isCollection = true)
    (done : read document depthLimit path tree count = .ok (node, final)) :
    node.isTyped = false := by
  unfold read at done
  obtain ⟨target, _, followed, done⟩ := Reader.exists_of_bind_eq_ok done
  cases tree with
  | «alias» anchor => cases collection
  | scalar anchor tag text style mark => cases collection
  | sequence anchor tag items closed mark =>
      cases followed
      obtain ⟨items, _, -, same⟩ := Reader.exists_of_bind_eq_ok done
      cases same
      exact isTyped_wrapTag tag rfl
  | mapping anchor tag children closed mark =>
      cases followed
      obtain ⟨entries, _, -, same⟩ := Reader.exists_of_bind_eq_ok done
      cases same
      exact isTyped_wrapTag tag rfl

theorem read_scalar_eq_ok_iff {depth : Nat} {anchor : Option Nat} {tag : NodeTag} {text : String}
    {style : ScalarStyle} {mark : Mark} :
    (∃ final, read document depth path (.scalar anchor tag text style mark) count =
      .ok (node, final)) ↔ readScalar tag text style = .ok node := by
  have followed : follow document (.scalar anchor tag text style mark) =
      pure (.scalar anchor tag text style mark) := rfl
  unfold read
  simp only [followed, pure_bind]
  cases readScalar tag text style with
  | ok content =>
      constructor
      · rintro ⟨final, same⟩
        cases same
        rfl
      · rintro same
        cases same
        exact ⟨count, rfl⟩
  | error issue =>
      constructor
      · rintro ⟨final, same⟩
        cases same
      · rintro same
        cases same

theorem exists_build_scalar (fault : Option SyntaxError) (properties : Properties)
    (words : List Char) (style : ScalarStyle) (start place stop : Mark) (rest : List PlacedEvent) :
    ∃ anchor anchors,
      build fault (⟨.documentStart, start⟩ :: ⟨.scalar properties words style, place⟩ ::
          ⟨.documentEnd, stop⟩ :: rest) .empty =
        ⟨some (.scalar anchor (.ofOctets properties.tag) (String.ofList words) style place), 1,
          anchors, none, rest⟩ := by
  obtain ⟨anchor, tag⟩ := properties
  cases anchor with
  | none => exact ⟨_, _, rfl⟩
  | some name => exact ⟨_, _, rfl⟩

end Tree

/-- A text that can be read is without any node, or one document with a root that can be read. -/
theorem Node.of_parse_eq_ok {text : List Char} {node : Node} (done : Node.parse text = .ok node) :
    let written := Tree.build (events text).2 (events text).1 .empty
    written.ending = none ∧ (written.root = none ∧ node = .null ∨
      ∃ root document final mark, written.root = some root ∧
        root.read document Tree.depthLimit [] 0 = .ok (node, final) ∧
        written.rest = [⟨.streamEnd, mark⟩]) := by
  unfold Node.parse at done
  dsimp only at done ⊢
  generalize Tree.build (events text).2 (events text).1 .empty = written at done ⊢
  cases hasRoot : written.root with
  | none =>
      cases breaks : written.ending with
      | none =>
          rw [hasRoot, breaks] at done
          cases done
          exact ⟨rfl, .inl ⟨rfl, rfl⟩⟩
      | some ending =>
          rw [hasRoot, breaks] at done
          cases done
  | some root =>
      rw [hasRoot] at done
      dsimp only at done
      obtain ⟨⟨content, final⟩, reading, done⟩ := exists_of_bind_eq_ok done
      cases breaks : written.ending with
      | some ending =>
          rw [breaks] at done
          cases done
      | none =>
          rw [breaks] at done
          dsimp only at done
          split at done
          · rename_i mark rest
            cases done
            exact ⟨rfl, .inr ⟨root, _, final, mark, rfl, reading, rest⟩⟩
          · cases done

namespace Grammar

variable {grammar further : Grammar} {placed : PlacedEvent}

theorem returns_of_directives {fuel : Nat} {hasVersion : Bool}
    (done : directives fuel hasVersion grammar = .ok further) :
    further.returns = grammar.returns := by
  induction fuel generalizing hasVersion grammar with
  | zero =>
      cases done
      rfl
  | succ fuel ih =>
      obtain ⟨token, peeked, found⟩ := exists_of_bind_eq_ok done
      split at found
      · refine of_ite_eq_ok found nofun fun found => ?_
        exact of_ite_eq_ok found nofun ih
      · exact of_ite_eq_ok found nofun ih
      · cases found
        rfl

/-- A stream ends, or a document begins, in which a node is expected. -/
theorem documentStart_cases {isFirst : Bool}
    (done : grammar.documentStart isFirst = .ok (placed, further)) :
    placed.event = .streamEnd ∨ placed.event = .documentStart ∧
      further.returns = .documentEnd :: grammar.returns ∧
      (further.expected = .blockNode ∨ further.expected = .documentContent) := by
  have explicit {within : Grammar} {first : Token} (same : within.returns = grammar.returns)
      (done : documentStart.explicit within first = .ok (placed, further)) :
      placed.event = .documentStart ∧ further.returns = .documentEnd :: grammar.returns ∧
        (further.expected = .blockNode ∨ further.expected = .documentContent) := by
    obtain ⟨directed, read, found⟩ := exists_of_bind_eq_ok done
    obtain ⟨token, peeked, found⟩ := exists_of_bind_eq_ok found
    refine of_ite_eq_ok found (fun found => ?_) nofun
    cases found
    refine ⟨rfl, ?_, .inr rfl⟩
    rw [← same, ← returns_of_directives read]
    rfl
  have cleared : (if isFirst then grammar else grammar.skipDocumentEnds).returns =
      grammar.returns := by
    split <;> rfl
  obtain ⟨token, peeked, found⟩ := exists_of_bind_eq_ok done
  split at found
  · cases found
    exact .inl rfl
  · exact .inr (explicit cleared found)
  · exact .inr (explicit cleared found)
  · exact .inr (explicit cleared found)
  · refine of_ite_eq_ok found (fun found => ?_) fun found => .inr (explicit cleared found)
    cases found
    refine .inr ⟨rfl, ?_, .inl rfl⟩
    rw [← cleared]
    rfl

/-- The first node of a document is complete at once, or it is a collection. -/
theorem step_of_start (returns : grammar.returns = [.documentEnd])
    (starts : grammar.expected = .blockNode ∨ grammar.expected = .documentContent)
    {next : PlacedEvent × Grammar} (done : grammar.step = .ok next) : StepTurns 0 next := by
  have awaits : Awaits grammar.returns 0 := by
    rw [returns]
    exact .document
  unfold Grammar.step at done
  rcases starts with starts | starts
  · rw [starts] at done
    exact awaits.node done
  · rw [starts] at done
    obtain ⟨token, peeked, found⟩ := exists_of_bind_eq_ok done
    have empty (same : Except.ok (grammar.return?.leaveOut token.start) =
        (Except.ok next : Except Stop _)) : StepTurns 0 next := by
      cases same
      exact Awaits.leaveOut awaits.return? token.start
    split at found
    · exact empty found
    · exact empty found
    · exact empty found
    · exact empty found
    · exact empty found
    · exact awaits.node found

/-- A step that can be taken gives the first event. -/
theorem eventsFrom_of_step {fuel : Nat} {placed : PlacedEvent} {further : Grammar}
    (done : grammar.step = .ok (placed, further)) :
    (grammar.eventsFrom (fuel + 1)).1 = placed :: (further.eventsFrom fuel).1 := by
  rw [eventsFrom, done]

theorem eventsFrom_of_stop {fuel : Nat} {stop : Stop} (stopped : grammar.step = .error stop) :
    (grammar.eventsFrom (fuel + 1)).1 = [] := by
  unfold eventsFrom
  rw [stopped]

/-- A document whose first node begins a collection has a collection as its root. -/
theorem isCollection_of_begin {fuel : Nat} {fault : Option SyntaxError} {isMapping : Bool}
    {properties : Properties} {place : Mark} {root : Tree} (inside : grammar.Inside 1)
    (hasRoot : (Tree.build fault (grammar.eventsFrom fuel).1
      (Tree.Building.empty.count.begin isMapping properties place)).root = some root) :
    root.isCollection = true := by
  have holds : (Tree.Building.empty.count.begin isMapping properties place).Holds 1 :=
    .begin rfl isMapping properties place
  obtain ⟨tree, same, collection⟩ := Tree.build_isCollection inside holds fault fuel
  cases hasRoot.symm.trans same
  exact collection

/--
A document that is read whole and whose root is no collection is one scalar: it begins, its only
node is complete, and it ends.
-/
theorem exists_scalar {fuel : Nat} {fault : Option SyntaxError} {root : Tree} {mark : Mark}
    (starts : grammar.expected = .streamStart) (returns : grammar.returns = [])
    (hasRoot : (Tree.build fault (grammar.eventsFrom (fuel + 3)).1 .empty).root = some root)
    (whole : (Tree.build fault (grammar.eventsFrom (fuel + 3)).1 .empty).ending = none)
    (rest : (Tree.build fault (grammar.eventsFrom (fuel + 3)).1 .empty).rest = [⟨.streamEnd, mark⟩])
    (noCollection : root.isCollection = false) :
    ∃ properties words style anchor place,
      (grammar.eventsFrom (fuel + 3)).1.map PlacedEvent.event =
        scalarEvents properties words style ∧
      root = .scalar anchor (.ofOctets properties.tag) (String.ofList words) style place := by
  cases first : grammar.step with
  | error stop =>
      rw [eventsFrom_of_stop first] at hasRoot
      cases hasRoot
  | ok next =>
      obtain ⟨⟨event, start⟩, inDocument⟩ := next
      rw [eventsFrom_of_step first] at hasRoot whole rest ⊢
      have stepped : (grammar.skip.expect .firstDocument).documentStart true =
          .ok (⟨event, start⟩, inDocument) := by
        unfold Grammar.step at first
        rwa [starts] at first
      rcases documentStart_cases stepped with ends | ⟨begins, returnsThere, expects⟩
      · cases ends
        cases hasRoot
      · cases begins
        have later : inDocument.returns = [.documentEnd] :=
          returnsThere.trans (congrArg (Expectation.documentEnd :: ·) returns)
        cases second : inDocument.step with
        | error stop =>
            rw [eventsFrom_of_stop second] at hasRoot
            cases hasRoot
        | ok next =>
            obtain ⟨⟨event, place⟩, behind⟩ := next
            rw [eventsFrom_of_step second] at hasRoot whole rest ⊢
            obtain ⟨depth, turns, inside⟩ := step_of_start later expects second
            dsimp only at turns inside
            cases turns with
            | «alias» name => cases whole
            | sequenceStart properties =>
                cases noCollection.symm.trans (isCollection_of_begin inside hasRoot)
            | mappingStart properties =>
                cases noCollection.symm.trans (isCollection_of_begin inside hasRoot)
            | scalar properties words style =>
                cases third : behind.step with
                | error stop =>
                    rw [eventsFrom_of_stop third] at whole
                    cases properties.anchor <;> cases whole
                | ok next =>
                    obtain ⟨⟨event, stop⟩, finished⟩ := next
                    rw [eventsFrom_of_step third] at hasRoot rest ⊢
                    obtain rfl : event = .documentEnd := inside.event_eq third
                    obtain ⟨anchor, anchors, built⟩ := Tree.exists_build_scalar fault properties
                      words style start place stop (finished.eventsFrom fuel).1
                    rw [built] at hasRoot rest
                    cases hasRoot
                    have last : (finished.eventsFrom fuel).1 = [⟨.streamEnd, mark⟩] := rest
                    rw [last]
                    exact ⟨properties, words, style, anchor, place, rfl, rfl⟩

end Grammar

/-- A text that is a boolean or a number has one document, which is one scalar with that value. -/
theorem exists_scalarEvents {text : List Char} {node : Node} (done : Node.parse text = .ok node)
    (typed : node.isTyped = true) :
    ∃ properties words style,
      (events text).1.map PlacedEvent.event = scalarEvents properties words style ∧
        Tree.readScalar (.ofOctets properties.tag) (String.ofList words) style = .ok node := by
  obtain ⟨whole, empty | ⟨root, document, final, mark, hasRoot, reading, rest⟩⟩ :=
    Node.of_parse_eq_ok done
  · rw [empty.2] at typed
    cases typed
  · have noCollection : root.isCollection = false := by
      rw [Bool.eq_false_iff]
      intro collection
      rw [Tree.isTyped_of_isCollection collection reading] at typed
      cases typed
    have enough : 4 * ((Grammar.ofText text).tokens.length + 2) =
        4 * (Grammar.ofText text).tokens.length + 5 + 3 := by omega
    unfold events at whole hasRoot rest ⊢
    dsimp only at whole hasRoot rest ⊢
    rw [enough] at whole hasRoot rest ⊢
    obtain ⟨properties, words, style, anchor, place, happened, rfl⟩ :=
      Grammar.exists_scalar rfl rfl hasRoot whole rest noCollection
    exact ⟨properties, words, style, happened, Tree.read_scalar_eq_ok_iff.mp ⟨final, reading⟩⟩

theorem parse_of_scalarEvents {text : List Char} {properties : Properties} {words : List Char}
    {style : ScalarStyle} {node : Node}
    (happened : (events text).1.map PlacedEvent.event = scalarEvents properties words style)
    (read : Tree.readScalar (.ofOctets properties.tag) (String.ofList words) style = .ok node) :
    Node.parse text = .ok node := by
  cases found : events text with
  | mk placed fault =>
      rw [found] at happened
      unfold scalarEvents at happened
      simp only [List.map_eq_cons_iff, List.map_eq_nil_iff] at happened
      obtain ⟨⟨_, start⟩, _, rfl, rfl, ⟨_, place⟩, _, rfl, rfl, ⟨_, stop⟩, _, rfl, rfl,
        ⟨_, mark⟩, _, rfl, rfl, rfl⟩ := happened
      obtain ⟨anchor, anchors, built⟩ := Tree.exists_build_scalar fault properties words style start
        place stop [⟨.streamEnd, mark⟩]
      unfold Node.parse
      rw [found]
      dsimp only
      rw [built]
      dsimp only
      let document : Tree.Surroundings :=
        { anchored := (List.range anchors).map (Tree.find? · (.scalar anchor
            (.ofOctets properties.tag) (String.ofList words) style place))
          aliasLimit := Tree.aliasesPerEvent * 1
          ending := .ofBreak .exhausted }
      obtain ⟨final, reading⟩ : ∃ final, Tree.read document Tree.depthLimit []
          (.scalar anchor (.ofOctets properties.tag) (String.ofList words) style place) 0 =
            .ok (node, final) :=
        Tree.read_scalar_eq_ok_iff.mpr read
      change (Tree.read document Tree.depthLimit [] _ 0 >>= _) = _
      rw [reading]
      rfl

end TaggedConfig.Yaml
