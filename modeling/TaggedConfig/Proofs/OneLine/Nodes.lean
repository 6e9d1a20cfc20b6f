import TaggedConfig.Proofs.OneLine.Tokens
import TaggedConfig.Proofs.RoundTrip.Nodes

/-!
# Documents of one line

A document of one line is a plain scalar, a tag with a plain scalar, or a tag with two plain scalars in
brackets.  Its node is that of its scalars, which are typed by their spelling with a tag or without.
-/

namespace TaggedConfig.Yaml

inductive Line where
  | scalar (words : List Char)
  | tagged (name words : List Char)
  | pair (name first second : List Char)

namespace Line

def text : Line → List Char
  | scalar words => words
  | tagged name words => '!' :: (name ++ ' ' :: words)
  | pair name first second =>
      '!' :: (name ++ ' ' :: '[' :: (first ++ ',' :: ' ' :: (second ++ [']'])))

def kinds : Line → List TokenKind
  | scalar words => [.scalar words .plain, .streamEnd]
  | tagged name words =>
      [.tag ['!'] (Tag.asciiOctets name), .scalar words .plain, .streamEnd]
  | pair name first second =>
      [.tag ['!'] (Tag.asciiOctets name), .flowSequenceStart, .scalar first .plain, .flowEntry,
        .scalar second .plain, .flowSequenceEnd, .streamEnd]

def properties (name : List Char) : Properties :=
  ⟨none, some (Tag.asciiOctets ['!'] ++ Tag.asciiOctets name)⟩

def events : Line → List Event
  | scalar words => [.scalar .none words .plain]
  | tagged name words => [.scalar (properties name) words .plain]
  | pair name first second =>
      [.sequenceStart (properties name), .scalar .none first .plain, .scalar .none second .plain,
        .sequenceEnd]

def node : Line → Except ContentIssue Node
  | scalar words => Scalar.plain (String.ofList words)
  | tagged name words =>
      (Scalar.plain (String.ofList words)).map (.tagged (String.ofList name))
  | pair name first second => do
      let first ← Scalar.plain (String.ofList first)
      let second ← Scalar.plain (String.ofList second)
      return .tagged (String.ofList name) (.sequence [first, second])

/-- A local tag whose name is kept by a reader. -/
structure IsTag (name : List Char) : Prop where
  named : Tag.IsName name
  meant : NodeTag.ofOctets (properties name).tag = .named (String.ofList name)

structure IsScalar (words : List Char) : Prop where
  plain : IsLinePlain words
  allowed : ∀ c ∈ words, isAllowed c = true

/-- The parts of a document of one line are what they should be. -/
inductive IsWritten : Line → Prop
  | scalar {words : List Char} (content : IsScalar words) : IsWritten (scalar words)
  | tagged {name words : List Char} (tag : IsTag name) (content : IsScalar words) :
      IsWritten (tagged name words)
  | pair {name first second : List Char} (tag : IsTag name) (content : IsScalar first)
      (others : IsScalar second) : IsWritten (pair name first second)

theorem tag_store : IsTag "store".toList := by
  refine ⟨⟨nofun, ?_⟩, by cbv⟩
  simp [isNameChar, Char.isAlphanum, Char.isAlpha, Char.isUpper, Char.isLower, Char.isDigit]

theorem tag_load : IsTag "load".toList := by
  refine ⟨⟨nofun, ?_⟩, by cbv⟩
  simp [isNameChar, Char.isAlphanum, Char.isAlpha, Char.isUpper, Char.isLower, Char.isDigit]

theorem IsTag.allowed {name : List Char} (tag : IsTag name) : ∀ c ∈ name, isAllowed c = true := by
  intro c found
  have letter := tag.named.letters c found
  unfold isNameChar at letter
  rcases Bool.or_eq_true_iff.mp letter with word | hyphen
  · obtain ⟨least, greatest⟩ := ascii_of_isAlphanum word
    simp [isAllowed, least, greatest]
  · rw [beq_iff_eq.mp hyphen]
    decide

theorem IsWritten.allowed {line : Line} (written : line.IsWritten) :
    ∀ c ∈ line.text, isAllowed c = true := by
  have sign : ∀ c ∈ ['!', ' ', '[', ',', ']'], isAllowed c = true := by
    simp [isAllowed]
  simp only [List.forall_mem_cons] at sign
  obtain ⟨bang, space, opens, comma, closes, -⟩ := sign
  cases written with
  | scalar content => exact content.allowed
  | tagged tag content =>
      simp only [text, List.forall_mem_cons, List.forall_mem_append]
      exact ⟨bang, tag.allowed, space, content.allowed⟩
  | pair tag content others =>
      simp only [text, List.forall_mem_cons, List.forall_mem_append]
      exact ⟨bang, tag.allowed, space, opens, content.allowed, comma, space, others.allowed, closes,
        List.forall_mem_nil _⟩

theorem IsWritten.lineTokens {line : Line} (written : line.IsWritten) :
    LineTokens line.text 0 line.kinds := by
  cases written with
  | @scalar words content =>
      have whole : LineTokens (words ++ []) 0 (kinds (.scalar words)) :=
        .plain content.plain (.inl rfl) .stop
      rwa [List.append_nil] at whole
  | @tagged name words tag content =>
      have whole : LineTokens (words ++ []) 0 (kinds (.scalar words)) :=
        .plain content.plain (.inl rfl) .stop
      rw [List.append_nil] at whole
      exact .tag tag.named (.space whole)
  | pair tag content others =>
      refine .tag tag.named (.space (.opens (.plain content.plain ?_ (.comma (.space
        (.plain others.plain ?_ (.closes .stop)))))))
      · exact .inr ⟨rfl, ',', rfl, rfl⟩
      · exact .inr ⟨rfl, ']', rfl, rfl⟩

theorem exists_events (line : Line) {text : List Char} {tokens : List Token}
    (found : Yaml.tokens text = (tokens, none))
    (same : tokens.map Token.kind = .streamStart :: line.kinds) :
    ∃ placed, Yaml.events text = (placed, none) ∧
      placed.map PlacedEvent.event = .documentStart :: line.events ++ [.documentEnd, .streamEnd] := by
  unfold Yaml.events Grammar.ofText
  rw [found]
  clear found
  cases line with
  | scalar words =>
      simp only [kinds, List.map_eq_cons_iff, List.map_eq_nil_iff] at same
      obtain ⟨⟨_, _, _⟩, _, rfl, rfl, ⟨_, _, _⟩, _, rfl, rfl, ⟨_, _, _⟩, _, rfl, rfl, rfl⟩ := same
      exact ⟨_, rfl, rfl⟩
  | tagged name words =>
      simp only [kinds, List.map_eq_cons_iff, List.map_eq_nil_iff] at same
      obtain ⟨⟨_, _, _⟩, _, rfl, rfl, ⟨_, _, _⟩, _, rfl, rfl, ⟨_, _, _⟩, _, rfl, rfl, ⟨_, _, _⟩, _,
        rfl, rfl, rfl⟩ := same
      exact ⟨_, rfl, rfl⟩
  | pair name first second =>
      simp only [kinds, List.map_eq_cons_iff, List.map_eq_nil_iff] at same
      obtain ⟨⟨_, _, _⟩, _, rfl, rfl, ⟨_, _, _⟩, _, rfl, rfl, ⟨_, _, _⟩, _, rfl, rfl, ⟨_, _, _⟩, _,
        rfl, rfl, ⟨_, _, _⟩, _, rfl, rfl, ⟨_, _, _⟩, _, rfl, rfl, ⟨_, _, _⟩, _, rfl, rfl,
        ⟨_, _, _⟩, _, rfl, rfl, rfl⟩ := same
      exact ⟨_, rfl, rfl⟩

end Line

namespace Tree

def outcome (result : Except ContentIssue Node) (path : List PathStep) (mark : Mark) : Reader Node :=
  match result with
  | .ok node => pure node
  | .error issue => throw (.content issue path mark)

theorem read_plain (document : Surroundings) (depth : Nat) (path : List PathStep) (tag : NodeTag)
    (text : String) (mark : Mark) :
    read document depth path (.scalar none tag text .plain mark) =
      outcome (readScalar tag text .plain) path mark := by
  unfold read
  simp only [follow, pathOf, pure_bind]
  rfl

end Tree

namespace Line

/-- The node of the document as it is written, with the places of its parts. -/
def tree (outer first second : Mark) : Line → Tree
  | scalar words => .scalar none .absent (String.ofList words) .plain outer
  | tagged name words =>
      .scalar none (.named (String.ofList name)) (String.ofList words) .plain outer
  | pair name one other =>
      .sequence none (.named (String.ofList name))
        [.scalar none .absent (String.ofList one) .plain first,
          .scalar none .absent (String.ofList other) .plain second] true outer

theorem IsWritten.build {line : Line} (written : line.IsWritten) {placed : List PlacedEvent}
    (same : placed.map PlacedEvent.event =
      .documentStart :: line.events ++ [.documentEnd, .streamEnd]) :
    ∃ outer first second mark size, Tree.build none placed .empty =
      ⟨some (line.tree outer first second), size, 0, none, [⟨.streamEnd, mark⟩]⟩ := by
  cases written with
  | scalar content =>
      simp only [events, List.cons_append, List.nil_append, List.map_eq_cons_iff,
        List.map_eq_nil_iff] at same
      obtain ⟨⟨_, _⟩, _, rfl, rfl, ⟨_, outer⟩, _, rfl, rfl, ⟨_, _⟩, _, rfl, rfl, ⟨_, mark⟩, _, rfl,
        rfl, rfl⟩ := same
      exact ⟨outer, outer, outer, mark, 1, rfl⟩
  | tagged tag content =>
      simp only [events, List.cons_append, List.nil_append, List.map_eq_cons_iff,
        List.map_eq_nil_iff] at same
      obtain ⟨⟨_, _⟩, _, rfl, rfl, ⟨_, outer⟩, _, rfl, rfl, ⟨_, _⟩, _, rfl, rfl, ⟨_, mark⟩, _, rfl,
        rfl, rfl⟩ := same
      refine ⟨outer, outer, outer, mark, 1, ?_⟩
      rw [tree, ← tag.meant]
      rfl
  | pair tag content others =>
      simp only [events, List.cons_append, List.nil_append, List.map_eq_cons_iff,
        List.map_eq_nil_iff] at same
      obtain ⟨⟨_, _⟩, _, rfl, rfl, ⟨_, outer⟩, _, rfl, rfl, ⟨_, first⟩, _, rfl, rfl, ⟨_, second⟩, _,
        rfl, rfl, ⟨_, _⟩, _, rfl, rfl, ⟨_, _⟩, _, rfl, rfl, ⟨_, mark⟩, _, rfl, rfl, rfl⟩ := same
      refine ⟨outer, first, second, mark, 4, ?_⟩
      rw [tree, ← tag.meant]
      rfl

theorem read_tree (line : Line) (outer first second : Mark) (document : Tree.Surroundings) :
    ∃ path mark, (line.tree outer first second).read document Tree.depthLimit [] =
      Tree.outcome line.node path mark := by
  cases line with
  | scalar words => exact ⟨[], outer, Tree.read_plain ..⟩
  | tagged name words => exact ⟨[], outer, Tree.read_plain ..⟩
  | pair name one other =>
      unfold tree Tree.read
      simp only [Tree.depthLimit, Tree.follow, Tree.pathOf, pure_bind, Tree.readItems,
        Tree.read_plain, Tree.readScalar, Scalar.untagged, if_pos, node]
      cases Scalar.plain (String.ofList one) with
      | error issue => exact ⟨[.index 0], first, rfl⟩
      | ok one =>
          cases Scalar.plain (String.ofList other) with
          | error issue => exact ⟨[.index 1], second, rfl⟩
          | ok other => exact ⟨[], outer, rfl⟩

/-- A document is read as its node, or refused for what is wrong with one of its scalars. -/
theorem IsWritten.parse {line : Line} (written : line.IsWritten) :
    match line.node with
    | .ok node => Node.parse line.text = .ok node
    | .error issue => ∃ path mark, Node.parse line.text = .error (.content issue path mark) := by
  obtain ⟨tokens, found, kinds⟩ := written.lineTokens.tokens written.allowed
  obtain ⟨placed, read, events⟩ := line.exists_events found kinds
  obtain ⟨outer, first, second, mark, size, built⟩ := written.build events
  unfold Node.parse
  rw [read]
  dsimp only
  rw [built]
  dsimp only
  obtain ⟨path, place, result⟩ := line.read_tree outer first second
    { anchored := (List.range 0).map (Tree.find? · (line.tree outer first second))
      aliasLimit := Tree.aliasesPerEvent * size
      ending := .ofBreak .exhausted }
  rw [Option.getD_none, result]
  cases line.node with
  | ok node => rfl
  | error issue => exact ⟨path, place, rfl⟩

end Line

end TaggedConfig.Yaml
