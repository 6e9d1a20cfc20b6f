import TaggedConfig.Proofs.Yaml.SingleScalar

/-!
# The first token of a scalar

What a text begins with decides whether its document can be one boolean or number: a plain scalar,
or something that may stand in front of one.
-/

namespace TaggedConfig.Yaml

def TokenKind.isLead : TokenKind → Bool
  | .versionDirective .. | .handleDirective .. | .documentStart | .anchor _ | .tag ..
  | .scalar _ .plain => true
  | _ => false

namespace Grammar

variable {grammar further : Grammar} {placed : PlacedEvent} {fuel : Nat}

/-- The first event comes from a step, and the others from what follows it. -/
theorem exists_step {rest : List PlacedEvent}
    (happened : (grammar.eventsFrom fuel).1 = placed :: rest) :
    ∃ further less, grammar.step = .ok (placed, further) ∧ (further.eventsFrom less).1 = rest := by
  cases fuel with
  | zero => cases happened
  | succ fuel =>
      cases stepped : grammar.step with
      | error stop =>
          rw [eventsFrom_of_stop stepped] at happened
          cases happened
      | ok next =>
          obtain ⟨first, further⟩ := next
          rw [eventsFrom_of_step stepped] at happened
          cases happened
          exact ⟨further, fuel, rfl, rfl⟩

theorem exists_of_peek {token : Token} (peeked : grammar.peek = .ok token) :
    ∃ rest, grammar.tokens = token :: rest := by
  unfold Grammar.peek at peeked
  split at peeked
  · rename_i first rest same
    cases peeked
    exact ⟨rest, same⟩
  · cases peeked

theorem mem_of_peek {token : Token} (peeked : grammar.peek = .ok token) :
    token ∈ grammar.tokens := by
  obtain ⟨rest, same⟩ := exists_of_peek peeked
  rw [same]
  exact List.mem_cons_self

theorem tokens_of_directives {hasVersion : Bool}
    (done : directives fuel hasVersion grammar = .ok further) :
    further.tokens <:+ grammar.tokens := by
  induction fuel generalizing hasVersion grammar with
  | zero =>
      cases done
      exact List.suffix_rfl
  | succ fuel ih =>
      obtain ⟨token, peeked, found⟩ := exists_of_bind_eq_ok done
      have skipped : grammar.skip.tokens <:+ grammar.tokens := List.drop_suffix 1 _
      split at found
      · refine of_ite_eq_ok found nofun fun found => ?_
        exact of_ite_eq_ok found nofun fun found => (ih found).trans skipped
      · exact of_ite_eq_ok found nofun fun found => (ih found).trans skipped
      · cases found
        exact List.suffix_rfl

theorem mem_of_explicit {first : Token} {rest : List Token}
    (tokens : grammar.tokens = first :: rest) (noMarker : first.kind ≠ .documentStart)
    (done : documentStart.explicit grammar first = .ok (placed, further)) :
    ∃ token ∈ rest, token.kind = .documentStart := by
  obtain ⟨directed, read, found⟩ := exists_of_bind_eq_ok done
  obtain ⟨token, peeked, found⟩ := exists_of_bind_eq_ok found
  have member : token ∈ first :: rest :=
    tokens ▸ (tokens_of_directives read).subset (mem_of_peek peeked)
  refine of_ite_eq_ok found (fun _ => ?_) nofun
  split at found
  · rename_i isMarker
    rcases List.mem_cons.mp member with rfl | later
    · exact absurd isMarker noMarker
    · exact ⟨token, later, isMarker⟩
  · cases found

theorem mem_of_streamEnd {isFirst : Bool} {mark : Mark}
    (done : grammar.documentStart isFirst = .ok (⟨.streamEnd, mark⟩, further)) :
    ∃ token ∈ grammar.tokens, token.kind = .streamEnd := by
  have explicit {within : Grammar} {first : Token}
      (done : documentStart.explicit within first = .ok (⟨.streamEnd, mark⟩, further)) : False := by
    obtain ⟨directed, read, found⟩ := exists_of_bind_eq_ok done
    obtain ⟨token, peeked, found⟩ := exists_of_bind_eq_ok found
    exact of_ite_eq_ok found nofun nofun
  obtain ⟨token, peeked, found⟩ := exists_of_bind_eq_ok done
  have member : token ∈ grammar.tokens := by
    have kept := mem_of_peek peeked
    split at kept
    · exact kept
    · exact (List.dropWhile_suffix _).subset kept
  split at found
  · exact ⟨token, member, ‹_›⟩
  · exact (explicit found).elim
  · exact (explicit found).elim
  · exact (explicit found).elim
  · exact of_ite_eq_ok found nofun fun found => (explicit found).elim

/-- Where no scalar can begin with its properties, a node is at most a scalar with another style. -/
theorem of_node_eq_scalar {first : Token} {rest : List Token} {properties : Properties}
    {words : List Char} {style : ScalarStyle} {mark : Mark}
    (tokens : grammar.tokens = first :: rest) (other : first.kind.isLead = false)
    (done : grammar.node true false = .ok (⟨.scalar properties words style, mark⟩, further)) :
    properties = .none ∧ style ≠ .plain := by
  obtain ⟨_, fault, expected, returns, opened, handles⟩ := grammar
  cases tokens
  obtain ⟨kind, start, stop⟩ := first
  cases kind with
  | scalar text written =>
      cases done
      refine ⟨rfl, ?_⟩
      rintro rfl
      cases other
  | anchor name => cases other
  | tag handle suffix => cases other
  | _ => cases done

/-- Behind its first token, a plain scalar without properties is a node. -/
theorem of_node_plain {words : List Char} {start stop : Mark} {rest : List Token}
    (tokens : grammar.tokens = ⟨.scalar words .plain, start, stop⟩ :: rest)
    (done : grammar.node true false = .ok (placed, further)) :
    placed.event = .scalar .none words .plain ∧ further.tokens = rest := by
  obtain ⟨_, fault, expected, returns, opened, handles⟩ := grammar
  cases tokens
  cases done
  exact ⟨rfl, rfl⟩

/-- A document without directives and marker begins with its node at the first token. -/
theorem of_documentStart {first : Token} {rest : List Token} {mark : Mark}
    (tokens : grammar.tokens = first :: rest)
    (noDirective : ∀ major minor, first.kind ≠ .versionDirective major minor)
    (noHandle : ∀ handle expansion, first.kind ≠ .handleDirective handle expansion)
    (noMarker : first.kind ≠ .documentStart)
    (done : grammar.documentStart true = .ok (⟨.documentStart, mark⟩, further)) :
    further.tokens = first :: rest ∧ further.expected = .blockNode := by
  obtain ⟨_, fault, expected, returns, opened, handles⟩ := grammar
  cases tokens
  obtain ⟨kind, start, stop⟩ := first
  cases kind with
  | versionDirective major minor => exact absurd rfl (noDirective major minor)
  | handleDirective handle expansion => exact absurd rfl (noHandle handle expansion)
  | documentStart => exact absurd rfl noMarker
  | streamEnd => cases done
  | _ =>
      cases done
      exact ⟨rfl, rfl⟩

/-- With directives, marker and properties left out, the first token begins the node. -/
theorem node_of_documentStart {inDocument behind : Grammar} {first : Token} {rest : List Token}
    {mark : Mark} (tokens : grammar.tokens = first :: rest)
    (other : first.kind.isLead = false ∨ ∃ words, first.kind = .scalar words .plain)
    (began : grammar.documentStart true = .ok (⟨.documentStart, mark⟩, inDocument))
    (onNode : inDocument.step = .ok (placed, behind)) :
    inDocument.tokens = first :: rest ∧ inDocument.node true false = .ok (placed, behind) := by
  have lead {kind : TokenKind} (isLead : kind.isLead = true)
      (noScalar : ∀ words, kind ≠ .scalar words .plain) : first.kind ≠ kind := by
    rintro rfl
    rcases other with none | ⟨words, scalar⟩
    · cases isLead.symm.trans none
    · exact noScalar words scalar
  obtain ⟨same, expects⟩ := of_documentStart tokens
    (fun major minor => lead rfl nofun) (fun handle expansion => lead rfl nofun)
    (lead rfl nofun) began
  refine ⟨same, ?_⟩
  unfold Grammar.step at onNode
  rwa [expects] at onNode

/-- Behind the end of a document, directives or another document are expected. -/
theorem of_documentEnd (done : grammar.documentEnd = .ok (placed, further)) :
    further.expected = .document ∧ further.tokens <:+ grammar.tokens := by
  obtain ⟨token, peeked, same⟩ := exists_of_bind_eq_ok done
  cases same
  refine ⟨rfl, ?_⟩
  change (if token.kind = .documentEnd then grammar.skip else grammar).tokens <:+ grammar.tokens
  split
  · exact List.drop_suffix 1 _
  · exact List.suffix_rfl

theorem mem_of_ends {between finished : Grammar} {mark : Mark} (inside : grammar.Inside 0)
    (ended : grammar.step = .ok (placed, between))
    (stopped : between.step = .ok (⟨.streamEnd, mark⟩, finished)) :
    ∃ token ∈ grammar.tokens, token.kind = .streamEnd := by
  obtain ⟨expects, kept⟩ := of_documentEnd (inside.documentEnd_of_step ended)
  unfold Grammar.step at stopped
  rw [expects] at stopped
  obtain ⟨token, member, isEnd⟩ := mem_of_streamEnd stopped
  exact ⟨token, kept.subset member, isEnd⟩

end Grammar

/-- How the tokens of a text go on behind the first one, if the text is a boolean or a number. -/
structure LeadsTo (node : Node) (first : Token) (rest : List Token) : Prop where
  leads : first.kind.isLead = true
  plain : ∀ words, first.kind = .scalar words .plain →
    Scalar.plain (String.ofList words) = .ok node ∧ ∃ token ∈ rest, token.kind = .streamEnd
  version : ∀ major minor, first.kind = .versionDirective major minor →
    ∃ token ∈ rest, token.kind = .documentStart
  handle : ∀ handle expansion, first.kind = .handleDirective handle expansion →
    ∃ token ∈ rest, token.kind = .documentStart

/-- A text that is a boolean or a number begins with a plain scalar or with what may be in front. -/
theorem leadsTo_of_isTyped {text : List Char} {node : Node} (done : Node.parse text = .ok node)
    (typed : node.isTyped = true) :
    ∃ start first rest, (tokens text).1 = start :: first :: rest ∧ LeadsTo node first rest := by
  obtain ⟨properties, words, style, happened, read⟩ := exists_scalarEvents done typed
  unfold scalarEvents events at happened
  simp only [List.map_eq_cons_iff, List.map_eq_nil_iff] at happened
  obtain ⟨⟨_, start⟩, _, happened, rfl, ⟨_, place⟩, _, rfl, rfl, ⟨_, stop⟩, _, rfl, rfl,
    ⟨_, mark⟩, _, rfl, rfl, rfl⟩ := happened
  obtain ⟨inDocument, _, began, happened⟩ := Grammar.exists_step happened
  obtain ⟨behind, _, onNode, happened⟩ := Grammar.exists_step happened
  obtain ⟨closed, _, ended, happened⟩ := Grammar.exists_step happened
  obtain ⟨finished, _, stopped, -⟩ := Grammar.exists_step happened
  let onStart : Grammar := (Grammar.ofText text).skip.expect .firstDocument
  change onStart.documentStart true = _ at began
  obtain ⟨first, peeked, found⟩ := exists_of_bind_eq_ok began
  obtain ⟨rest, tokens⟩ := Grammar.exists_of_peek peeked
  change onStart.tokens = first :: rest at tokens
  have all : ∃ token, (Yaml.tokens text).1 = token :: first :: rest := by
    have dropped : (Yaml.tokens text).1.drop 1 = first :: rest := tokens
    cases whole : (Yaml.tokens text).1 with
    | nil =>
        rw [whole] at dropped
        cases dropped
    | cons token others =>
        rw [whole] at dropped
        exact ⟨token, congrArg (token :: ·) dropped⟩
  obtain ⟨token, all⟩ := all
  refine ⟨token, first, rest, all, ?_⟩
  constructor
  · rw [← Bool.not_eq_false]
    intro other
    obtain ⟨same, node⟩ := Grammar.node_of_documentStart tokens (.inl other) began onNode
    obtain ⟨rfl, styled⟩ := Grammar.of_node_eq_scalar same other node
    change Scalar.untagged (String.ofList words) style = _ at read
    unfold Scalar.untagged at read
    rw [if_neg styled] at read
    cases read
    cases typed
  · rintro written kind
    obtain ⟨same, node⟩ :=
      Grammar.node_of_documentStart tokens (.inr ⟨written, kind⟩) began onNode
    obtain ⟨_, begins, stops⟩ := first
    cases kind
    obtain ⟨event, left⟩ := Grammar.of_node_plain same node
    cases event
    refine ⟨read, ?_⟩
    rcases Grammar.documentStart_cases began with ends | ⟨-, returns, expects⟩
    · cases ends
    · obtain ⟨depth, turns, inside⟩ := Grammar.step_of_start returns expects onNode
      cases turns
      rw [← left]
      exact Grammar.mem_of_ends inside ended stopped
  · intro major minor kind
    rw [kind] at found
    exact Grammar.mem_of_explicit tokens (by rw [kind]; nofun) found
  · intro handle expansion kind
    rw [kind] at found
    exact Grammar.mem_of_explicit tokens (by rw [kind]; nofun) found

end TaggedConfig.Yaml
