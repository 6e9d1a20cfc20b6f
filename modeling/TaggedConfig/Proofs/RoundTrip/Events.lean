import TaggedConfig.Proofs.RoundTrip.Blocks
import TaggedConfig.Yaml.Event.Grammar

/-!
# The events of a written value

The grammar finds in the tokens of a value the events of its parts, and nothing else.
-/

namespace TaggedConfig

open Yaml Yaml.Writing

/-- What is mapped to a list with a first and a last part has such parts itself. -/
theorem exists_between {α β : Type} {change : α → β} {list : List α} {opens closes : β}
    {inner : List β} (mapped : list.map change = opens :: inner ++ [closes]) :
    ∃ opening own closing, list = opening :: own ++ [closing] ∧ change opening = opens ∧
      own.map change = inner ∧ change closing = closes := by
  obtain ⟨before, last, rfl, beforeMapped, lastMapped⟩ := List.map_eq_append_iff.mp mapped
  obtain ⟨opening, own, rfl, opensMapped, ownMapped⟩ := List.map_eq_cons_iff.mp beforeMapped
  obtain ⟨closing, others, rfl, closesMapped, none⟩ := List.map_eq_cons_iff.mp lastMapped
  rw [List.map_eq_nil_iff] at none
  subst none
  exact ⟨opening, own, closing, rfl, opensMapped, ownMapped, closesMapped⟩

namespace Value

mutual

def events : Value → List Event
  | .sequence items => .sequenceStart .none :: itemEvents items ++ [.sequenceEnd]
  | .mapping entries => .mappingStart .none :: entryEvents entries ++ [.mappingEnd]
  | scalar => scalar.scalar?.toList.map fun (text, style) => .scalar .none text.toList style

def itemEvents : List Value → List Event
  | [] => []
  | item :: rest => item.events ++ itemEvents rest

def entryEvents : List (String × Value) → List Event
  | [] => []
  | (key, value) :: rest =>
      .scalar .none key.toList (styleOf key) :: value.events ++ entryEvents rest

end

theorem events_of_scalar {value : Value} {text : String} {style : ScalarStyle}
    (written : value.scalar? = some (text, style)) :
    value.events = [.scalar .none text.toList style] := by
  cases value with
  | sequence items => cases written
  | mapping entries => cases written
  | _ =>
      cases written
      rfl

end Value

namespace Yaml.Grammar

inductive Emits : Except Stop (PlacedEvent × Grammar) → List Event → Grammar → Prop
  | last (placed : PlacedEvent) (later : Grammar) : Emits (.ok (placed, later)) [placed.event] later
  | cons (placed : PlacedEvent) {between later : Grammar} {events : List Event}
      (others : Emits between.step events later) :
      Emits (.ok (placed, between)) (placed.event :: events) later

theorem Emits.append {next : Except Stop (PlacedEvent × Grammar)} {middle later : Grammar}
    {events more : List Event} (first : Emits next events middle)
    (second : Emits middle.step more later) : Emits next (events ++ more) later := by
  induction first with
  | last placed middle => exact .cons placed second
  | cons placed others ih => exact .cons placed (ih second)

/-- The events of a grammar that comes to its end, as long as there is fuel for them. -/
theorem eventsFrom_of_emits {next : Except Stop (PlacedEvent × Grammar)} {events : List Event}
    {later : Grammar} (emits : Emits next events later) (ended : later.expected = .nothing)
    {grammar : Grammar} (step : grammar.step = next) {fuel : Nat} (enough : events.length ≤ fuel) :
    ∃ placed, eventsFrom fuel grammar = (placed, none) ∧
      placed.map PlacedEvent.event = events := by
  induction emits generalizing grammar fuel with
  | last first later =>
      cases fuel with
      | zero => cases enough
      | succ fuel =>
          have stops : eventsFrom fuel later = ([], none) := by
            cases fuel with
            | zero => rfl
            | succ fuel =>
                have stop : later.step = .error none := by
                  unfold Grammar.step
                  rw [ended]
                unfold eventsFrom
                rw [stop]
          refine ⟨[first], ?_, rfl⟩
          unfold eventsFrom
          rw [step]
          dsimp only
          rw [stops]
  | cons first others ih =>
      cases fuel with
      | zero => cases enough
      | succ fuel =>
          obtain ⟨placed, found, same⟩ := ih ended rfl (Nat.le_of_succ_le_succ enough)
          refine ⟨first :: placed, ?_, congrArg (first.event :: ·) same⟩
          unfold eventsFrom
          rw [step]
          dsimp only
          rw [found]

/-- The state behind a node that is followed by some tokens. -/
def behind (grammar : Grammar) (rest : List Token) : Grammar :=
  { grammar.return? with tokens := rest }

def opening? : TokenKind → Option (Event × Expectation)
  | .flowSequenceStart => some (.sequenceStart .none, .flowSequenceFirst)
  | .flowMappingStart => some (.mappingStart .none, .flowMappingFirst)
  | .blockSequenceStart => some (.sequenceStart .none, .blockSequenceFirst)
  | .blockMappingStart => some (.mappingStart .none, .blockMappingFirst)
  | _ => none

variable {grammar : Grammar} {rest : List Token} {token : Token}

theorem node_scalar {text : List Char} {style : ScalarStyle}
    (tokens : grammar.tokens = token :: rest) (kind : token.kind = .scalar text style)
    (inPlace : Bool) :
    grammar.node true inPlace =
      .ok (⟨.scalar .none text style, token.start⟩, grammar.behind rest) := by
  obtain ⟨_, fault, expected, returns, opened, handles⟩ := grammar
  obtain ⟨_, start, stop⟩ := token
  subst tokens kind
  rfl

theorem node_opening {event : Event} {expected : Expectation}
    (tokens : grammar.tokens = token :: rest) (opens : opening? token.kind = some (event, expected))
    (inPlace : Bool) :
    grammar.node true inPlace = .ok (⟨event, token.start⟩, grammar.expect expected) := by
  obtain ⟨_, fault, _, returns, opened, handles⟩ := grammar
  obtain ⟨kind, start, stop⟩ := token
  subst tokens
  cases kind with
  | flowSequenceStart | flowMappingStart | blockSequenceStart | blockMappingStart =>
      cases opens
      rfl
  | _ => cases opens

/-- A dash in the place of a value opens a sequence without indentation of its own. -/
theorem node_indentless (tokens : grammar.tokens = token :: rest) (kind : token.kind = .blockEntry) :
    grammar.node true true =
      .ok (⟨.sequenceStart .none, token.start⟩, grammar.expect .indentlessEntry) := by
  obtain ⟨_, fault, _, returns, opened, handles⟩ := grammar
  obtain ⟨_, start, stop⟩ := token
  subst tokens kind
  rfl

variable (grammar) in
theorem nodeUnless_eq {closers : List TokenKind} (tokens : grammar.tokens = token :: rest)
    (further : token.kind ∉ closers) (inPlace : Bool) (next : Expectation) (omitted : Mark) :
    grammar.nodeUnless closers true inPlace next omitted =
      (grammar.thenExpect next).node true inPlace := by
  have found : grammar.peek = .ok token := by
    unfold peek
    rw [tokens]
  have inside : closers.contains token.kind = false := by simpa using further
  unfold nodeUnless
  rw [found]
  change (if closers.contains token.kind = true then _ else _) = _
  rw [inside]
  rfl

def beginsNode : TokenKind → Bool
  | .scalar _ _ | .flowSequenceStart | .flowMappingStart | .blockSequenceStart
  | .blockMappingStart | .blockEntry => true
  | _ => false

theorem not_mem_of_beginsNode {kind : TokenKind} {closers : List TokenKind}
    (begins : beginsNode kind = true) (none : ∀ closer ∈ closers, beginsNode closer = false) :
    kind ∉ closers := by
  intro found
  rw [none kind found] at begins
  cases begins

/-- A way to read the items of a sequence: each of them is a node behind a dash. -/
structure ReadsItems (entry : Grammar → Except Stop (PlacedEvent × Grammar))
    (expected : Expectation) : Prop where
  stays : ∀ grammar : Grammar, grammar.expected = expected → grammar.step = entry grammar
  dash : ∀ (grammar : Grammar) (token first : Token) (others : List Token),
    grammar.tokens = token :: first :: others → token.kind = .blockEntry →
      beginsNode first.kind = true → first.kind ≠ .blockEntry →
        entry grammar = (({ grammar with tokens := first :: others } : Grammar).thenExpect
          expected).node true false

theorem blockSequenceEntry_readsItems : ReadsItems blockSequenceEntry .blockSequenceEntry where
  stays := by
    rintro ⟨tokens, fault, _, returns, opened, handles⟩ rfl
    rfl
  dash := by
    rintro ⟨_, fault, expected, returns, opened, handles⟩ ⟨_, start, stop⟩ first others rfl rfl
      node item
    have further : first.kind ∉ [.blockEntry, .blockEnd] :=
      List.not_mem_cons_of_ne_of_not_mem item (not_mem_of_beginsNode node (by decide))
    exact nodeUnless_eq ⟨first :: others, fault, expected, returns, opened, handles⟩ rfl further
      false _ stop

theorem indentlessEntry_readsItems : ReadsItems indentlessEntry .indentlessEntry where
  stays := by
    rintro ⟨tokens, fault, _, returns, opened, handles⟩ rfl
    rfl
  dash := by
    rintro ⟨_, fault, expected, returns, opened, handles⟩ ⟨_, start, stop⟩ first others rfl rfl
      node item
    have further : first.kind ∉ [.blockEntry, .key, .value, .blockEnd] :=
      List.not_mem_cons_of_ne_of_not_mem item (not_mem_of_beginsNode node (by decide))
    exact nodeUnless_eq ⟨first :: others, fault, expected, returns, opened, handles⟩ rfl further
      false _ stop

/-- The opening token of a block is used up before its first entry. -/
theorem step_blockFirst (tokens : grammar.tokens = token :: rest) :
    let entered : Grammar :=
      { grammar with tokens := rest, opened := token.start :: grammar.opened }
    (grammar.expect .blockSequenceFirst).step =
        (entered.expect .blockSequenceFirst).blockSequenceEntry ∧
      (grammar.expect .blockMappingFirst).step =
        (entered.expect .blockMappingFirst).blockMappingKey := by
  obtain ⟨_, fault, _, returns, opened, handles⟩ := grammar
  subst tokens
  exact ⟨rfl, rfl⟩

theorem blockSequenceEntry_end (tokens : grammar.tokens = token :: rest)
    (kind : token.kind = .blockEnd) :
    grammar.blockSequenceEntry = .ok (⟨.sequenceEnd, token.start⟩, grammar.leave.behind rest) := by
  obtain ⟨_, fault, _, returns, opened, handles⟩ := grammar
  obtain ⟨_, start, stop⟩ := token
  subst tokens kind
  rfl

theorem indentlessEntry_end (tokens : grammar.tokens = token :: rest)
    (kind : token.kind ≠ .blockEntry) :
    grammar.indentlessEntry =
      .ok (⟨.sequenceEnd, token.start⟩, grammar.behind (token :: rest)) := by
  obtain ⟨_, fault, _, returns, opened, handles⟩ := grammar
  obtain ⟨found, start, stop⟩ := token
  subst tokens
  cases found with
  | blockEntry => exact absurd rfl kind
  | _ => rfl

theorem blockMappingKey_end (tokens : grammar.tokens = token :: rest)
    (kind : token.kind = .blockEnd) :
    grammar.blockMappingKey = .ok (⟨.mappingEnd, token.start⟩, grammar.leave.behind rest) := by
  obtain ⟨_, fault, _, returns, opened, handles⟩ := grammar
  obtain ⟨_, start, stop⟩ := token
  subst tokens kind
  rfl

theorem blockMappingKey_key {first : Token} (tokens : grammar.tokens = token :: first :: rest)
    (kind : token.kind = .key) (node : beginsNode first.kind = true) :
    grammar.blockMappingKey = (({ grammar with tokens := first :: rest } : Grammar).thenExpect
      .blockMappingValue).node true true := by
  obtain ⟨_, fault, expected, returns, opened, handles⟩ := grammar
  obtain ⟨_, start, stop⟩ := token
  subst tokens kind
  exact nodeUnless_eq ⟨first :: rest, fault, expected, returns, opened, handles⟩ rfl
    (not_mem_of_beginsNode node (by decide)) true _ stop

theorem blockMappingValue_value {first : Token} (tokens : grammar.tokens = token :: first :: rest)
    (kind : token.kind = .value) (node : beginsNode first.kind = true) :
    grammar.blockMappingValue = (({ grammar with tokens := first :: rest } : Grammar).thenExpect
      .blockMappingKey).node true true := by
  obtain ⟨_, fault, expected, returns, opened, handles⟩ := grammar
  obtain ⟨_, start, stop⟩ := token
  subst tokens kind
  exact nodeUnless_eq ⟨first :: rest, fault, expected, returns, opened, handles⟩ rfl
    (not_mem_of_beginsNode node (by decide)) true _ stop

end Yaml.Grammar

namespace Value

open Yaml.Grammar

/-- A value has a first token, with which a node begins; a dash only if it may not be indented. -/
theorem exists_tokens_eq (value : Value) (indentless : Bool) :
    ∃ first others, value.tokens indentless = first :: others ∧ beginsNode first = true ∧
      (indentless = false → first ≠ .blockEntry) := by
  cases value with
  | sequence items =>
      cases items with
      | nil => exact ⟨_, _, rfl, rfl, by simp⟩
      | cons item rest =>
          cases indentless with
          | true => exact ⟨.blockEntry, _, rfl, rfl, by simp⟩
          | false => exact ⟨.blockSequenceStart, _, rfl, rfl, by simp⟩
  | mapping entries =>
      cases entries with
      | nil => exact ⟨_, _, rfl, rfl, by simp⟩
      | cons entry rest => exact ⟨_, _, rfl, rfl, by simp⟩
  | _ => exact ⟨_, _, rfl, rfl, by simp⟩

/-- A collection without entries, whose two brackets follow each other. -/
theorem emits_brackets {opening closing : Token} {rest : List Token} (grammar : Grammar)
    (tokens : grammar.tokens = opening :: closing :: rest) (inPlace : Bool) :
    (opening.kind = .flowSequenceStart → closing.kind = .flowSequenceEnd →
        Emits (grammar.node true inPlace) [.sequenceStart .none, .sequenceEnd]
          (grammar.behind rest)) ∧
      (opening.kind = .flowMappingStart → closing.kind = .flowMappingEnd →
        Emits (grammar.node true inPlace) [.mappingStart .none, .mappingEnd]
          (grammar.behind rest)) := by
  constructor
  · intro opens closes
    rw [node_opening tokens (by rw [opens]; rfl) inPlace]
    obtain ⟨_, fault, _, returns, opened, handles⟩ := grammar
    obtain ⟨_, start, stop⟩ := opening
    obtain ⟨_, begun, ended⟩ := closing
    subst tokens opens closes
    exact .cons ⟨.sequenceStart .none, start⟩ (.last ⟨.sequenceEnd, begun⟩ _)
  · intro opens closes
    rw [node_opening tokens (by rw [opens]; rfl) inPlace]
    obtain ⟨_, fault, _, returns, opened, handles⟩ := grammar
    obtain ⟨_, start, stop⟩ := opening
    obtain ⟨_, begun, ended⟩ := closing
    subst tokens opens closes
    exact .cons ⟨.mappingStart .none, start⟩ (.last ⟨.mappingEnd, begun⟩ _)

theorem exists_first {value : Value} {indentless : Bool} {tokens : List Token}
    (kinds : tokens.map Token.kind = value.tokens indentless) :
    ∃ first others, tokens = first :: others ∧ beginsNode first.kind = true ∧
      (indentless = false → first.kind ≠ .blockEntry) := by
  obtain ⟨kind, kindsLater, begins, node, noDash⟩ := value.exists_tokens_eq indentless
  rw [begins] at kinds
  obtain ⟨first, others, rfl, rfl, -⟩ := List.map_eq_cons_iff.mp kinds
  exact ⟨first, others, rfl, node, noDash⟩

def EndsItems (rest : List Token) : Prop :=
  ∃ token others, rest = token :: others ∧ token.kind ≠ .blockEntry

theorem endsItems_of_entries {entries : List (String × Value)} {mine rest : List Token}
    {ending : Token} (ends : ending.kind = .blockEnd)
    (kinds : mine.map Token.kind = entryTokens entries) : EndsItems (mine ++ ending :: rest) := by
  cases entries with
  | nil =>
      have none : mine = [] := List.map_eq_nil_iff.mp kinds
      subst none
      exact ⟨ending, rest, rfl, by simp [ends]⟩
  | cons entry more =>
      obtain ⟨key, value⟩ := entry
      obtain ⟨mark, others, rfl, isMark, -⟩ := List.map_eq_cons_iff.mp kinds
      exact ⟨mark, others ++ ending :: rest, rfl, by simp [isMark]⟩

mutual

/-- A value is read from its tokens; behind one that is not indented no dash may follow. -/
theorem emits_value (value : Value) (indentless inPlace : Bool)
    (allowed : indentless = true → inPlace = true) {grammar : Grammar} {mine rest : List Token}
    (tokens : grammar.tokens = mine ++ rest) (kinds : mine.map Token.kind = value.tokens indentless)
    (ends : indentless = true → EndsItems rest) :
    Emits (grammar.node true inPlace) value.events (grammar.behind rest) := by
  cases scalar : value.scalar? with
  | some form =>
      obtain ⟨text, style⟩ := form
      rw [tokens_of_scalar scalar] at kinds
      obtain ⟨token, others, rfl, kind, none⟩ := List.map_eq_cons_iff.mp kinds
      rw [List.map_eq_nil_iff] at none
      subst none
      rw [events_of_scalar scalar, node_scalar tokens kind]
      exact .last ⟨.scalar .none text.toList style, token.start⟩ _
  | none =>
      match value with
      | .sequence [] =>
          have brackets : mine.map Token.kind = .flowSequenceStart :: [] ++ [.flowSequenceEnd] := kinds
          obtain ⟨opening, inner, closing, rfl, opens, none, closes⟩ := exists_between brackets
          rw [List.map_eq_nil_iff] at none
          subst none
          exact (emits_brackets grammar tokens inPlace).1 opens closes
      | .mapping [] =>
          have brackets : mine.map Token.kind = .flowMappingStart :: [] ++ [.flowMappingEnd] := kinds
          obtain ⟨opening, inner, closing, rfl, opens, none, closes⟩ := exists_between brackets
          rw [List.map_eq_nil_iff] at none
          subst none
          exact (emits_brackets grammar tokens inPlace).2 opens closes
      | .sequence (item :: more) =>
          cases indentless with
          | true =>
              obtain ⟨dash, others, rfl, isDash, -⟩ := List.map_eq_cons_iff.mp kinds
              obtain ⟨token, later, rfl, noDash⟩ := ends rfl
              rw [allowed rfl, node_indentless tokens isDash]
              refine .cons ⟨.sequenceStart .none, dash.start⟩ ?_
              refine emits_items (item :: more) indentlessEntry_readsItems tokens kinds fun now => ?_
              rw [indentlessEntry_end rfl noDash]
              exact .last ⟨.sequenceEnd, token.start⟩ _
          | false =>
              obtain ⟨opening, inner, closing, rfl, opens, kinds, closes⟩ := exists_between kinds
              rw [node_opening tokens (by rw [opens]; rfl)]
              refine .cons ⟨.sequenceStart .none, opening.start⟩ ?_
              rw [(step_blockFirst tokens).1]
              refine emits_items (item :: more) blockSequenceEntry_readsItems
                (List.append_assoc ..) kinds fun now => ?_
              rw [blockSequenceEntry_end rfl closes]
              exact .last ⟨.sequenceEnd, closing.start⟩ _
      | .mapping (entry :: more) =>
          obtain ⟨opening, inner, closing, rfl, opens, kinds, closes⟩ := exists_between kinds
          rw [node_opening tokens (by rw [opens]; rfl)]
          refine .cons ⟨.mappingStart .none, opening.start⟩ ?_
          rw [(step_blockFirst tokens).2]
          exact emits_entries (entry :: more) closes (List.append_assoc ..) kinds

theorem emits_items (items : List Value)
    {entry : Grammar → Except Grammar.Stop (PlacedEvent × Grammar)} {expected : Expectation}
    (reads : ReadsItems entry expected) {grammar later : Grammar} {mine ending : List Token}
    (tokens : grammar.tokens = mine ++ ending) (kinds : mine.map Token.kind = itemTokens items)
    (closes : ∀ now, Emits (entry { grammar with tokens := ending, expected := now })
      [.sequenceEnd] later) :
    Emits (entry grammar) (itemEvents items ++ [.sequenceEnd]) later := by
  match items with
  | [] =>
      have none : mine = [] := List.map_eq_nil_iff.mp kinds
      obtain ⟨_, fault, now, returns, opened, handles⟩ := grammar
      subst none tokens
      exact closes now
  | item :: more =>
      have split : mine.map Token.kind = .blockEntry :: (item.tokens false ++ itemTokens more) := by
        rw [kinds, itemTokens, List.cons_append]
      obtain ⟨dash, others, rfl, isDash, split⟩ := List.map_eq_cons_iff.mp split
      obtain ⟨own, following, rfl, ownKinds, moreKinds⟩ := List.map_eq_append_iff.mp split
      obtain ⟨first, ownOthers, rfl, node, noDash⟩ := exists_first ownKinds
      rw [reads.dash grammar dash first (ownOthers ++ (following ++ ending)) (by simpa using tokens)
        isDash node (noDash rfl), itemEvents, List.append_assoc]
      refine Emits.append (emits_value item false false id (List.cons_append ..).symm ownKinds
        (absurd · Bool.false_ne_true)) ?_
      rw [reads.stays _ rfl]
      exact emits_items more reads rfl moreKinds closes

theorem emits_entries (entries : List (String × Value)) {grammar : Grammar}
    {mine rest : List Token} {ending : Token} (ends : ending.kind = .blockEnd)
    (tokens : grammar.tokens = mine ++ ending :: rest)
    (kinds : mine.map Token.kind = entryTokens entries) :
    Emits grammar.blockMappingKey (entryEvents entries ++ [.mappingEnd])
      (grammar.leave.behind rest) := by
  match entries with
  | [] =>
      have none : mine = [] := List.map_eq_nil_iff.mp kinds
      subst none
      rw [blockMappingKey_end tokens ends]
      exact .last ⟨.mappingEnd, ending.start⟩ _
  | (key, value) :: more =>
      have split : mine.map Token.kind = .key :: .scalar key.toList (styleOf key) :: .value ::
          (value.tokens (isSimpleKey key) ++ entryTokens more) := by
        rw [kinds, entryTokens]
        rfl
      obtain ⟨mark, others, rfl, isMark, split⟩ := List.map_eq_cons_iff.mp split
      obtain ⟨keyToken, others, rfl, isKey, split⟩ := List.map_eq_cons_iff.mp split
      obtain ⟨colon, others, rfl, isColon, split⟩ := List.map_eq_cons_iff.mp split
      obtain ⟨own, following, rfl, ownKinds, moreKinds⟩ := List.map_eq_append_iff.mp split
      obtain ⟨first, ownOthers, rfl, node, -⟩ := exists_first ownKinds
      rw [blockMappingKey_key (by simpa using tokens) isMark (by rw [isKey]; rfl),
        node_scalar rfl isKey]
      refine .cons ⟨.scalar .none key.toList (styleOf key), keyToken.start⟩ ?_
      let atColon : Grammar :=
        { grammar with
          tokens := colon :: (first :: ownOthers ++ (following ++ ending :: rest))
          expected := .blockMappingValue }
      change Emits atColon.blockMappingValue (value.events ++ entryEvents more ++ [.mappingEnd]) _
      rw [blockMappingValue_value rfl isColon node, List.append_assoc]
      refine Emits.append (emits_value value (isSimpleKey key) true (fun _ => rfl) rfl ownKinds
        fun _ => endsItems_of_entries ends moreKinds) ?_
      exact emits_entries more ends rfl moreKinds

end

mutual

theorem length_events_le (value : Value) (indentless : Bool) :
    value.events.length ≤ 2 * (value.tokens indentless).length := by
  match value with
  | .sequence (item :: more) =>
      have items := length_itemEvents_le (item :: more)
      unfold events tokens
      split
      · simp only [List.length_cons, List.length_append, List.length_nil] at items ⊢
        omega
      · simp only [List.length_cons, List.length_append, List.length_nil] at items ⊢
        omega
  | .mapping (entry :: more) =>
      have entries := length_entryEvents_le (entry :: more)
      unfold events tokens
      simp only [List.length_cons, List.length_append, List.length_nil]
      omega
  | .sequence [] | .mapping [] | .null | .bool _ | .integer _ | .float _ | .string _ =>
      simp [events, tokens, scalar?, itemEvents, entryEvents]

theorem length_itemEvents_le (items : List Value) :
    (itemEvents items).length + 2 * items.length ≤ 2 * (itemTokens items).length := by
  match items with
  | [] => exact le_refl 0
  | item :: rest =>
      have first := length_events_le item false
      have later := length_itemEvents_le rest
      unfold itemEvents itemTokens
      simp only [List.length_cons, List.length_append]
      omega

theorem length_entryEvents_le (entries : List (String × Value)) :
    (entryEvents entries).length ≤ 2 * (entryTokens entries).length := by
  match entries with
  | [] => exact le_refl 0
  | (key, value) :: rest =>
      have first := length_events_le value (isSimpleKey key)
      have later := length_entryEvents_le rest
      unfold entryEvents entryTokens
      simp only [List.length_cons, List.length_append, List.length_nil]
      omega

end

end Value

namespace Yaml

open Grammar

theorem Grammar.documentStart_eq {grammar : Grammar} {token : Token} {rest : List Token}
    (tokens : grammar.tokens = token :: rest) (begins : beginsNode token.kind = true) :
    grammar.documentStart true = .ok (⟨.documentStart, token.start⟩,
      (grammar.addStandardHandles.thenExpect .documentEnd).expect .blockNode) := by
  obtain ⟨_, fault, _, returns, opened, handles⟩ := grammar
  obtain ⟨kind, start, stop⟩ := token
  subst tokens
  cases kind with
  | scalar | flowSequenceStart | flowMappingStart | blockSequenceStart | blockMappingStart
  | blockEntry => rfl
  | _ => cases begins

theorem events_of_tokens {text : List Char} {value : Value} {tokens : List Token}
    (read : Yaml.tokens text = (tokens, none))
    (kinds : tokens.map Token.kind = .streamStart :: value.tokens false ++ [.streamEnd]) :
    ∃ placed, Yaml.events text = (placed, none) ∧ placed.map PlacedEvent.event =
      .documentStart :: (value.events ++ [.documentEnd, .streamEnd]) := by
  obtain ⟨start, own, ending, rfl, -, ownKinds, ends⟩ := exists_between kinds
  obtain ⟨first, others, rfl, begins, -⟩ := Value.exists_first ownKinds
  have enough : (Event.documentStart :: (value.events ++ [.documentEnd, .streamEnd])).length ≤
      4 * ((start :: (first :: others) ++ [ending]).length + 2) := by
    have size := value.length_events_le false
    rw [← ownKinds] at size
    simp only [List.length_cons, List.length_append, List.length_map, List.length_nil] at size ⊢
    omega
  let opened : Grammar :=
    { tokens := first :: others ++ [ending], fault := none, expected := .blockNode,
      returns := [.documentEnd], opened := [], handles := standardHandles }
  have content : Emits opened.step value.events (opened.behind [ending]) :=
    value.emits_value false false id rfl ownKinds (absurd · Bool.false_ne_true)
  have closing : Emits (opened.behind [ending]).step [.documentEnd, .streamEnd]
      { opened with tokens := [], expected := .nothing, returns := [], handles := [] } := by
    obtain ⟨_, begun, ended⟩ := ending
    subst ends
    exact .cons ⟨.documentEnd, begun⟩ (.last ⟨.streamEnd, begun⟩ _)
  have whole := Emits.cons ⟨.documentStart, first.start⟩ (content.append closing)
  unfold Yaml.events Grammar.ofText
  rw [read]
  refine eventsFrom_of_emits whole rfl ?_ enough
  exact documentStart_eq rfl begins

end Yaml

end TaggedConfig
