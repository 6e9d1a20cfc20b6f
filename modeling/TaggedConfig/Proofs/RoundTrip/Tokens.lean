import TaggedConfig.Proofs.RoundTrip.Blocks

/-!
# The tokens of a written document

A written document holds allowed characters only, and its tokens are those of its value between the
start and the end of the stream.
-/

namespace TaggedConfig

open Yaml Yaml.Writing

namespace Value

theorem printable_lineStart (begun : Bool) (indent : Nat) :
    ∀ c ∈ lineStart begun indent, isPrintable c = true := by
  cases begun with
  | true => exact nofun
  | false => exact fun c => isPrintable_of_mem_indentation

theorem printable_string (indent : Nat) (text : String) :
    ∀ c ∈ Yaml.Writing.string indent text, isPrintable c = true := by
  rw [string_eq_styled]
  exact printable_styled (allows_styleOf text)

theorem printable_leaf {value : Value} (leaf : value.isLeaf = true) (indent : Nat) :
    ∀ c ∈ value.toBlock indent, isPrintable c = true := by
  cases scalar : value.scalar? with
  | some form =>
      obtain ⟨text, style⟩ := form
      rw [toBlock_of_scalar scalar]
      exact printable_endLine (printable_styled (allows_scalar scalar))
  | none =>
      have brackets (opening closing : Char) (first : isPrintable opening = true)
          (last : isPrintable closing = true) : ∀ c ∈ [opening, closing], isPrintable c = true :=
        List.forall_mem_cons.mpr ⟨first, List.forall_mem_singleton.mpr last⟩
      cases value with
      | sequence items =>
          cases items with
          | nil => exact printable_endLine (brackets '[' ']' rfl rfl)
          | cons item rest => cases leaf
      | mapping entries =>
          cases entries with
          | nil => exact printable_endLine (brackets '\x7b' '\x7d' rfl rfl)
          | cons entry rest => cases leaf
      | _ => cases scalar

mutual

theorem printable_toBlock (value : Value) (indent : Nat) :
    ∀ c ∈ value.toBlock indent, isPrintable c = true := by
  match value with
  | .sequence (item :: rest) => exact printable_items (item :: rest) true indent
  | .mapping (entry :: rest) => exact printable_entries (entry :: rest) true indent
  | .sequence [] | .mapping [] | .null | .bool _ | .integer _ | .float _ | .string _ =>
      exact printable_leaf rfl indent

theorem printable_toEntryValue (value : Value) (indent : Nat) :
    ∀ c ∈ value.toEntryValue indent, isPrintable c = true := by
  match value with
  | .sequence (item :: rest) =>
      exact List.forall_mem_cons.mpr ⟨rfl, printable_items (item :: rest) false indent⟩
  | .mapping (entry :: rest) =>
      exact List.forall_mem_cons.mpr ⟨rfl, printable_entries (entry :: rest) false (indent + 2)⟩
  | .sequence [] | .mapping [] | .null | .bool _ | .integer _ | .float _ | .string _ =>
      rw [toEntryValue_of_isLeaf rfl]
      exact List.forall_mem_cons.mpr ⟨rfl, printable_leaf rfl _⟩

theorem printable_items (items : List Value) (begun : Bool) (indent : Nat) :
    ∀ c ∈ itemsToBlock begun indent items, isPrintable c = true := by
  match items with
  | [] => exact nofun
  | item :: rest =>
      unfold itemsToBlock
      rw [List.forall_mem_append, List.forall_mem_append, List.forall_mem_cons, List.forall_mem_cons]
      exact ⟨⟨printable_lineStart begun indent, rfl, rfl, printable_toBlock item (indent + 2)⟩,
        printable_items rest false indent⟩

theorem printable_entries (entries : List (String × Value)) (begun : Bool) (indent : Nat) :
    ∀ c ∈ entriesToBlock begun indent entries, isPrintable c = true := by
  match entries with
  | [] => exact nofun
  | (key, value) :: rest =>
      unfold entriesToBlock
      dsimp only
      rw [List.forall_mem_append, List.forall_mem_append]
      refine ⟨⟨printable_lineStart begun indent, ?_⟩, printable_entries rest false indent⟩
      split
      · rw [List.forall_mem_append, List.forall_mem_cons]
        exact ⟨printable_string _ key, rfl, printable_toEntryValue value indent⟩
      · rw [List.forall_mem_append, List.forall_mem_append, List.forall_mem_cons,
          List.forall_mem_cons, List.forall_mem_cons, List.forall_mem_cons]
        exact ⟨⟨⟨rfl, rfl, printable_endLine (printable_string _ key)⟩,
          fun c => isPrintable_of_mem_indentation⟩, rfl, rfl, printable_toBlock value (indent + 2)⟩

end

end Value

namespace Yaml

theorem forbidden?_eq_none {text : List Char} (allowed : ∀ c ∈ text, isAllowed c = true)
    (block offset : Nat) : forbidden? text block offset = none := by
  induction text generalizing block offset with
  | nil => rfl
  | cons c rest ih =>
      obtain ⟨here, later⟩ := List.forall_mem_cons.mp allowed
      unfold forbidden?
      dsimp only
      rw [if_pos here]
      exact ih later _ _

namespace Lexer

variable {lexer : Lexer} {scene : Scene}

theorem Stands.dispatch_end (stands : lexer.Stands scene) (text : scene.text = [])
    (column : scene.column = 0) (further : .streamEnd ∉ scene.kinds) :
    ∃ done : Lexer, lexer.dispatch = .ok done ∧ done.IsDone ∧
      done.queue.map Token.kind = scene.kinds ++
        List.replicate (closing (-1) scene.indent scene.outer).2.2 .blockEnd ++ [.streamEnd] := by
  have rest : lexer.cursor.rest = [] := stands.text.trans text
  have place : lexer.mark.column = 0 := stands.column.trans column
  have here : lexer.moveTo ⟨[], lexer.mark⟩ = lexer := by
    rw [← rest]
    rfl
  have ended := stands.closeBlocks (-1)
  have found : lexer.fetchStreamEnd =
      .ok (((lexer.closeBlocks (-1)).allowKey false).push .streamEnd lexer.mark lexer.mark) := by
    unfold fetchStreamEnd
    dsimp only
    rw [if_pos place, here, ended.dropCandidate_eq]
    rfl
  unfold dispatch
  rw [rest]
  refine ⟨_, found, ⟨ended.candidates, (lexer.closeBlocks (-1)).queue, _, rfl, rfl, ?_⟩, ?_⟩
  · intro token held same
    have kind : token.kind ∈ (lexer.closeBlocks (-1)).queue.map Token.kind :=
      List.mem_map_of_mem held
    rw [ended.kinds, same] at kind
    rcases List.mem_append.mp kind with before | closers
    · exact further before
    · cases List.eq_of_mem_replicate closers
  · change ((lexer.closeBlocks (-1)).queue ++ [_]).map Token.kind = _
    rw [List.map_append, ended.kinds]
    rfl

def openingScene (text : List Char) : Scene := ⟨text, 0, -1, [], true, [.streamStart]⟩

theorem prepare_ofText {text : List Char} (starts : StartsToken text) :
    ∃ first : Lexer, (ofText text).prepare = .ok first ∧ first.Stands (openingScene text) := by
  have finishes : (ofText text).atToken.Finishes (openingScene text) :=
    finishes_of_gap rfl nofun (skipGap_token starts) rfl rfl rfl rfl rfl
  exact prepare_of_finishes finishes

theorem tokensOf_of_leads {text : List Char} {last : Scene} {kinds : List TokenKind}
    (starts : StartsToken text) (leads : (openingScene text).Leads last) (ended : last.text = [])
    (column : last.column = 0) (further : .streamEnd ∉ last.kinds)
    (whole : last.kinds ++ List.replicate (closing (-1) last.indent last.outer).2.2 .blockEnd =
      kinds) :
    ∃ tokens : List Token, tokensOf text = (tokens, none) ∧
      tokens.map Token.kind = kinds ++ [.streamEnd] := by
  obtain ⟨first, prepared, stands⟩ := prepare_ofText starts
  obtain ⟨count, reached, run, stops, light⟩ := leads first stands
  obtain ⟨done, read, isDone, found⟩ := stops.dispatch_end ended column further
  have size := congrArg List.length found
  rw [whole] at found
  refine ⟨done.queue, tokensOf_of_fetches (run.fetches prepared read) isDone ?_, found⟩
  have closers := length_closing (-1) last.indent last.outer
  simp only [List.length_map, List.length_append, List.length_replicate, List.length_cons,
    List.length_nil] at size
  unfold Scene.weight openingScene at light
  simp only [List.length_cons, List.length_nil] at light
  omega

end Lexer

end Yaml

namespace Value

mutual

theorem noStreamEnd (value : Value) (indentless : Bool) :
    .streamEnd ∉ value.tokens indentless := by
  match value with
  | .sequence (item :: rest) =>
      have items := noStreamEnd_items (item :: rest)
      unfold tokens
      split
      · exact items
      · simpa using items
  | .mapping (entry :: rest) =>
      have entries := noStreamEnd_entries (entry :: rest)
      unfold tokens
      simpa using entries
  | .sequence [] | .mapping [] | .null | .bool _ | .integer _ | .float _ | .string _ =>
      simp [tokens, scalar?]

theorem noStreamEnd_items (items : List Value) : .streamEnd ∉ itemTokens items := by
  match items with
  | [] => exact nofun
  | item :: rest =>
      have first := noStreamEnd item false
      have later := noStreamEnd_items rest
      unfold itemTokens
      simp [first, later]

theorem noStreamEnd_entries (entries : List (String × Value)) :
    .streamEnd ∉ entryTokens entries := by
  match entries with
  | [] => exact nofun
  | (key, value) :: rest =>
      have first := noStreamEnd value (isSimpleKey key)
      have later := noStreamEnd_entries rest
      unfold entryTokens
      simp [first, later]

end

theorem toList_toYaml (value : Value) :
    value.toYaml.toList = value.toBlock (if value.text?.isSome then 2 else 0) :=
  String.toList_ofList

theorem toList_toYaml_of_isLeaf {value : Value} (leaf : value.isLeaf = true) :
    value.toYaml.toList = value.toBlock 2 := by
  rw [toList_toYaml]
  cases value with
  | sequence items =>
      cases items with
      | nil => rfl
      | cons item rest => cases leaf
  | mapping entries =>
      cases entries with
      | nil => rfl
      | cons entry rest => cases leaf
  | _ => rfl

theorem tokensOf_leaf {value : Value} (leaf : value.isLeaf = true) :
    ∃ tokens : List Token, Lexer.tokensOf (value.toBlock 2) = (tokens, none) ∧
      tokens.map Token.kind = .streamStart :: value.tokens false ++ [.streamEnd] := by
  have starts := startsToken_toBlock value 2 []
  rw [List.append_nil] at starts
  have written : (Lexer.openingScene (value.toBlock 2)).text =
      value.toBlock 2 ++ (indentation 0 ++ []) := (List.append_nil _).symm
  have leads := leads_leaf leaf (by decide : (-1 : Int) < (0 : Nat)) rfl written nofun (.inr ⟨rfl, rfl⟩)
    false
  rw [Scene.closed_of_le (by decide : (-1 : Int) ≤ (0 : Nat))] at leads
  refine Lexer.tokensOf_of_leads starts leads rfl rfl ?_ (List.append_nil _)
  exact List.not_mem_cons_of_ne_of_not_mem nofun (noStreamEnd value false)

theorem tokensOf_rows {opens : TokenKind} {text : List Char} {kinds : List TokenKind}
    (rows : ReadsAsRows opens 0 text kinds) (starts : StartsToken text)
    (further : .streamEnd ∉ opens :: kinds) :
    ∃ tokens : List Token, Lexer.tokensOf text = (tokens, none) ∧
      tokens.map Token.kind = .streamStart :: (opens :: kinds ++ [.blockEnd]) ++ [.streamEnd] := by
  have written : (Lexer.openingScene text).text = text ++ (indentation 0 ++ []) :=
    (List.append_nil _).symm
  have leads := rows rfl (by decide : (-1 : Int) ≤ (0 : Nat)) rfl written nofun (Nat.le_refl 0)
  rw [Scene.closed_of_le (by decide : (0 : Int) ≤ (0 : Nat))] at leads
  exact Lexer.tokensOf_of_leads starts leads rfl rfl
    (List.not_mem_cons_of_ne_of_not_mem nofun further) rfl

/-- The tokens of a written document are those of its value. -/
theorem tokens_toYaml (value : Value) :
    ∃ tokens : List Token, Yaml.tokens value.toYaml.toList = (tokens, none) ∧
      tokens.map Token.kind = .streamStart :: value.tokens false ++ [.streamEnd] := by
  have allowed : forbidden? value.toYaml.toList 0 0 = none := by
    rw [toList_toYaml]
    exact forbidden?_eq_none (fun c found => isAllowed_of_isPrintable (printable_toBlock value _ c found))
      0 0
  have same : Yaml.tokens value.toYaml.toList = Lexer.tokensOf value.toYaml.toList := by
    unfold Yaml.tokens
    rw [allowed]
  rw [same]
  cases leaf : value.isLeaf with
  | true =>
      rw [toList_toYaml_of_isLeaf leaf]
      exact tokensOf_leaf leaf
  | false =>
      cases value with
      | sequence items =>
          cases items with
          | nil => cases leaf
          | cons item rest =>
              have starts := startsToken_items item rest 0 []
              rw [List.append_nil] at starts
              rw [toList_toYaml]
              exact tokensOf_rows (readsAsRows_items (item :: rest) 0 (List.cons_ne_nil item rest)) starts
                (List.not_mem_cons_of_ne_of_not_mem (by simp) (noStreamEnd_items (item :: rest)))
      | mapping entries =>
          cases entries with
          | nil => cases leaf
          | cons entry rest =>
              have starts := startsToken_entries entry rest 0 []
              rw [List.append_nil] at starts
              rw [toList_toYaml]
              exact tokensOf_rows (readsAsRows_entries (entry :: rest) 0 (List.cons_ne_nil entry rest)) starts
                (List.not_mem_cons_of_ne_of_not_mem (by simp) (noStreamEnd_entries (entry :: rest)))
      | _ => cases leaf

end Value

end TaggedConfig
