import TaggedConfig.Proofs.DocumentOrder.Walk
import TaggedConfig.Proofs.ValueText

/-!
# Resolution follows document order

Every run of a resolution is a walk.  The proof follows the recursion of trees; value texts come in
by their length, and nested documents by the allowance for them.
-/

namespace TaggedConfig

open Dialogue (Files Ensures)

variable {loader : Loader} {host : Surroundings} {files : Files} {here : Standpoint}
  {onValueText : Scope.OnValueText} {includeText : String → Dialogue ConfigError Value}

def ValueTextFollows (loader : Loader) (host : Surroundings) (files : Files) (here : Standpoint)
    (onValueText : Scope.OnValueText) (text : String) : Prop :=
  (onValueText text).Ensures files (ValueTextWalk loader host files here text)

def FollowsWithin (loader : Loader) (host : Surroundings) (files : Files) (here : Standpoint)
    (onValueText : Scope.OnValueText) (text : String) : Prop :=
  ∀ name valueText, Implicit.assignment? text = some (name, valueText) →
    ValueTextFollows loader host files here onValueText valueText

def IncludesFollow (loader : Loader) (host : Surroundings) (files : Files) (here : Standpoint)
    (includeText : String → Dialogue ConfigError Value) : Prop :=
  ∀ text, (includeText text).Ensures files (DocumentWalk loader host files here text)

namespace Resolving

theorem ofExcept_ensures {α : Type} {description : Description α} {result : Except Cause α}
    (holds : description [] (settled result)) :
    (Resolving.ofExcept result).Ensures files description := by
  cases result with
  | ok value => exact .ofValue holds
  | error cause => exact .fail holds

/-- A result without a dialogue adds nothing to what follows. -/
theorem ofExcept_bind_ensures {α β : Type} {description : Description β} {result : Except Cause α}
    {continuation : α → Resolving β}
    (stops : ∀ cause, result = .error cause → description [] (.error (.failed cause)))
    (goesOn : ∀ value, result = .ok value → (continuation value).Ensures files description) :
    ((Resolving.ofExcept result).bind continuation).Ensures files description := by
  cases result with
  | ok value => exact goesOn value rfl
  | error cause => exact .fail (stops cause rfl)

theorem lookUp_ensures {description : Description Value} (name : String)
    (found : ∀ value, description [.read name (some value)] (.ok value))
    (missing : description [.read name none] (.error (.failed (.undefinedVariable name)))) :
    (Resolving.lookUp name).Ensures files description := by
  refine .read fun answer => ?_
  cases answer with
  | some value => exact .ofValue (found value)
  | none => exact .fail missing

end Resolving

/-- A request is met by a walk if its value text and its document are. -/
theorem Request.answer_follows (request : Request)
    (texts : ∀ name valueText, request = .assignText name valueText →
      ValueTextFollows loader host files here onValueText valueText)
    (documents : IncludesFollow loader host files here includeText) :
    (request.answer (loader.scopeFor host here.directory includeText) onValueText).Ensures files
      (RequestWalk loader host files here request) := by
  cases request with
  | settled result => exact Resolving.ofExcept_ensures (.settled result)
  | lookUp name => exact Resolving.lookUp_ensures name (.found name) (.missing name)
  | assign name value => exact fun store => .assign name value
  | assignText name valueText =>
      refine .bind (texts name valueText rfl) (fun history stop inner => .textStop inner) ?_
      intro before value inner store
      exact .assignText inner
  | document text =>
      exact .mapError (fun error => rfl) ((documents text).mono fun _ _ inner => .document inner)

/-- A tag is applied by a walk if the value text in its content is resolved by one. -/
theorem applyTag_follows (tag : Tag) (input : Value)
    (texts : ∀ text, input = .string text →
      FollowsWithin loader host files here onValueText text)
    (documents : IncludesFollow loader host files here includeText) :
    ((loader.scopeFor host here.directory includeText).applyTag onValueText tag input).Ensures
      files (RequestWalk loader host files here (.ofTag loader host here.directory tag input)) := by
  rw [← Request.answer_ofTag]
  refine Request.answer_follows _ (fun name valueText asked => ?_) documents
  obtain ⟨-, text, same, assigned⟩ := Request.ofTag_eq_assignText asked
  exact texts text same name valueText assigned

theorem NodeWalk.ne_string {content : Yaml.Node} {history : List Access} {input : Value}
    (walk : NodeWalk loader host files here content history (.ok input))
    (collection : Scope.isCollection content = true) (text : String) : input ≠ .string text := by
  generalize same : (Except.ok input : Except Stop Value) = result at walk
  cases walk with
  | sequence inner =>
      rename_i result
      cases result <;> cases same
      exact nofun
  | mapping inner =>
      rename_i result
      cases result <;> cases same
      exact nofun
  | _ => cases collection

theorem eq_string_of_literal {content : Yaml.Node} {text : String}
    (scalar : Scope.isCollection content = false)
    (literal : Value.ofNode content = .ok (.string text)) : content = .string text := by
  cases content with
  | string other =>
      cases literal
      rfl
  | integer value =>
      simp only [Value.ofNode, Value.ofInteger] at literal
      split at literal <;> cases literal
  | sequence items => cases scalar
  | mapping entries => cases scalar
  | null => cases literal
  | bool value => cases literal
  | float value => cases literal
  | tagged tag inner => cases literal

/-- A tagged node is resolved in document order if its content is. -/
theorem resolveNode_tagged_follows (documents : IncludesFollow loader host files here includeText)
    {name : String} {content : Yaml.Node}
    (texts : content.Each (FollowsWithin loader host files here onValueText))
    (inner : ((loader.scopeFor host here.directory includeText).resolveNode onValueText
      content).Ensures files (NodeWalk loader host files here content)) :
    ((loader.scopeFor host here.directory includeText).resolveNode onValueText
      (.tagged name content)).Ensures files
        (NodeWalk loader host files here (.tagged name content)) := by
  cases known : (loader.scopeFor host here.directory includeText).tags.get? (tagName name) with
  | none =>
      rw [Scope.resolveNode_of_unknown known]
      exact .fail (.unknownTag known)
  | some tag =>
      rw [Scope.resolveNode_of_known known]
      cases collection : Scope.isCollection content with
      | true =>
          refine .bind inner (fun history stop => .contentStop known collection)
            fun before input walk => ?_
          refine .mono (applyTag_follows tag input ?_ documents)
            fun _ _ => .collection known collection walk
          exact fun text same => absurd same (walk.ne_string collection text)
      | false =>
          refine Resolving.ofExcept_bind_ensures
            (fun cause => .noLiteral known collection) fun input literal => ?_
          refine .mono (applyTag_follows tag input ?_ documents)
            fun _ _ => .scalar known collection literal
          rintro text rfl
          rw [eq_string_of_literal collection literal] at texts
          cases texts with
          | string suits => exact suits

mutual

theorem resolveNode_follows (documents : IncludesFollow loader host files here includeText)
    {node : Yaml.Node} (texts : node.Each (FollowsWithin loader host files here onValueText)) :
    ((loader.scopeFor host here.directory includeText).resolveNode onValueText node).Ensures files
      (NodeWalk loader host files here node) := by
  match node with
  | .null => exact .ofValue .null
  | .bool value => exact .ofValue (.bool value)
  | .integer value => exact .ofValue (.integer value)
  | .float value => exact .ofValue (.float value)
  | .string text =>
      cases texts with
      | string suits =>
          rw [Scope.resolveNode_string]
          refine .mono (Request.answer_follows (.ofText text) ?_ documents) fun _ _ => .text
          intro name valueText asked
          exact suits name valueText (Request.ofText_eq_assignText asked)
  | .sequence items =>
      cases texts with
      | sequence each =>
          exact .map (resolveItems_follows documents 0 each) fun _ _ => .sequence
  | .mapping entries =>
      cases texts with
      | mapping keys values =>
          exact .map (resolveEntries_follows documents keys values) fun _ _ => .mapping
  | .tagged name content =>
      cases texts with
      | tagged _ texts =>
          exact resolveNode_tagged_follows documents texts (resolveNode_follows documents texts)

theorem resolveItems_follows (documents : IncludesFollow loader host files here includeText)
    {items : List Yaml.Node} (position : Nat)
    (texts : ∀ item ∈ items, item.Each (FollowsWithin loader host files here onValueText)) :
    ((loader.scopeFor host here.directory includeText).resolveItems onValueText position
      items).Ensures files (ItemsWalk loader host files here items) := by
  match items with
  | [] => exact .ofValue .nil
  | item :: rest =>
      obtain ⟨first, others⟩ := List.forall_mem_cons.mp texts
      refine .bind (.mapError (fun error => rfl) (resolveNode_follows documents first))
        (fun history stop => .stop) fun before value walk => ?_
      exact .map (resolveItems_follows documents (position + 1) others) fun _ _ => .cons walk

theorem resolveEntries_follows (documents : IncludesFollow loader host files here includeText)
    {entries : List (Yaml.Node × Yaml.Node)}
    (keys : ∀ entry ∈ entries, entry.1.Each (FollowsWithin loader host files here onValueText))
    (values : ∀ entry ∈ entries, entry.2.Each (FollowsWithin loader host files here onValueText)) :
    ((loader.scopeFor host here.directory includeText).resolveEntries onValueText
      entries).Ensures files (EntriesWalk loader host files here entries) := by
  match entries with
  | [] => exact .ofValue .nil
  | (keyNode, valueNode) :: rest =>
      obtain ⟨keyHere, keysLater⟩ := List.forall_mem_cons.mp keys
      obtain ⟨valueHere, valuesLater⟩ := List.forall_mem_cons.mp values
      refine .bind (resolveNode_follows documents keyHere)
        (fun history stop => .keyStop) fun before keyValue keyWalk => ?_
      refine Resolving.ofExcept_bind_ensures (fun cause unfit => ?_) fun key fit => ?_
      · rw [List.append_nil]
        exact .noKey keyWalk unfit
      · refine .bind (.mapError (fun error => rfl) (resolveNode_follows documents valueHere))
          (fun history stop => .valueStop keyWalk fit) fun between value valueWalk => ?_
        exact .map (resolveEntries_follows documents keysLater valuesLater)
          fun _ _ => .cons keyWalk fit valueWalk

end

theorem parse_of_taggedNode? {text : String} {node : Yaml.Node}
    (begun : taggedNode? text = some node) : Yaml.Node.parse text.toList = .ok node := by
  obtain ⟨-, found⟩ := Option.ite_none_right_eq_some.mp begun
  split at found
  · rename_i parsed
    cases found
    exact parsed
  · cases found

/-- A value text is resolved as it is written: an implied tag, a tagged node, or a literal. -/
theorem resolveValueTextWith_eq (scope : Scope) (text : String) :
    scope.resolveValueTextWith onValueText text =
      match Implicit.ofText? text with
      | some _ => (Request.ofText text).answer scope onValueText
      | none =>
          match taggedNode? text with
          | some node => scope.resolveNode onValueText node
          | none => .ofValue (literalValue text) := by
  unfold Scope.resolveValueTextWith
  match shaped : Implicit.ofText? text with
  | some (.assignment name valueText) =>
      rw [Request.answer_ofText]
      unfold Scope.resolveText
      rw [shaped]
  | some (.reference name) =>
      rw [Request.answer_ofText]
      unfold Scope.resolveText
      rw [shaped]
  | none =>
      unfold taggedNode? literalValue
      dsimp only
      by_cases begun : text.toList.head? == some '!'
      · rw [if_pos begun, if_pos begun, if_pos begun]
        split <;> simp_all
      · rw [if_neg begun, if_neg begun, if_neg begun]

theorem resolveValueTextWith_follows
    (documents : IncludesFollow loader host files here includeText) {text : String}
    (texts : ∀ inner : String, inner.length ≤ text.length →
      FollowsWithin loader host files here onValueText inner) :
    ValueTextFollows loader host files here
      ((loader.scopeFor host here.directory includeText).resolveValueTextWith onValueText)
      text := by
  unfold ValueTextFollows
  rw [resolveValueTextWith_eq]
  cases shaped : Implicit.ofText? text with
  | some implied =>
      refine .mono (Request.answer_follows (.ofText text) ?_ documents) fun _ _ => .implied shaped
      intro name valueText asked
      exact texts text (Nat.le_refl _) name valueText (Request.ofText_eq_assignText asked)
  | none =>
      cases begun : taggedNode? text with
      | none => exact .ofValue (.literal shaped begun)
      | some node =>
          have fits := Yaml.Node.within_of_parse (parse_of_taggedNode? begun)
          refine .mono (resolveNode_follows documents ?_) fun _ _ => .tagged shaped begun
          exact fits.mono texts

/-- An allowance for the length of a value text is enough for those inside it. -/
theorem resolveValueTextWithin_follows
    (documents : IncludesFollow loader host files here includeText) {allowance : Nat}
    {text : String} (enough : text.length ≤ allowance) :
    ValueTextFollows loader host files here
      ((loader.scopeFor host here.directory includeText).resolveValueTextWithin allowance)
      text := by
  induction allowance generalizing text with
  | zero =>
      have empty : text = "" := String.length_eq_zero_iff.mp (Nat.le_zero.mp enough)
      subst empty
      exact .ofValue (.literal (by decide) (by decide))
  | succ allowance ih =>
      refine resolveValueTextWith_follows documents fun inner fits name valueText assigned => ?_
      have shorter := Implicit.length_of_assignment? assigned
      have inside : valueText.length < text.length := by omega
      unfold ValueTextFollows
      dsimp only
      rw [if_pos inside]
      exact ih (by omega)

theorem resolve_follows (documents : IncludesFollow loader host files here includeText)
    (node : Yaml.Node) :
    ((loader.scopeFor host here.directory includeText).resolve node).Ensures files
      (NodeWalk loader host files here node) := by
  refine resolveNode_follows documents (Yaml.Node.each_of_forall (fun text => ?_) node)
  exact fun name valueText assigned => resolveValueTextWithin_follows documents (Nat.le_refl _)

theorem includeWith_follows {resolveNested : Document → Dialogue ConfigError Value}
    (nested : ∀ document, loader.exceeds? (here.depth + 1) = none →
      (resolveNested document).Ensures files fun history result =>
        NodeWalk loader host files ⟨document.directory, here.depth + 1⟩ document.root history
          result ∨ loader.allowance host ≤ here.depth + 1 ∧ history = [] ∧ result = .error .cutOff) :
    IncludesFollow loader host files here
      (loader.includeWith host resolveNested (here.depth + 1) here.directory) := by
  intro text
  cases named : here.target host text with
  | error failure =>
      rw [Loader.includeWith_of_untold named]
      exact .fail (.nameless named)
  | ok file =>
      rw [Loader.includeWith_of_named named]
      unfold Loader.includeFile
      cases allowed : loader.exceeds? (here.depth + 1) with
      | some limit => exact .fail (.tooDeep named allowed)
      | none =>
          refine .openFile ?_
          change (Dialogue.bind (.ofValue (files file)) _).Ensures files _
          rw [Dialogue.ofValue_bind]
          cases read : files file with
          | error failure => exact .fail (.unreadable named allowed read)
          | ok content =>
              change (Dialogue.bind (.ofExcept (Document.parse content (some file))) _).Ensures
                files _
              cases parsed : Document.parse content (some file) with
              | error error => exact .fail (.malformed named allowed read parsed)
              | ok document =>
                  refine .mono (nested document allowed) ?_
                  rintro history result (inner | ⟨deep, rfl, rfl⟩)
                  · exact .nested named allowed read parsed inner
                  · exact .cutOff named allowed read parsed deep

theorem resolveWithin_follows {allowance depth : Nat}
    (reached : allowance + depth = loader.allowance host) (document : Document) :
    (loader.resolveWithin host allowance depth document).Ensures files fun history result =>
      NodeWalk loader host files ⟨document.directory, depth⟩ document.root history result ∨
        loader.allowance host ≤ depth ∧ history = [] ∧ result = .error .cutOff := by
  induction allowance generalizing depth document with
  | zero => exact .unfinished (.inr ⟨by omega, rfl, rfl⟩)
  | succ allowance ih =>
      let here : Standpoint := ⟨document.directory, depth⟩
      have documents : IncludesFollow loader host files here
          (loader.includeWith host (loader.resolveWithin host allowance (depth + 1)) (depth + 1)
            document.directory) :=
        includeWith_follows fun nested _ => ih (by omega) nested
      have walked := resolve_follows documents document.root
      exact .mapError (fun error => rfl) (walked.mono fun _ _ => .inl)

/-- A run on a document is a walk from the document's own standpoint. -/
theorem resolveDocument_follows (document : Document) :
    (loader.resolveDocument host document).Ensures files
      (NodeWalk loader host files ⟨document.directory, 0⟩ document.root) := by
  refine .mono (resolveWithin_follows (Nat.add_zero _) document) ?_
  rintro history result (walk | ⟨deep, -⟩)
  · exact walk
  · exact absurd deep (Nat.not_le.mpr (loader.allowance_pos host))

/-- A source is read without any access to variables. -/
theorem Source.document_bind_ensures {source : Source} {description : Description Value}
    {continuation : Document → Dialogue ConfigError Value}
    (stops : ∀ error, source.read files = .error error →
      description [] (.error (.failed error.cause)))
    (goesOn : ∀ document, source.read files = .ok document →
      (continuation document).Ensures files description) :
    (source.document.bind continuation).Ensures files description := by
  have settled {result : Except ConfigError Document} (same : source.read files = result) :
      ((Dialogue.ofExcept result).bind continuation).Ensures files description := by
    cases result with
    | ok document => exact goesOn document same
    | error error => exact .fail (stops error same)
  cases source with
  | text content => exact settled rfl
  | file path =>
      refine .openFile ?_
      unfold Source.read Source.content at settled
      dsimp only at settled
      cases opened : files path with
      | ok content =>
          rw [opened] at settled
          exact settled rfl
      | error failure =>
          rw [opened] at settled
          exact settled rfl
  | stream bytes name =>
      unfold Source.document
      unfold Source.read Source.content at settled
      dsimp only at settled ⊢
      cases streamed : bytes.text with
      | ok content =>
          rw [streamed] at settled
          exact settled rfl
      | error failure =>
          rw [streamed] at settled
          exact settled rfl

theorem load_follows (source : Source) :
    (loader.load host source).Ensures files (LoadWalk loader host files source) :=
  source.document_bind_ensures (fun _ => .unread) fun document read =>
    .mono (resolveDocument_follows document) fun _ _ => .document read

end TaggedConfig
