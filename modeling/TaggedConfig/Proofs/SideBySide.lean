import TaggedConfig.Proofs.DocumentOrder.Soundness

/-!
# Resolutions side by side

A tree can be resolved in two scopes, and with two ways to resolve its value texts.  A relation that is
kept from one part of a resolution to the next holds of the whole tree if it holds at the texts and the
tags, which are all that the scopes are asked for.  A property of one resolution is a relation that
leaves the other one out of account.
-/

namespace TaggedConfig

/-- What two parts of resolutions have in common, whatever they yield. -/
abbrev Resolving.Relation := (α : Type) → Resolving α → Resolving α → Prop

/-- A relation holds of what depends on nothing, and is kept one step further inside and behind. -/
structure Resolving.Compatible (related : Relation) : Prop where
  ofExcept {α : Type} (result : Except Cause α) : related α (.ofExcept result) (.ofExcept result)
  lookUp (name : String) : related Value (.lookUp name) (.lookUp name)
  under {α : Type} {first second : Resolving α} (segment : Segment)
    (same : related α first second) : related α (first.under segment) (second.under segment)
  bind {α β : Type} {first second : Resolving α} {next otherNext : α → Resolving β}
    (same : related α first second) (later : ∀ value, related β (next value) (otherNext value)) :
    related β (first.bind next) (second.bind otherNext)

theorem Resolving.Compatible.eq : Compatible fun _ first second => first = second where
  ofExcept _ := rfl
  lookUp _ := rfl
  under segment same := congrArg (Resolving.under segment) same
  bind same later := by
    subst same
    exact congrArg _ (funext later)

/-- What is resolved inside a tree that suits suits too; the content of a tag is left to the tag. -/
structure Yaml.Node.Hereditary (suits : Yaml.Node → Prop) : Prop where
  item {items : List Yaml.Node} (whole : suits (.sequence items)) : ∀ item ∈ items, suits item
  key {entries : List (Yaml.Node × Yaml.Node)} (whole : suits (.mapping entries)) :
    ∀ entry ∈ entries, suits entry.1
  value {entries : List (Yaml.Node × Yaml.Node)} (whole : suits (.mapping entries)) :
    ∀ entry ∈ entries, suits entry.2

theorem Yaml.Node.Hereditary.all : Hereditary fun _ => True where
  item _ _ _ := trivial
  key _ _ _ := trivial
  value _ _ _ := trivial

theorem Yaml.Node.Hereditary.each (suits : String → Prop) : Hereditary (Each suits) where
  item
    | .sequence each => each
  key
    | .mapping keys _ => keys
  value
    | .mapping _ values => values

namespace Scope

/--
A relation holds at the texts and the tags of the trees that suit, if it holds of the value texts that
suit; and these have only such trees and texts inside them.
-/
structure Alongside (related : Resolving.Relation) (suits : Yaml.Node → Prop)
    (suitsText : String → Prop) (firstScope secondScope : Scope) : Prop where
  compatible : Resolving.Compatible related
  hereditary : Yaml.Node.Hereditary suits
  implied {text : String} {implied : Implicit} (suited : suitsText text)
    (shaped : Implicit.ofText? text = some implied) : suits (.string text)
  begun {text : String} {node : Yaml.Node} (suited : suitsText text)
    (ordinary : Implicit.ofText? text = none) (begun : taggedNode? text = some node) : suits node
  text {first second : OnValueText}
    (texts : ∀ inner, suitsText inner → related Value (first inner) (second inner)) {text : String}
    (suited : suits (.string text)) :
    related Value ((Request.ofText text).answer firstScope first)
      ((Request.ofText text).answer secondScope second)
  tagged {first second : OnValueText}
    (texts : ∀ inner, suitsText inner → related Value (first inner) (second inner)) {name : String}
    {content : Yaml.Node} (suited : suits (.tagged name content))
    (inner : suits content →
      related Value (firstScope.resolveNode first content) (secondScope.resolveNode second content)) :
    related Value (firstScope.resolveNode first (.tagged name content))
      (secondScope.resolveNode second (.tagged name content))

variable {related : Resolving.Relation} {suits : Yaml.Node → Prop} {suitsText : String → Prop}
  {firstScope secondScope : Scope} {first second : OnValueText}

/-- Requests are related if the value texts and the documents are that they ask for. -/
theorem answer_related (compatible : Resolving.Compatible related)
    (assigns : ∀ name value, related Value (.assign name value) (.assign name value))
    {request : Request}
    (texts : ∀ name valueText, request = .assignText name valueText →
      related Value (first valueText) (second valueText))
    (documents : ∀ text, request = .document text →
      related Value ((Request.document text).answer firstScope first)
        ((Request.document text).answer secondScope second)) :
    related Value (request.answer firstScope first) (request.answer secondScope second) := by
  cases request with
  | settled result => exact compatible.ofExcept result
  | lookUp name => exact compatible.lookUp name
  | assign name value => exact assigns name value
  | assignText name valueText => exact compatible.bind (texts name valueText rfl) (assigns name)
  | document text => exact documents text rfl

mutual

theorem resolveNode_related (alongside : Alongside related suits suitsText firstScope secondScope)
    (texts : ∀ text, suitsText text → related Value (first text) (second text)) {node : Yaml.Node}
    (suited : suits node) :
    related Value (firstScope.resolveNode first node) (secondScope.resolveNode second node) := by
  have compatible := alongside.compatible
  match node with
  | .null => exact compatible.ofExcept (.ok _)
  | .bool value => exact compatible.ofExcept (.ok _)
  | .integer value => exact compatible.ofExcept (.ok _)
  | .float value => exact compatible.ofExcept (.ok _)
  | .string text =>
      rw [resolveNode_string, resolveNode_string]
      exact alongside.text texts suited
  | .sequence items =>
      have each := resolveItems_related alongside texts 0 (alongside.hereditary.item suited)
      exact compatible.bind each fun values => compatible.ofExcept (.ok _)
  | .mapping entries =>
      have each := resolveEntries_related alongside texts (alongside.hereditary.key suited)
        (alongside.hereditary.value suited)
      exact compatible.bind each fun list => compatible.ofExcept (.ok _)
  | .tagged name content =>
      exact alongside.tagged texts suited fun inner => resolveNode_related alongside texts inner

theorem resolveItems_related (alongside : Alongside related suits suitsText firstScope secondScope)
    (texts : ∀ text, suitsText text → related Value (first text) (second text))
    {items : List Yaml.Node} (position : Nat) (suited : ∀ item ∈ items, suits item) :
    related (List Value) (firstScope.resolveItems first position items)
      (secondScope.resolveItems second position items) := by
  have compatible := alongside.compatible
  match items with
  | [] => exact compatible.ofExcept (.ok [])
  | item :: rest =>
      obtain ⟨here, later⟩ := List.forall_mem_cons.mp suited
      have one := compatible.under (.index position) (resolveNode_related alongside texts here)
      have others := resolveItems_related alongside texts (position + 1) later
      refine compatible.bind one fun value => ?_
      exact compatible.bind others fun values => compatible.ofExcept (.ok _)

theorem resolveEntries_related (alongside : Alongside related suits suitsText firstScope secondScope)
    (texts : ∀ text, suitsText text → related Value (first text) (second text))
    {entries : List (Yaml.Node × Yaml.Node)} (keys : ∀ entry ∈ entries, suits entry.1)
    (values : ∀ entry ∈ entries, suits entry.2) :
    related (List (String × Value)) (firstScope.resolveEntries first entries)
      (secondScope.resolveEntries second entries) := by
  have compatible := alongside.compatible
  match entries with
  | [] => exact compatible.ofExcept (.ok [])
  | (keyNode, valueNode) :: rest =>
      obtain ⟨keyHere, keysLater⟩ := List.forall_mem_cons.mp keys
      obtain ⟨valueHere, valuesLater⟩ := List.forall_mem_cons.mp values
      have others := resolveEntries_related alongside texts keysLater valuesLater
      refine compatible.bind (resolveNode_related alongside texts keyHere) fun keyValue => ?_
      refine compatible.bind (compatible.ofExcept keyValue.asKey) fun key => ?_
      have one := compatible.under (.key key) (resolveNode_related alongside texts valueHere)
      refine compatible.bind one fun value => ?_
      exact compatible.bind others fun list => compatible.ofExcept (.ok _)

end

/-- What follows a result is told apart only by its value. -/
theorem ofExcept_bind_congr {α β : Type} {result : Except Cause α}
    {firstNext secondNext : α → Resolving β}
    (same : ∀ value, result = .ok value → firstNext value = secondNext value) :
    (Resolving.ofExcept result).bind firstNext = (Resolving.ofExcept result).bind secondNext := by
  cases result with
  | ok value => exact same value rfl
  | error cause => rfl

/-- What follows a collection is told apart only by values that are no texts. -/
theorem collection_bind_congr {scope : Scope} {onValueText : OnValueText} {content : Yaml.Node}
    {firstNext secondNext : Value → Resolving Value} (collection : isCollection content = true)
    (same : ∀ input, (∀ text, input ≠ .string text) → firstNext input = secondNext input) :
    (scope.resolveNode onValueText content).bind firstNext =
      (scope.resolveNode onValueText content).bind secondNext := by
  cases content with
  | sequence items =>
      unfold Scope.resolveNode
      rw [Dialogue.bind_eq, Dialogue.bind_assoc, Dialogue.bind_assoc]
      congr 1
      funext values
      exact same (.sequence values) nofun
  | mapping entries =>
      unfold Scope.resolveNode
      rw [Dialogue.bind_eq, Dialogue.bind_assoc, Dialogue.bind_assoc]
      congr 1
      funext list
      exact same (.mapping (Entries.ofList list)) nofun
  | _ => cases collection

/--
A tag is resolved alike where it is applied alike to all that its content can be; a text can be only
what is read as a text.
-/
theorem resolveNode_tagged_congr {name : String} {content : Yaml.Node} {tag : Tag}
    (known : firstScope.tags.get? (tagName name) = some tag)
    (alsoKnown : secondScope.tags.get? (tagName name) = some tag)
    (inner : isCollection content = true →
      firstScope.resolveNode first content = secondScope.resolveNode second content)
    (applied : ∀ input, (∀ text, input = .string text → content = .string text) →
      firstScope.applyTag first tag input = secondScope.applyTag second tag input) :
    firstScope.resolveNode first (.tagged name content) =
      secondScope.resolveNode second (.tagged name content) := by
  rw [resolveNode_of_known known, resolveNode_of_known alsoKnown]
  cases collection : isCollection content with
  | true =>
      rw [if_pos rfl, if_pos rfl, inner collection]
      exact collection_bind_congr collection fun input noText =>
        applied input fun text same => absurd same (noText text)
  | false =>
      rw [if_neg Bool.false_ne_true, if_neg Bool.false_ne_true]
      refine ofExcept_bind_congr fun input literal => applied input fun text same => ?_
      subst same
      exact eq_string_of_literal collection literal

theorem resolveValueTextWith_related
    (alongside : Alongside related suits suitsText firstScope secondScope)
    (texts : ∀ inner, suitsText inner → related Value (first inner) (second inner)) {text : String}
    (implied : ∀ implied, Implicit.ofText? text = some implied → suits (.string text))
    (begun : ∀ node, Implicit.ofText? text = none → taggedNode? text = some node → suits node) :
    related Value (firstScope.resolveValueTextWith first text)
      (secondScope.resolveValueTextWith second text) := by
  rw [resolveValueTextWith_eq, resolveValueTextWith_eq]
  cases shaped : Implicit.ofText? text with
  | some shape => exact alongside.text texts (implied shape shaped)
  | none =>
      cases found : taggedNode? text with
      | none => exact alongside.compatible.ofExcept (.ok (literalValue text))
      | some node => exact resolveNode_related alongside texts (begun node shaped found)

/-- Value texts come in by the allowance for them, which both scopes have alike. -/
theorem resolveValueTextWithin_related
    (alongside : Alongside related suits suitsText firstScope secondScope) (allowance : Nat)
    {text : String} (suited : suitsText text) :
    related Value (firstScope.resolveValueTextWithin allowance text)
      (secondScope.resolveValueTextWithin allowance text) := by
  have settled (value : Value) : related Value (.ofValue value) (.ofValue value) :=
    alongside.compatible.ofExcept (.ok value)
  induction allowance generalizing text with
  | zero => exact settled (.string text)
  | succ allowance ih =>
      have texts (inner : String) (inside : suitsText inner) :
          related Value
            (if inner.length < text.length then firstScope.resolveValueTextWithin allowance inner
              else .ofValue (.string inner))
            (if inner.length < text.length then secondScope.resolveValueTextWithin allowance inner
              else .ofValue (.string inner)) := by
        split
        · exact ih inside
        · exact settled (.string inner)
      exact resolveValueTextWith_related alongside texts (fun _ => alongside.implied suited)
        fun _ => alongside.begun suited

/-- What is related at the texts and the tags is related at the whole tree. -/
theorem resolve_related (alongside : Alongside related suits suitsText firstScope secondScope)
    {node : Yaml.Node} (suited : suits node) :
    related Value (firstScope.resolve node) (secondScope.resolve node) :=
  resolveNode_related alongside
    (fun text inside => resolveValueTextWithin_related alongside text.length inside) suited

end Scope

end TaggedConfig
