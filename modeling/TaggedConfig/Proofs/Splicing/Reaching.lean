import TaggedConfig.Proofs.SideBySide

/-!
# Tags that a tree reaches

Resolving a tree applies the tags of its nodes and those in its value texts.  A tree that reaches only
tags that ask for the same in two scopes is resolved alike in both; so a tree that reaches no tag that
depends on the place of its document has one value wherever it stands.
-/

namespace TaggedConfig

mutual

/-- Resolving a node meets one of some tags. -/
inductive NodeReaches (wanted : List String) : Yaml.Node → Prop
  | tag {name : String} {content : Yaml.Node} (found : tagName name ∈ wanted) :
      NodeReaches wanted (.tagged name content)
  | collection {name : String} {content : Yaml.Node}
      (collection : Scope.isCollection content = true) (inner : NodeReaches wanted content) :
      NodeReaches wanted (.tagged name content)
  /-- A scalar is assigned by its tag. -/
  | stored {name text assignee valueText : String} (store : tagName name = Tag.store.name)
      (assigned : Implicit.assignment? text = some (assignee, valueText))
      (inner : TextReaches wanted valueText) : NodeReaches wanted (.tagged name (.string text))
  | text {text assignee valueText : String}
      (assigned : Implicit.assignment? text = some (assignee, valueText))
      (inner : TextReaches wanted valueText) : NodeReaches wanted (.string text)
  | item {items : List Yaml.Node} {item : Yaml.Node} (member : item ∈ items)
      (inner : NodeReaches wanted item) : NodeReaches wanted (.sequence items)
  | key {entries : List (Yaml.Node × Yaml.Node)} {entry : Yaml.Node × Yaml.Node}
      (member : entry ∈ entries) (inner : NodeReaches wanted entry.1) :
      NodeReaches wanted (.mapping entries)
  | value {entries : List (Yaml.Node × Yaml.Node)} {entry : Yaml.Node × Yaml.Node}
      (member : entry ∈ entries) (inner : NodeReaches wanted entry.2) :
      NodeReaches wanted (.mapping entries)

/-- Resolving the text behind an arrow meets one of some tags. -/
inductive TextReaches (wanted : List String) : String → Prop
  | assigned {text assignee valueText : String}
      (assigned : Implicit.assignment? text = some (assignee, valueText))
      (inner : TextReaches wanted valueText) : TextReaches wanted text
  | tagged {text : String} {node : Yaml.Node} (ordinary : Implicit.ofText? text = none)
      (begun : taggedNode? text = some node) (inner : NodeReaches wanted node) :
      TextReaches wanted text

end

/-- The names of the tags that depend on the place of their document. -/
def placedTags : List String := [Tag.includeFile.name, Tag.absPath.name, Tag.absPathJoin.name]

/-- A request that names no document is met alike if its value text is resolved alike. -/
theorem Request.answer_congr {request : Request} {firstScope secondScope : Scope}
    {first second : Scope.OnValueText} (noDocument : ∀ text, request ≠ .document text)
    (texts : ∀ name valueText, request = .assignText name valueText →
      first valueText = second valueText) :
    request.answer firstScope first = request.answer secondScope second :=
  Scope.answer_related .eq (fun _ _ => rfl) texts fun text asked => absurd asked (noDocument text)

/--
Two loaders know the same tags, and at two places all but some of these ask for the same.  A document is
asked for by none of the others.
-/
structure Loader.AsksAlike (apartFrom : List String) (host : Surroundings) (first second : Loader)
    (firstPlace secondPlace : Path) : Prop where
  tags : first.tags = second.tags
  asks : ∀ tag input, tag.name ∉ apartFrom →
    Request.ofTag first host firstPlace tag input = Request.ofTag second host secondPlace tag input
  documents : Tag.includeFile.name ∈ apartFrom

section

variable {apartFrom : List String} {firstLoader secondLoader : Loader} {host : Surroundings}
  {firstPlace secondPlace : Path} {firstInclude secondInclude : String → Dialogue ConfigError Value}
  {first second : Scope.OnValueText}

theorem applyTag_congr
    (alike : Loader.AsksAlike apartFrom host firstLoader secondLoader firstPlace secondPlace)
    {tag : Tag} {input : Value} (other : tag.name ∉ apartFrom)
    (texts : ∀ text name valueText, tag = .store → input = .string text →
      Implicit.assignment? text = some (name, valueText) → first valueText = second valueText) :
    (firstLoader.scopeFor host firstPlace firstInclude).applyTag first tag input =
      (secondLoader.scopeFor host secondPlace secondInclude).applyTag second tag input := by
  rw [← Request.answer_ofTag, ← Request.answer_ofTag, ← alike.asks tag input other]
  refine Request.answer_congr (fun text asked => ?_) fun name valueText asked => ?_
  · rw [Request.ofTag_eq_document asked] at other
    exact other alike.documents
  · obtain ⟨isStore, text, same, assigned⟩ := Request.ofTag_eq_assignText asked
    exact texts text name valueText isStore same assigned

/-- Trees and value texts that reach none of some tags are resolved alike, side by side. -/
theorem alongside_apart
    (alike : Loader.AsksAlike apartFrom host firstLoader secondLoader firstPlace secondPlace) :
    Scope.Alongside (fun _ first second => first = second) (¬NodeReaches apartFrom ·)
      (¬TextReaches apartFrom ·) (firstLoader.scopeFor host firstPlace firstInclude)
      (secondLoader.scopeFor host secondPlace secondInclude) where
  compatible := .eq
  hereditary :=
    { item := fun apart item member inner => apart (.item member inner)
      key := fun apart entry member inner => apart (.key member inner)
      value := fun apart entry member inner => apart (.value member inner) }
  implied apart _ inner := by
    cases inner with
    | text assigned inside => exact apart (.assigned assigned inside)
  begun apart ordinary begun inner := apart (.tagged ordinary begun inner)
  text texts text apart := by
    refine Request.answer_congr (Request.ofText_ne_document text) fun name valueText asked => ?_
    refine texts valueText fun inner => apart ?_
    exact .text (Request.ofText_eq_assignText asked) inner
  tagged texts name content apart inner := by
    have same : secondLoader.tags.get? (tagName name) = firstLoader.tags.get? (tagName name) := by
      rw [alike.tags]
    cases known : firstLoader.tags.get? (tagName name) with
    | none =>
        rw [Scope.resolveNode_of_unknown known, Scope.resolveNode_of_unknown (same.trans known)]
    | some tag =>
        have named := TagTable.name_of_get? known
        have other : tag.name ∉ apartFrom := fun found => apart (.tag (named ▸ found))
        refine Scope.resolveNode_tagged_congr known (same.trans known) (fun collection => ?_) ?_
        · exact inner fun inside => apart (.collection collection inside)
        · intro input written
          refine applyTag_congr alike other fun text _ valueText isStore isText assigned => ?_
          subst isStore
          rw [written text isText] at apart
          exact texts valueText fun inside => apart (.stored named.symm assigned inside)

/-- A tree that reaches none of some tags is resolved alike if all others ask for the same. -/
theorem resolve_congr
    (alike : Loader.AsksAlike apartFrom host firstLoader secondLoader firstPlace secondPlace)
    {node : Yaml.Node} (apart : ¬NodeReaches apartFrom node) :
    (firstLoader.scopeFor host firstPlace firstInclude).resolve node =
      (secondLoader.scopeFor host secondPlace secondInclude).resolve node :=
  Scope.resolve_related (alongside_apart alike) apart

theorem Loader.asksAlike_placed (loader : Loader) (host : Surroundings)
    (firstPlace secondPlace : Path) :
    AsksAlike placedTags host loader loader firstPlace secondPlace where
  tags := rfl
  asks tag input unplaced := by
    cases tag with
    | absPath => exact absurd (by decide) unplaced
    | absPathJoin => exact absurd (by decide) unplaced
    | _ => rfl
  documents := by decide

/-- A tree that reaches no such tag has one value at two places. -/
theorem resolve_apart {loader : Loader} {node : Yaml.Node} (apart : ¬NodeReaches placedTags node) :
    (loader.scopeFor host firstPlace firstInclude).resolve node =
      (loader.scopeFor host secondPlace secondInclude).resolve node :=
  resolve_congr (loader.asksAlike_placed host firstPlace secondPlace) apart

end

end TaggedConfig
