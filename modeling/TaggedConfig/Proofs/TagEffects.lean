import Mathlib
import TaggedConfig.Proofs.Failing.Obstacles

/-!
# What tags do to variables

A tag receives its collection resolved, once and before anything else.  Of itself it assigns at most one
variable, and only one tag does; all other accesses are those of the collection.  What a tag does with
a scalar is as little, unless it is a tag that is made for it.
-/

namespace TaggedConfig

/-- What a tag assigns of its own behind a collection: the second of two items under the first. -/
def Tag.ownAssignment (tag : Tag) : Except Stop Value → List Access
  | .ok (.sequence [name, value]) =>
      if tag = .store then name.key?.toList.map (Access.assign · value) else []
  | _ => []

/-- The tags that are made for access to variables or documents. -/
def Tag.accessing : List Tag := [.store, .load, .includeFile]

/-- The assignments of accesses behind others are made last. -/
theorem Store.assignAll_append (store : Store) (before after : List Access) :
    store.assignAll (Access.assignments (before ++ after)) =
      (store.assignAll (Access.assignments before)).assignAll (Access.assignments after) := by
  rw [Access.assignments_append]
  exact List.foldl_append

namespace Request

variable {tag : Tag} {input : Value}

/-- Most tags need nothing but their content. -/
theorem ofTag_settled (loader : Loader) (host : Surroundings) (directory : Path)
    (other : tag ∉ Tag.accessing) (input : Value) :
    ∃ result, ofTag loader host directory tag input = .settled result := by
  cases tag with
  | store => exact absurd (by decide) other
  | load => exact absurd (by decide) other
  | includeFile => exact absurd (by decide) other
  | dateTime => exact ⟨_, rfl⟩
  | product => exact ⟨_, rfl⟩
  | sum => exact ⟨_, rfl⟩
  | join => exact ⟨_, rfl⟩
  | pathJoin => exact ⟨_, rfl⟩
  | absPath => exact ⟨_, rfl⟩
  | absPathJoin => exact ⟨_, rfl⟩
  | switchCommand => exact ⟨_, rfl⟩

theorem scalarText_of_collection (tag : Tag) (collection : input.key? = none) :
    tag.scalarText input = .error (tag.mismatch (.noScalar input.kind)) := by
  cases input with
  | sequence items => rfl
  | mapping entries => rfl
  | _ => cases collection

/-- Only one tag assigns a variable that a collection names, and it does so at once. -/
theorem ofStore_of_collection (collection : input.key? = none) :
    (∃ result, ofStore input = .settled result ∧ Tag.store.ownAssignment (.ok input) = []) ∨
      ∃ key value, ofStore input = .assign key value ∧
        Tag.store.ownAssignment (.ok input) = [.assign key value] := by
  match input with
  | .sequence [name, value] =>
      simp only [ofStore, Tag.ownAssignment, if_pos]
      match name.key? with
      | some key => exact .inr ⟨key, value, rfl, rfl⟩
      | none => exact .inl ⟨_, rfl, rfl⟩
  | .sequence [] => exact .inl ⟨_, rfl, rfl⟩
  | .sequence [_] => exact .inl ⟨_, rfl, rfl⟩
  | .sequence (_ :: _ :: _ :: _) => exact .inl ⟨_, rfl, rfl⟩
  | .mapping _ => exact .inl ⟨_, rfl, rfl⟩

/-- With a collection, a tag needs nothing else or assigns a variable. -/
theorem ofTag_of_collection (loader : Loader) (host : Surroundings) (directory : Path) (tag : Tag)
    (collection : input.key? = none) :
    (∃ result, ofTag loader host directory tag input = .settled result ∧
        tag.ownAssignment (.ok input) = []) ∨
      ∃ key value, ofTag loader host directory tag input = .assign key value ∧
        tag.ownAssignment (.ok input) = [.assign key value] := by
  have none (different : tag ≠ .store) : tag.ownAssignment (.ok input) = [] := by
    unfold Tag.ownAssignment
    split
    · exact if_neg different
    · rfl
  by_cases accessing : tag ∈ Tag.accessing
  · cases tag with
    | store => exact ofStore_of_collection collection
    | load =>
        refine .inl ⟨.error (Tag.load.mismatch (.noScalar input.kind)), ?_, none nofun⟩
        simp only [ofTag, ofLoad, scalarText_of_collection _ collection]
    | includeFile =>
        refine .inl ⟨.error (Tag.includeFile.mismatch (.noScalar input.kind)), ?_, none nofun⟩
        simp only [ofTag, ofInclude, scalarText_of_collection _ collection]
    | _ => exact absurd accessing (by decide)
  · obtain ⟨result, settled⟩ := ofTag_settled loader host directory accessing input
    refine .inl ⟨result, settled, none ?_⟩
    rintro rfl
    exact accessing (by decide)

theorem history_settled (scope : Scope) (onValueText : Scope.OnValueText) (files : Dialogue.Files)
    (store : Store) (result : Except Cause Value) :
    ((Request.settled result).answer scope onValueText).history files store = [] := by
  cases result with
  | ok value => rfl
  | error cause => rfl

end Request

theorem key?_of_yields {scope : Scope} {onValueText : Scope.OnValueText} {content : Yaml.Node}
    {files : Dialogue.Files} {store left : Store} {input : Value}
    (collection : Scope.isCollection content = true)
    (yields : (scope.resolveNode onValueText content).Yields files store input left) :
    input.key? = none := by
  cases content with
  | sequence items =>
      obtain ⟨values, middle, -, done⟩ := Dialogue.exists_of_yields_bind yields
      cases done
      rfl
  | mapping entries =>
      obtain ⟨list, middle, -, done⟩ := Dialogue.exists_of_yields_bind yields
      cases done
      rfl
  | _ => cases collection

theorem Dialogue.yields_of_ending {ε α : Type} [HasCause ε] {dialogue : Dialogue ε α}
    {files : Files} {store : Store} {value : α}
    (ended : ending (dialogue.run files store).1 = .ok value) :
    dialogue.Yields files store value (dialogue.run files store).2 := by
  refine Prod.ext ?_ rfl
  match ran : (dialogue.run files store).1 with
  | some (.ok result) =>
      rw [ran] at ended
      cases ended
      rfl
  | some (.error error) =>
      rw [ran] at ended
      cases ended
  | none =>
      rw [ran] at ended
      cases ended

/-- A sequence whose first part stops is that part. -/
theorem Dialogue.run_bind_of_stop {ε α : Type} [HasCause ε] {dialogue : Dialogue ε α}
    {files : Files} {store : Store} {stop : Stop}
    (ended : ending (dialogue.run files store).1 = .error stop)
    (continuation : α → Dialogue ε α) :
    (dialogue.bind continuation).run files store = dialogue.run files store := by
  rw [run_bind]
  match ran : dialogue.run files store with
  | (some (.ok value), left) =>
      rw [ran] at ended
      cases ended
  | (some (.error error), left) => rfl
  | (none, left) => rfl

section

variable {loader : Loader} {host : Surroundings} {here : Standpoint} {name : String} {tag : Tag}
  {content : Yaml.Node}

theorem resolve_tagged (known : loader.tags.get? (tagName name) = some tag) :
    (here.scope loader host).resolve (.tagged name content) =
      ((here.scope loader host).content content).bind fun input =>
        (Request.ofTag loader host here.directory tag input).answer (here.scope loader host)
          (here.scope loader host).resolveValueText := by
  have found : (here.scope loader host).tags.get? (tagName name) = some tag := known
  rw [Scope.resolve_of_known found]
  congr 1
  funext input
  exact (Request.answer_ofTag ..).symm

/-- A tag adds its own assignment to the accesses of its collection. -/
theorem history_tagged (host : Surroundings) (here : Standpoint)
    (known : loader.tags.get? (tagName name) = some tag)
    (collection : Scope.isCollection content = true) (files : Dialogue.Files) (store : Store) :
    ((here.scope loader host).resolve (.tagged name content)).history files store =
      ((here.scope loader host).resolve content).history files store ++
        tag.ownAssignment
          (ending (((here.scope loader host).resolve content).run files store).1) := by
  rw [resolve_tagged known, Scope.content, if_pos collection, Dialogue.history_bind]
  congr 1
  cases ended : ending (((here.scope loader host).resolve content).run files store).1 with
  | error stop => rfl
  | ok input =>
      have isCollection : input.key? = none :=
        key?_of_yields collection (Dialogue.yields_of_ending ended)
      rcases Request.ofTag_of_collection loader host here.directory tag isCollection with
        ⟨result, asked, nothing⟩ | ⟨key, value, asked, own⟩
      · simp only [asked, nothing, Request.history_settled]
      · simp only [asked, own]
        rfl

theorem history_tagged_scalar (host : Surroundings) (here : Standpoint)
    (known : loader.tags.get? (tagName name) = some tag) (other : tag ∉ Tag.accessing)
    (scalar : Scope.isCollection content = false) (files : Dialogue.Files) (store : Store) :
    ((here.scope loader host).resolve (.tagged name content)).history files store = [] := by
  rw [resolve_tagged known, Scope.content, scalar]
  cases Value.ofNode content with
  | error cause => rfl
  | ok input =>
      obtain ⟨result, asked⟩ := Request.ofTag_settled loader host here.directory other input
      change ((Request.ofTag loader host here.directory tag input).answer _ _).history files store =
        []
      rw [asked]
      exact Request.history_settled _ _ files store result

end

/--
What a tag does to the variables.  With a collection it makes the accesses of the collection, and the
one assignment of its own if there is one; it fails as the collection does.  A tag that is not known
fails without anything below it being resolved.  Most tags with a scalar make no access at all.
-/
theorem Loader.effects_of_tag (loader : Loader) (host : Surroundings) (files : Dialogue.Files)
    (here : Standpoint) (store : Store) (name : String) (content : Yaml.Node) :
    let tagged := (here.scope loader host).resolve (.tagged name content)
    let untagged := (here.scope loader host).resolve content
    (∀ tag, loader.tags.get? (tagName name) = some tag → Scope.isCollection content = true →
      let own := tag.ownAssignment (ending (untagged.run files store).1)
      tagged.history files store = untagged.history files store ++ own ∧
      (tagged.run files store).2 =
        (untagged.run files store).2.assignAll (Access.assignments own) ∧
      ∀ stop, ending (untagged.run files store).1 = .error stop →
        tagged.run files store = untagged.run files store) ∧
    (loader.tags.get? (tagName name) = none →
      tagged.history files store = [] ∧
      tagged.run files store =
        (some (.error (Failure.here (.unknownTag (tagName name)))), store)) ∧
    (∀ tag, loader.tags.get? (tagName name) = some tag → tag ∉ Tag.accessing →
      Scope.isCollection content = false →
        tagged.history files store = [] ∧ (tagged.run files store).2 = store) := by
  intro tagged untagged
  refine ⟨fun tag known collection => ?_, fun unknown => ?_, fun tag known other scalar => ?_⟩
  · have happened := history_tagged host here known collection files store
    refine ⟨happened, ?_, fun stop ended => ?_⟩
    · rw [Dialogue.run_store, Dialogue.run_store, happened, Store.assignAll_append]
    · have bound : tagged = untagged.bind fun input =>
          (Request.ofTag loader host here.directory tag input).answer (here.scope loader host)
            (here.scope loader host).resolveValueText := by
        refine (resolve_tagged known).trans ?_
        rw [Scope.content, if_pos collection]
      rw [bound]
      exact Dialogue.run_bind_of_stop ended _
  · have fails : tagged = .fail (.unknownTag (tagName name)) := by
      have missing : (here.scope loader host).tags.get? (tagName name) = none := unknown
      exact Scope.resolveNode_of_unknown missing
    rw [fails]
    exact ⟨rfl, rfl⟩
  · have happened := history_tagged_scalar host here known other scalar files store
    refine ⟨happened, ?_⟩
    rw [Dialogue.run_store, happened]
    rfl

/--
A pair of stores in a collection, one tag around it: the two assignments inside are all that a tag
leaves which fails, and the tag that assigns adds a third.  A tag that is not known leaves none.  A
text like a reference means nothing behind a tag that joins paths.
-/
theorem Loader.effects_of_tag_of_assignments :
    let here : Standpoint := ⟨⟨"."⟩, 0⟩
    let scope := here.scope basic .atRoot
    let pair : Yaml.Node := .sequence
      [.tagged "!store" (.sequence [.string "a", .integer 1]),
        .tagged "!store" (.sequence [.string "b", .integer 1])]
    (scope.resolve (.tagged "!sum" pair)).history Dialogue.noFiles .empty =
        [.assign "a" (.integer 1), .assign "b" (.integer 1)] ++ [] ∧
      (scope.resolve (.tagged "!store" pair)).history Dialogue.noFiles .empty =
        [.assign "a" (.integer 1), .assign "b" (.integer 1)] ++ [.assign "1" (.integer 1)] ∧
      ((scope.resolve (.tagged "!switchcmd" pair)).run Dialogue.noFiles .empty).2 = .empty ∧
      (scope.resolve (.tagged "!pathjoin" (.string "$a"))).history Dialogue.noFiles .empty = [] := by
  intro here scope pair
  have inner : (scope.resolve pair).history Dialogue.noFiles .empty =
      [.assign "a" (.integer 1), .assign "b" (.integer 1)] := by
    cbv
  have ended : ending ((scope.resolve pair).run Dialogue.noFiles .empty).1 =
      .ok (.sequence [.integer 1, .integer 1]) := by
    have ran : ((scope.resolve pair).run Dialogue.noFiles .empty).1 =
        some (.ok (.sequence [.integer 1, .integer 1])) := by
      cbv
    rw [ran]
    rfl
  have effects := effects_of_tag basic .atRoot Dialogue.noFiles here .empty
  refine ⟨?_, ?_, ?_, ?_⟩
  · obtain ⟨happened, -, -⟩ := (effects "!sum" pair).1 .sum (by decide) rfl
    rw [happened, inner, ended]
    rfl
  · obtain ⟨happened, -, -⟩ := (effects "!store" pair).1 .store (by decide) rfl
    rw [happened, inner, ended]
    cbv
  · obtain ⟨-, ran⟩ := (effects "!switchcmd" pair).2.1 (by decide)
    exact congrArg Prod.snd ran
  · exact ((effects "!pathjoin" (.string "$a")).2.2 .pathJoin (by decide) (by decide) rfl).1

end TaggedConfig
