import Mathlib
import TaggedConfig.Proofs.Failing.Place
import TaggedConfig.Proofs.PlainTrees
import TaggedConfig.Proofs.Recursion

/-!
# Obstacles that a resolution meets

A run that fails with a trail has met an obstacle at this trail, with the store that the walk has
there.  Value texts get shorter inside each other, so that the walk through a tree can rely on theirs.
-/

namespace TaggedConfig

namespace Dialogue

variable {ε δ α β : Type} {files : Files}

/-- A sequence fails in its first part, or behind the value of that part. -/
theorem run_bind_error {dialogue : Dialogue ε α} {continuation : α → Dialogue ε β}
    {store left : Store} {error : ε}
    (failed : (dialogue.bind continuation).run files store = (some (.error error), left)) :
    dialogue.run files store = (some (.error error), left) ∨
      ∃ value middle, dialogue.Yields files store value middle ∧
        (continuation value).run files middle = (some (.error error), left) := by
  rw [run_bind] at failed
  unfold Yields
  cases ran : dialogue.run files store with
  | mk result middle =>
      rw [ran] at failed
      match result with
      | some (.ok value) => exact .inr ⟨value, middle, rfl, failed⟩
      | some (.error first) =>
          cases failed
          exact .inl rfl
      | none => cases failed

/-- A dialogue whose error is changed at the end fails with the changed error. -/
theorem run_mapError_error {dialogue : Dialogue ε α} {change : ε → δ} {store left : Store}
    {error : δ} (failed : (dialogue.mapError change).run files store = (some (.error error), left)) :
    ∃ inner, dialogue.run files store = (some (.error inner), left) ∧ error = change inner := by
  rw [run_mapError] at failed
  cases ran : dialogue.run files store with
  | mk result middle =>
      rw [ran] at failed
      match result with
      | some (.ok value) => cases failed
      | some (.error inner) =>
          cases failed
          exact ⟨inner, rfl, rfl⟩
      | none => cases failed

theorem run_ofExcept_error {result : Except TaggedConfig.Cause α} {store left : Store} {failure : Failure}
    (failed : (Resolving.ofExcept result).run files store = (some (.error failure), left)) :
    ∃ cause, result = .error cause ∧ failure = .here cause ∧ left = store := by
  cases result with
  | ok value => cases failed
  | error cause =>
      cases failed
      exact ⟨cause, rfl, rfl, rfl⟩

theorem yields_ofExcept {result : Except Cause α} {store left : Store} {value : α}
    (yields : (Resolving.ofExcept result).Yields files store value left) :
    result = .ok value ∧ left = store := by
  cases result with
  | ok value =>
      cases yields
      exact ⟨rfl, rfl⟩
  | error cause => cases yields

theorem exists_of_yields_bind {dialogue : Dialogue ε α} {continuation : α → Dialogue ε β}
    {store left : Store} {value : β}
    (yields : (dialogue.bind continuation).Yields files store value left) :
    ∃ first middle, dialogue.Yields files store first middle ∧
      (continuation first).Yields files middle value left := by
  unfold Yields at yields ⊢
  rw [run_bind] at yields
  cases ran : dialogue.run files store with
  | mk result middle =>
      rw [ran] at yields
      match result with
      | some (.ok first) => exact ⟨first, middle, rfl, yields⟩
      | some (.error error) => cases yields
      | none => cases yields

theorem Yields.bind {dialogue : Dialogue ε α} {continuation : α → Dialogue ε β}
    {store middle left : Store} {first : α} {second : β}
    (yields : dialogue.Yields files store first middle)
    (later : (continuation first).Yields files middle second left) :
    (dialogue.bind continuation).Yields files store second left := by
  unfold Yields at yields later ⊢
  rw [run_bind, yields]
  exact later

theorem Yields.mapError {dialogue : Dialogue ε α} {store left : Store} {value : α}
    (yields : dialogue.Yields files store value left) (change : ε → δ) :
    (dialogue.mapError change).Yields files store value left := by
  unfold Yields at yields ⊢
  rw [run_mapError, yields]
  rfl

theorem Yields.of_mapError {dialogue : Dialogue ε α} {change : ε → δ} {store left : Store}
    {value : α} (yields : (dialogue.mapError change).Yields files store value left) :
    dialogue.Yields files store value left := by
  unfold Yields at yields ⊢
  rw [run_mapError] at yields
  cases ran : dialogue.run files store with
  | mk result middle =>
      rw [ran] at yields
      match result with
      | some (.ok value) =>
          cases yields
          rfl
      | some (.error error) => cases yields
      | none => cases yields

end Dialogue

section

variable {loader : Loader} {host : Surroundings} {files : Dialogue.Files} {here : Standpoint}

def Obstacle.EndsIn (scope : Scope) (files : Dialogue.Files) (obstacle : Obstacle) (met : Store)
    (error : ConfigError) (left : Store) : Prop :=
  match obstacle with
  | .cause found => error = .ofCause found ∧ left = met
  | .document text => (scope.includeText text).run files met = (some (.error error), left)

def MeetsFirst (loader : Loader) (host : Surroundings) (files : Dialogue.Files) (here : Standpoint)
    (meets : Trail → Store → Obstacle → Prop) (failure : Failure) (left : Store) : Prop :=
  ∃ met obstacle, meets failure.trail met obstacle ∧
    obstacle.EndsIn (here.scope loader host) files met failure.error left

def ValueTextMeetsFirst (loader : Loader) (host : Surroundings) (files : Dialogue.Files)
    (here : Standpoint) (text : String) : Prop :=
  ∀ store failure left,
    ((here.scope loader host).resolveValueText text).run files store =
        (some (.error failure), left) →
      MeetsFirst loader host files here (ValueTextMeets loader host files here store text) failure
        left

/-- The value text of a text, if it assigns a variable, meets an obstacle wherever it fails. -/
def MeetsFirstWithin (loader : Loader) (host : Surroundings) (files : Dialogue.Files)
    (here : Standpoint) (text : String) : Prop :=
  ∀ name valueText, Implicit.assignment? text = some (name, valueText) →
    ValueTextMeetsFirst loader host files here valueText

theorem MeetsFirst.mono {first second : Trail → Store → Obstacle → Prop} {failure : Failure}
    {left : Store} (meets : MeetsFirst loader host files here first failure left)
    (implies : ∀ trail met obstacle, first trail met obstacle → second trail met obstacle) :
    MeetsFirst loader host files here second failure left := by
  obtain ⟨met, obstacle, found, ends⟩ := meets
  exact ⟨met, obstacle, implies _ _ _ found, ends⟩

/-- A request that fails meets an obstacle, if its value text does. -/
theorem Request.answer_meets {request : Request}
    (texts : ∀ name valueText, request = .assignText name valueText →
      ValueTextMeetsFirst loader host files here valueText)
    {store left : Store} {failure : Failure}
    (failed : (request.answer (here.scope loader host)
      (here.scope loader host).resolveValueText).run files store = (some (.error failure), left)) :
    MeetsFirst loader host files here (RequestMeets loader host files here store request) failure
      left := by
  cases request with
  | settled result =>
      obtain ⟨cause, rfl, rfl, rfl⟩ := Dialogue.run_ofExcept_error failed
      exact ⟨left, .cause cause, .settled left cause, rfl, rfl⟩
  | lookUp name =>
      rcases Dialogue.run_bind_error failed with missed | ⟨answer, middle, found, failed⟩
      · cases missed
      · cases found
        cases answered : store.get? name with
        | some value =>
            rw [answered] at failed
            cases failed
        | none =>
            rw [answered] at failed
            cases failed
            exact ⟨store, .cause (.undefinedVariable name), .missing answered, rfl, rfl⟩
  | assign name value => cases failed
  | assignText name valueText =>
      rcases Dialogue.run_bind_error failed with failed | ⟨value, middle, found, failed⟩
      · exact (texts name valueText rfl store failure left failed).mono fun _ _ _ => .valueText
      · cases failed
  | document text =>
      obtain ⟨error, asked, rfl⟩ := Dialogue.run_mapError_error failed
      exact ⟨store, .document text, .document store text, asked⟩

/-- A tag that cannot be applied meets an obstacle, if the value text in its content does. -/
theorem applyTag_meets {tag : Tag} {input : Value}
    (texts : ∀ text, input = .string text → MeetsFirstWithin loader host files here text)
    {store left : Store} {failure : Failure}
    (failed : ((here.scope loader host).applyTag (here.scope loader host).resolveValueText tag
      input).run files store = (some (.error failure), left)) :
    MeetsFirst loader host files here
      (RequestMeets loader host files here store (.ofTag loader host here.directory tag input))
      failure left := by
  unfold Standpoint.scope at failed
  rw [← Request.answer_ofTag] at failed
  refine Request.answer_meets (fun name valueText asked => ?_) failed
  obtain ⟨-, text, same, assigned⟩ := Request.ofTag_eq_assignText asked
  exact texts text same name valueText assigned

theorem ne_string_of_yields {scope : Scope} {onValueText : Scope.OnValueText} {content : Yaml.Node}
    {store left : Store} {input : Value} (collection : Scope.isCollection content = true)
    (yields : (scope.resolveNode onValueText content).Yields files store input left)
    (text : String) : input ≠ .string text := by
  cases content with
  | sequence items =>
      obtain ⟨values, middle, -, done⟩ := Dialogue.exists_of_yields_bind yields
      cases done
      exact nofun
  | mapping entries =>
      obtain ⟨list, middle, -, done⟩ := Dialogue.exists_of_yields_bind yields
      cases done
      exact nofun
  | _ => cases collection

/-- Only a text is a content that a tag can take an assignment from. -/
theorem Scope.eq_string_of_content {scope : Scope} {content : Yaml.Node} {store left : Store}
    {text : String} (run : (scope.content content).Yields files store (.string text) left) :
    content = .string text := by
  unfold Scope.content at run
  cases collection : Scope.isCollection content with
  | true =>
      rw [collection] at run
      exact absurd rfl (ne_string_of_yields collection run text)
  | false =>
      rw [collection] at run
      exact eq_string_of_literal collection (Dialogue.yields_ofExcept run).1

/-- The values of items do not depend on where their positions begin. -/
theorem resolveItems_yields {scope : Scope} {onValueText : Scope.OnValueText}
    {items : List Yaml.Node} {first : Nat} (second : Nat) {store left : Store}
    {values : List Value}
    (yields : (scope.resolveItems onValueText first items).Yields files store values left) :
    (scope.resolveItems onValueText second items).Yields files store values left := by
  induction items generalizing first second store values with
  | nil => exact yields
  | cons item rest ih =>
      obtain ⟨value, middle, itemRun, later⟩ := Dialogue.exists_of_yields_bind yields
      obtain ⟨others, last, restRun, done⟩ := Dialogue.exists_of_yields_bind later
      cases done
      exact (itemRun.of_mapError.mapError _).bind ((ih (second + 1) restRun).bind rfl)

/-- An obstacle in later entries of a mapping is met behind an entry that has a key and a value. -/
theorem NodeMeets.behind {keyNode valueNode : Yaml.Node} {rest : List (Yaml.Node × Yaml.Node)}
    {store middle between left : Store} {keyValue value : Value} {key : String} {trail : Trail}
    {obstacle : Obstacle}
    (keyRun : ((here.scope loader host).resolve keyNode).Yields files store keyValue middle)
    (fit : keyValue.asKey = .ok key)
    (valueRun : ((here.scope loader host).resolve valueNode).Yields files middle value between)
    (met : NodeMeets loader host files here between (.mapping rest) trail left obstacle) :
    NodeMeets loader host files here store (.mapping ((keyNode, valueNode) :: rest)) trail left
      obstacle := by
  have longer {before : List (Yaml.Node × Yaml.Node)} {last : Store}
      (earlier : EntriesYield loader host files here before between last) :
      EntriesYield loader host files here ((keyNode, valueNode) :: before) store last := by
    obtain ⟨list, earlier⟩ := earlier
    refine ⟨(key, value) :: list, keyRun.bind ?_⟩
    rw [fit]
    exact .bind rfl ((valueRun.mapError _).bind (earlier.bind rfl))
  cases met with
  | key earlier inner => exact .key (longer earlier) inner
  | noKey earlier keyRun unfit => exact .noKey (longer earlier) keyRun unfit
  | value earlier keyRun fit inner => exact .value (longer earlier) keyRun fit inner

/-- A tagged node that fails meets an obstacle, if its content does when it fails. -/
theorem resolve_tagged_meets {name : String} {content : Yaml.Node}
    (texts : content.Each (MeetsFirstWithin loader host files here)) {store left : Store}
    {failure : Failure}
    (inner : ((here.scope loader host).resolve content).run files store =
        (some (.error failure), left) →
      MeetsFirst loader host files here (NodeMeets loader host files here store content) failure
        left)
    (failed : ((here.scope loader host).resolve (.tagged name content)).run files store =
      (some (.error failure), left)) :
    MeetsFirst loader host files here
      (NodeMeets loader host files here store (.tagged name content)) failure left := by
  cases known : (here.scope loader host).tags.get? (tagName name) with
  | none =>
      unfold Scope.resolve at failed
      rw [Scope.resolveNode_of_unknown known] at failed
      cases failed
      exact ⟨store, .cause (.unknownTag (tagName name)), .unknownTag known, rfl, rfl⟩
  | some tag =>
      rw [Scope.resolve_of_known known] at failed
      rcases Dialogue.run_bind_error failed with failed | ⟨input, middle, run, failed⟩
      · unfold Scope.content at failed
        cases collection : Scope.isCollection content with
        | true =>
            rw [collection] at failed
            exact (inner failed).mono fun _ _ _ => .content known collection
        | false =>
            rw [collection] at failed
            obtain ⟨cause, unfit, rfl, rfl⟩ := Dialogue.run_ofExcept_error failed
            exact ⟨left, .cause cause, .noLiteral known collection unfit, rfl, rfl⟩
      · refine (applyTag_meets (fun text same => ?_) failed).mono fun _ _ _ => .tag known run
        subst same
        rw [Scope.eq_string_of_content run] at texts
        cases texts with
        | string suits => exact suits

mutual

/-- A tree that fails meets an obstacle, if the value texts of its strings do. -/
theorem resolveNode_meets {node : Yaml.Node}
    (texts : node.Each (MeetsFirstWithin loader host files here)) {store left : Store}
    {failure : Failure}
    (failed : ((here.scope loader host).resolve node).run files store =
      (some (.error failure), left)) :
    MeetsFirst loader host files here (NodeMeets loader host files here store node) failure
      left := by
  match node with
  | .null => cases failed
  | .bool value => cases failed
  | .integer value => cases failed
  | .float value => cases failed
  | .string text =>
      cases texts with
      | string suits =>
          unfold Scope.resolve at failed
          rw [Scope.resolveNode_string] at failed
          refine (Request.answer_meets (fun name valueText asked => ?_) failed).mono
            fun _ _ _ => .text
          exact suits name valueText (Request.ofText_eq_assignText asked)
  | .sequence items =>
      cases texts with
      | sequence each =>
          rcases Dialogue.run_bind_error failed with failed | ⟨values, middle, found, failed⟩
          · obtain ⟨before, item, after, middle, inner, rfl, earlier, trail, meets⟩ :=
              resolveItems_meets 0 each failed
            rw [Nat.zero_add] at trail
            obtain ⟨met, obstacle, found, ends⟩ := meets
            refine ⟨met, obstacle, ?_, ends⟩
            rw [trail]
            exact .item earlier found
          · cases failed
  | .mapping entries =>
      cases texts with
      | mapping keys values =>
          rcases Dialogue.run_bind_error failed with failed | ⟨list, middle, found, failed⟩
          · exact resolveEntries_meets keys values failed
          · cases failed
  | .tagged name content =>
      cases texts with
      | tagged _ texts =>
          exact resolve_tagged_meets texts (fun failed => resolveNode_meets texts failed) failed

theorem resolveItems_meets {items : List Yaml.Node} (position : Nat)
    (texts : ∀ item ∈ items, item.Each (MeetsFirstWithin loader host files here))
    {store left : Store} {failure : Failure}
    (failed : ((here.scope loader host).resolveItems (here.scope loader host).resolveValueText
      position items).run files store = (some (.error failure), left)) :
    ∃ before item after middle inner, items = before ++ item :: after ∧
      ItemsYield loader host files here before store middle ∧
      failure.trail = .index (position + before.length) :: inner ∧
      MeetsFirst loader host files here (NodeMeets loader host files here middle item)
        ⟨inner, failure.error⟩ left := by
  match items with
  | [] => cases failed
  | item :: rest =>
      obtain ⟨first, others⟩ := List.forall_mem_cons.mp texts
      rcases Dialogue.run_bind_error failed with failed | ⟨value, between, itemRun, failed⟩
      · obtain ⟨inner, itemFailed, rfl⟩ := Dialogue.run_mapError_error failed
        have meets := resolveNode_meets first itemFailed
        exact ⟨[], item, rest, store, inner.trail, rfl, ⟨[], rfl⟩, rfl, meets⟩
      · rcases Dialogue.run_bind_error failed with failed | ⟨values, last, restRun, failed⟩
        · obtain ⟨before, found, after, middle, inner, rfl, ⟨values, earlier⟩, trail, meets⟩ :=
            resolveItems_meets (position + 1) others failed
          refine ⟨item :: before, found, after, middle, inner, rfl, ⟨value :: values, ?_⟩, ?_, meets⟩
          · exact (itemRun.of_mapError.mapError _).bind
              ((resolveItems_yields 1 earlier).bind rfl)
          · rw [trail, List.length_cons, Nat.add_assoc, Nat.add_comm 1]
        · cases failed

/-- Entries that fail do so in a key or a value, behind entries that have both. -/
theorem resolveEntries_meets {entries : List (Yaml.Node × Yaml.Node)}
    (keys : ∀ entry ∈ entries, entry.1.Each (MeetsFirstWithin loader host files here))
    (values : ∀ entry ∈ entries, entry.2.Each (MeetsFirstWithin loader host files here))
    {store left : Store} {failure : Failure}
    (failed : ((here.scope loader host).resolveEntries (here.scope loader host).resolveValueText
      entries).run files store = (some (.error failure), left)) :
    MeetsFirst loader host files here (NodeMeets loader host files here store (.mapping entries))
      failure left := by
  match entries with
  | [] => cases failed
  | (keyNode, valueNode) :: rest =>
      obtain ⟨keyHere, keysLater⟩ := List.forall_mem_cons.mp keys
      obtain ⟨valueHere, valuesLater⟩ := List.forall_mem_cons.mp values
      have none : EntriesYield loader host files here [] store store := ⟨[], rfl⟩
      rcases Dialogue.run_bind_error failed with keyFailed | ⟨keyValue, middle, keyRun, behindKey⟩
      · exact (resolveNode_meets keyHere keyFailed).mono fun _ _ _ => .key none
      rcases Dialogue.run_bind_error behindKey with keyRefused | ⟨key, between, fitRun, behindFit⟩
      · obtain ⟨cause, unfit, rfl, rfl⟩ := Dialogue.run_ofExcept_error keyRefused
        exact ⟨left, .cause cause, .noKey none keyRun unfit, rfl, rfl⟩
      obtain ⟨fit, rfl⟩ := Dialogue.yields_ofExcept fitRun
      rcases Dialogue.run_bind_error behindFit with valueFailed | ⟨value, later, valueRun, behindValue⟩
      · obtain ⟨inner, within, rfl⟩ := Dialogue.run_mapError_error valueFailed
        obtain ⟨met, obstacle, found, ends⟩ := resolveNode_meets valueHere within
        exact ⟨met, obstacle, .value none keyRun fit found, ends⟩
      rcases Dialogue.run_bind_error behindValue with restFailed | ⟨list, last, restRun, done⟩
      · exact (resolveEntries_meets keysLater valuesLater restFailed).mono
          fun _ _ _ => NodeMeets.behind keyRun fit valueRun.of_mapError
      · cases done

end

theorem resolveValueText_meets (text : String) :
    ValueTextMeetsFirst loader host files here text := by
  induction size : text.length using Nat.strong_induction_on generalizing text with
  | _ size ih =>
      subst size
      have within (whole : String) (fits : whole.length ≤ text.length) :
          MeetsFirstWithin loader host files here whole := by
        intro name valueText assigned
        have shorter := Implicit.length_of_assignment? assigned
        exact ih valueText.length (by omega) valueText rfl
      intro store failure left failed
      rw [Scope.resolveValueText_eq, resolveValueTextWith_eq] at failed
      cases shaped : Implicit.ofText? text with
      | some implied =>
          rw [shaped] at failed
          refine (Request.answer_meets (fun name valueText asked => ?_) failed).mono
            fun _ _ _ => .implied shaped
          exact within text le_rfl name valueText (Request.ofText_eq_assignText asked)
      | none =>
          rw [shaped] at failed
          cases begun : taggedNode? text with
          | none =>
              rw [begun] at failed
              cases failed
          | some node =>
              rw [begun] at failed
              have fits := Yaml.Node.within_of_parse (parse_of_taggedNode? begun)
              exact (resolveNode_meets (fits.mono within) failed).mono
                fun _ _ _ => .tagged shaped begun

theorem resolve_meets {node : Yaml.Node} {store left : Store} {failure : Failure}
    (failed : ((here.scope loader host).resolve node).run files store =
      (some (.error failure), left)) :
    MeetsFirst loader host files here (NodeMeets loader host files here store node) failure left :=
  resolveNode_meets
    (Yaml.Node.each_of_forall (fun _ _ valueText _ => resolveValueText_meets valueText) node) failed

end

end TaggedConfig
