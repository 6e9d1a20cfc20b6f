import TaggedConfig.Proofs.DocumentOrder.Request
import TaggedConfig.Proofs.Fallible

/-!
# Causes that a node has of itself

What needs neither a variable nor a document fails only with a cause of its own: the content does not
suit the tag, the tag is unknown, a key is no scalar, or a path cannot be made absolute.
-/

namespace TaggedConfig

/-- A cause that a node has of itself: no variable is missing, and no document. -/
def Cause.IsOwn : Cause → Prop
  | .unknownTag _ | .typeMismatch _ _ | .noMatchingCase _ _ | .unreadableFile _ _ => True
  | .invalidFormat _ _ | .arithmeticOverflow _ | .conversion _ _ => True
  | _ => False

namespace Tag

theorem scalarText_isOwn (tag : Tag) (input : Value) :
    OnlyFails Cause.IsOwn (tag.scalarText input) := by
  cases input with
  | null => exact .error trivial
  | sequence items => exact .error trivial
  | mapping entries => exact .error trivial
  | bool value => exact .ok _
  | integer value => exact .ok _
  | float value => exact .ok _
  | string text => exact .ok _

theorem sequenceItems_isOwn (tag : Tag) (input : Value) :
    OnlyFails Cause.IsOwn (tag.sequenceItems input) := by
  cases input with
  | sequence items => exact .ok _
  | _ => exact .error trivial

theorem joinElements_isOwn (tag : Tag) (input : Value) :
    OnlyFails Cause.IsOwn (tag.joinElements input) := by
  refine .bind (tag.sequenceItems_isOwn input) fun items _ => ?_
  cases items with
  | nil => exact .error trivial
  | cons item rest =>
      refine .bind (.mapM fun element => ?_) fun paths _ => .ok _
      cases element with
      | string text => exact .ok _
      | _ => exact .error trivial

end Tag

namespace Reduction

theorem apply_isOwn (reduction : Reduction) (input : Value) :
    OnlyFails Cause.IsOwn (reduction.apply input) := by
  refine .bind (reduction.tag.sequenceItems_isOwn input) fun items _ => ?_
  refine .bind (.mapM fun leaf => ?_) fun numbers _ => ?_
  · unfold numberOf
    split
    · exact .ok _
    · exact .error trivial
  · refine .bind (.foldlM fun reached number => ?_) fun total _ => .ok _
    unfold step
    split
    · split
      · exact .ok _
      · exact .error trivial
    · exact .ok _

end Reduction

namespace Value

theorem ofPathIn_isOwn (workingDirectory : Except ReadFailure Path) (directory path : Path) :
    OnlyFails Cause.IsOwn (ofPathIn workingDirectory directory path) := by
  unfold ofPathIn
  split
  · exact .ok _
  · exact .error trivial

theorem asKey_isOwn (value : Value) : OnlyFails Cause.IsOwn value.asKey := by
  unfold asKey
  split
  · exact .ok _
  · exact .error trivial

mutual

theorem ofNode_isOwn (node : Yaml.Node) : OnlyFails Cause.IsOwn (ofNode node) := by
  match node with
  | .null => exact .ok _
  | .bool value => exact .ok _
  | .integer value => exact .ok _
  | .float value => exact .ok _
  | .string text => exact .ok _
  | .sequence items => exact .bind (ofNodes_isOwn items) fun values _ => .ok _
  | .mapping entries => exact .bind (ofNodeEntries_isOwn entries) fun list _ => .ok _
  | .tagged tag content => exact .error trivial

theorem ofNodes_isOwn (items : List Yaml.Node) : OnlyFails Cause.IsOwn (ofNodes items) := by
  match items with
  | [] => exact .ok _
  | item :: rest =>
      exact .bind (ofNode_isOwn item) fun value _ => .bind (ofNodes_isOwn rest) fun _ _ => .ok _

theorem ofNodeEntries_isOwn (entries : List (Yaml.Node × Yaml.Node)) :
    OnlyFails Cause.IsOwn (ofNodeEntries entries) := by
  match entries with
  | [] => exact .ok _
  | (keyNode, valueNode) :: rest =>
      refine .bind (ofNode_isOwn keyNode) fun keyValue _ => ?_
      refine .bind keyValue.asKey_isOwn fun key _ => ?_
      refine .bind (ofNode_isOwn valueNode) fun value _ => ?_
      exact .bind (ofNodeEntries_isOwn rest) fun list _ => .ok _

end

end Value

/-- A tag that needs no variable and no document fails with a cause of its own. -/
theorem Request.ofTag_isOwn {loader : Loader} {host : Surroundings} {directory : Path} {tag : Tag}
    {input : Value} {result : Except Cause Value}
    (asked : ofTag loader host directory tag input = .settled result) :
    OnlyFails Cause.IsOwn result := by
  cases tag with
  | dateTime =>
      cases asked
      refine .bind (Tag.dateTime.scalarText_isOwn input) fun template _ => ?_
      split
      · exact .ok _
      · exact .error trivial
  | product => cases asked; exact Reduction.product.apply_isOwn input
  | sum => cases asked; exact Reduction.sum.apply_isOwn input
  | join =>
      cases asked
      exact .bind (Tag.join.sequenceItems_isOwn input) fun items _ => .ok _
  | pathJoin =>
      cases asked
      exact .bind (Tag.pathJoin.joinElements_isOwn input) fun path _ => .ok _
  | absPath =>
      cases asked
      exact .bind (Tag.absPath.scalarText_isOwn input) fun text _ => Value.ofPathIn_isOwn _ _ _
  | absPathJoin =>
      cases asked
      exact .bind (Tag.absPathJoin.joinElements_isOwn input) fun path _ => Value.ofPathIn_isOwn _ _ _
  | includeFile =>
      rcases ofInclude_cases input with ⟨_, same⟩ | ⟨_, failed, same⟩
      · cases same.symm.trans asked
      · cases same.symm.trans asked
        exact .error (Tag.includeFile.scalarText_isOwn input _ failed)
  | store =>
      rcases ofStore_cases input with ⟨_, same⟩ | ⟨_, _, same⟩ | ⟨_, _, _, _, _, same⟩
      · cases same.symm.trans asked
        exact .error trivial
      · cases same.symm.trans asked
      · cases same.symm.trans asked
  | load =>
      rcases ofLoad_cases input with ⟨_, same⟩ | ⟨_, failed, same⟩
      · cases same.symm.trans asked
      · cases same.symm.trans asked
        exact .error (Tag.load.scalarText_isOwn input _ failed)
  | switchCommand =>
      cases asked
      unfold Scope.selectCase
      split
      · split
        · exact .ok _
        · split
          · exact .ok _
          · exact .error trivial
      · exact .error trivial

theorem Request.ofText_isOwn {text : String} {result : Except Cause Value}
    (asked : ofText text = .settled result) : OnlyFails Cause.IsOwn result := by
  unfold ofText at asked
  split at asked <;> cases asked
  exact .ok _

end TaggedConfig
