import TaggedConfig.Proofs.Dialogue.SameRun
import TaggedConfig.Proofs.Splicing.Reaching

/-!
# Places in a tree

A place is an item of a sequence or a value of a mapping, at any depth, where the collections around it
may have tags.  Two nodes whose resolutions run alike can stand for each other at every place.
-/

namespace TaggedConfig

/-- A place in a tree, seen from its root. -/
inductive Site where
  | root
  | item (tag : Option String) (before : List Yaml.Node) (inner : Site) (after : List Yaml.Node)
  | value (tag : Option String) (before : List (Yaml.Node × Yaml.Node)) (key : Yaml.Node)
      (inner : Site) (after : List (Yaml.Node × Yaml.Node))

namespace Site

def wrap (tag : Option String) (content : Yaml.Node) : Yaml.Node :=
  match tag with
  | some name => .tagged name content
  | none => content

/-- The tree with a node at a place. -/
def fill (node : Yaml.Node) : Site → Yaml.Node
  | .root => node
  | .item tag before inner after => wrap tag (.sequence (before ++ inner.fill node :: after))
  | .value tag before key inner after =>
      wrap tag (.mapping (before ++ (key, inner.fill node) :: after))

variable {scope : Scope} {onValueText : Scope.OnValueText} {files : Dialogue.Files}
  {first second : Yaml.Node}

abbrev SameNode (scope : Scope) (onValueText : Scope.OnValueText) (files : Dialogue.Files)
    (first second : Yaml.Node) : Prop :=
  Dialogue.SameRun files (scope.resolveNode onValueText first)
    (scope.resolveNode onValueText second)

theorem under_congr {α : Type} {first second : Resolving α} (segment : Segment)
    (same : Dialogue.SameRun files first second) :
    Dialogue.SameRun files (first.under segment) (second.under segment) := by
  have kept (failure : Failure) :
      HasCause.cause (failure.under segment) = HasCause.cause failure := rfl
  have forget (dialogue : Resolving α) :
      Dialogue.SameRun files (dialogue.under segment) dialogue :=
    .mapError files kept dialogue
  exact (forget first).trans (same.trans (forget second).symm)

theorem resolveItems_congr (same : SameNode scope onValueText files first second) (position : Nat)
    (before after : List Yaml.Node) :
    Dialogue.SameRun files
      (scope.resolveItems onValueText position (before ++ first :: after))
      (scope.resolveItems onValueText position (before ++ second :: after)) := by
  induction before generalizing position with
  | nil => exact .bind (under_congr _ same) fun value => .refl _
  | cons item rest ih =>
      exact .bind (.refl _) fun value => .bind (ih (position + 1)) fun values => .refl _

theorem resolveEntries_congr (same : SameNode scope onValueText files first second)
    (before after : List (Yaml.Node × Yaml.Node)) (key : Yaml.Node) :
    Dialogue.SameRun files
      (scope.resolveEntries onValueText (before ++ (key, first) :: after))
      (scope.resolveEntries onValueText (before ++ (key, second) :: after)) := by
  induction before with
  | nil =>
      refine .bind (.refl _) fun keyValue => .bind (.refl _) fun keyText => ?_
      exact .bind (under_congr _ same) fun value => .refl _
  | cons entry rest ih =>
      obtain ⟨entryKey, entryValue⟩ := entry
      refine .bind (.refl _) fun keyValue => .bind (.refl _) fun keyText => ?_
      exact .bind (.refl _) fun value => .bind ih fun list => .refl _

theorem wrap_congr (same : SameNode scope onValueText files first second)
    (firstCollection : Scope.isCollection first = true)
    (secondCollection : Scope.isCollection second = true) (tag : Option String) :
    SameNode scope onValueText files (wrap tag first) (wrap tag second) := by
  cases tag with
  | none => exact same
  | some name =>
      unfold SameNode wrap
      dsimp only
      cases known : scope.tags.get? (tagName name) with
      | none =>
          rw [Scope.resolveNode_of_unknown known, Scope.resolveNode_of_unknown known]
          exact .refl _
      | some tag =>
          rw [Scope.resolveNode_of_known known, Scope.resolveNode_of_known known,
            if_pos firstCollection, if_pos secondCollection]
          exact .bind same fun input => .refl _

/-- Nodes that run alike do so at every place. -/
theorem fill_congr (same : SameNode scope onValueText files first second) (site : Site) :
    SameNode scope onValueText files (site.fill first) (site.fill second) := by
  induction site with
  | root => exact same
  | item tag before inner after ih =>
      refine wrap_congr ?_ rfl rfl tag
      exact .bind (resolveItems_congr ih 0 before after) fun values => .refl _
  | value tag before key inner after ih =>
      refine wrap_congr ?_ rfl rfl tag
      exact .bind (resolveEntries_congr ih before after key) fun list => .refl _

end Site

end TaggedConfig
