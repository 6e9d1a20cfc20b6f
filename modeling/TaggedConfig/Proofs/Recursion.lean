import Mathlib
import TaggedConfig.Proofs.SideBySide

/-!
# Recursion without allowances

Value texts are resolved with an allowance that is always enough, so that resolving them satisfies
the recursion without any.  The calls that this recursion makes go down: to documents for which less
of the limit is left, to shorter texts, or to smaller trees.
-/

namespace TaggedConfig

namespace Scope

variable {scope : Scope} {first second : OnValueText}

/-- A request is met alike if its value text is resolved alike. -/
theorem answer_agree {request : Request}
    (agree : ∀ name valueText, request = .assignText name valueText →
      first valueText = second valueText) :
    request.answer scope first = request.answer scope second :=
  answer_related .eq (fun _ _ => rfl) agree fun _ _ => rfl

/-- Only the tag that assigns a text looks into its content. -/
theorem applyTag_agree {tag : Tag} {input : Value}
    (agree : ∀ text name valueText, input = .string text →
      Implicit.assignment? text = some (name, valueText) → first valueText = second valueText) :
    scope.applyTag first tag input = scope.applyTag second tag input := by
  cases tag with
  | store =>
      unfold applyTag
      dsimp only
      rw [← Request.answer_ofStore scope first, ← Request.answer_ofStore scope second]
      refine answer_agree fun name valueText asked => ?_
      rcases Request.ofStore_cases input with ⟨_, same⟩ | ⟨_, _, same⟩ | ⟨text, _, _, written, found, same⟩
      · cases same.symm.trans asked
      · cases same.symm.trans asked
      · cases same.symm.trans asked
        exact agree text name valueText written found
  | _ => rfl

/-- Trees with texts up to a length are resolved alike, side by side, if shorter value texts are. -/
theorem alongside_shorter (scope : Scope) (size : Nat) :
    Alongside (fun _ first second => first = second) (Yaml.Node.Within size) (·.length < size) scope
      scope where
  compatible := .eq
  hereditary := .each _
  implied shorter _ := .string (Nat.le_of_lt shorter)
  begun {text _} shorter _ begun := by
    have within := Yaml.Node.within_of_parse (parse_of_taggedNode? begun)
    rw [String.length_toList] at within
    exact within.mono fun _ fits => fits.trans (Nat.le_of_lt shorter)
  text texts text within := by
    cases within with
    | string fits =>
        refine answer_agree fun name valueText asked => ?_
        have inside := Implicit.length_of_assignment? (Request.ofText_eq_assignText asked)
        exact texts valueText (by omega)
  tagged texts name content within inner := by
    cases within with
    | tagged _ inside =>
        cases known : scope.tags.get? (tagName name) with
        | none => rw [resolveNode_of_unknown known, resolveNode_of_unknown known]
        | some tag =>
            refine resolveNode_tagged_congr known known (fun _ => inner inside) ?_
            intro input written
            refine applyTag_agree fun text _ valueText isText assigned => ?_
            rw [written text isText] at inside
            cases inside with
            | string fits =>
                have shorter := Implicit.length_of_assignment? assigned
                exact texts valueText (by omega)

/-- A value text is resolved alike if the shorter ones are. -/
theorem resolveValueTextWith_agree {text : String}
    (agree : ∀ inner : String, inner.length < text.length → first inner = second inner) :
    scope.resolveValueTextWith first text = scope.resolveValueTextWith second text :=
  resolveValueTextWith_related (alongside_shorter scope text.length) agree
    (fun _ _ => .string (Nat.le_refl _))
    fun _ _ begun => Yaml.Node.within_of_parse (parse_of_taggedNode? begun)

/-- A value text is resolved by resolving the value texts inside it, without any allowance. -/
theorem resolveValueText_eq (scope : Scope) (text : String) :
    scope.resolveValueText text = scope.resolveValueTextWith scope.resolveValueText text := by
  cases size : text.length with
  | zero =>
      have empty : text = "" := String.length_eq_zero_iff.mp size
      subst empty
      exact (resolveValueTextWith_empty scope _).symm
  | succ allowance =>
      have allowed : scope.resolveValueText text =
          scope.resolveValueTextWithin (allowance + 1) text :=
        congrArg (scope.resolveValueTextWithin · text) size
      rw [allowed]
      refine resolveValueTextWith_agree fun inner shorter => ?_
      rw [if_pos shorter]
      exact resolveValueTextWithin_congr scope allowance inner.length inner (by omega) le_rfl

end Scope

namespace Yaml.Node

mutual

def longestText : Yaml.Node → Nat
  | .string text => text.length
  | .sequence items => longestTextOfItems items
  | .mapping entries => longestTextOfEntries entries
  | .tagged _ content => content.longestText
  | .null | .bool _ | .integer _ | .float _ => 0

def longestTextOfItems : List Yaml.Node → Nat
  | [] => 0
  | item :: rest => max item.longestText (longestTextOfItems rest)

def longestTextOfEntries : List (Yaml.Node × Yaml.Node) → Nat
  | [] => 0
  | (key, value) :: rest =>
      max (max key.longestText value.longestText) (longestTextOfEntries rest)

end

theorem longestText_le_of_mem {items : List Yaml.Node} {item : Yaml.Node} (member : item ∈ items) :
    item.longestText ≤ longestTextOfItems items := by
  induction items with
  | nil => cases member
  | cons first rest ih =>
      unfold longestTextOfItems
      rcases List.mem_cons.mp member with rfl | later
      · exact le_max_left _ _
      · exact (ih later).trans (le_max_right _ _)

theorem longestText_le_of_mem_entries {entries : List (Yaml.Node × Yaml.Node)}
    {entry : Yaml.Node × Yaml.Node} (member : entry ∈ entries) :
    entry.1.longestText ≤ longestTextOfEntries entries ∧
      entry.2.longestText ≤ longestTextOfEntries entries := by
  induction entries with
  | nil => cases member
  | cons first rest ih =>
      obtain ⟨key, value⟩ := first
      unfold longestTextOfEntries
      rcases List.mem_cons.mp member with rfl | later
      · exact ⟨le_max_of_le_left (le_max_left _ _), le_max_of_le_left (le_max_right _ _)⟩
      · obtain ⟨keyFits, valueFits⟩ := ih later
        exact ⟨keyFits.trans (le_max_right _ _), valueFits.trans (le_max_right _ _)⟩

theorem longestTextOfItems_le {items : List Yaml.Node} {size : Nat}
    (each : ∀ item ∈ items, item.longestText ≤ size) : longestTextOfItems items ≤ size := by
  induction items with
  | nil => exact Nat.zero_le size
  | cons first rest ih =>
      obtain ⟨here, later⟩ := List.forall_mem_cons.mp each
      exact max_le here (ih later)

theorem longestTextOfEntries_le {entries : List (Yaml.Node × Yaml.Node)} {size : Nat}
    (keys : ∀ entry ∈ entries, entry.1.longestText ≤ size)
    (values : ∀ entry ∈ entries, entry.2.longestText ≤ size) :
    longestTextOfEntries entries ≤ size := by
  induction entries with
  | nil => exact Nat.zero_le size
  | cons first rest ih =>
      obtain ⟨keyHere, keysLater⟩ := List.forall_mem_cons.mp keys
      obtain ⟨valueHere, valuesLater⟩ := List.forall_mem_cons.mp values
      exact max_le (max_le keyHere valueHere) (ih keysLater valuesLater)

theorem longestText_le_of_within {node : Yaml.Node} {size : Nat} (within : node.Within size) :
    node.longestText ≤ size := by
  unfold Within at within
  induction within with
  | string here => exact here
  | sequence each ih => exact longestTextOfItems_le ih
  | mapping keys values keysFit valuesFit => exact longestTextOfEntries_le keysFit valuesFit
  | tagged tag inner ih => exact ih
  | _ => exact Nat.zero_le size

end Yaml.Node

inductive Task where
  | node (node : Yaml.Node)
  | valueText (text : String)

/-- Something is resolved in a document at a depth of nesting. -/
structure Call where
  depth : Nat
  task : Task

/--
What is resolved for something else.  A tag may name any document, with any root, as long as the
limit allows one more.
-/
inductive Calls (loader : Loader) : Call → Call → Prop
  | item {items : List Yaml.Node} {item : Yaml.Node} (depth : Nat) (member : item ∈ items) :
      Calls loader ⟨depth, .node (.sequence items)⟩ ⟨depth, .node item⟩
  | key {entries : List (Yaml.Node × Yaml.Node)} {entry : Yaml.Node × Yaml.Node} (depth : Nat)
      (member : entry ∈ entries) :
      Calls loader ⟨depth, .node (.mapping entries)⟩ ⟨depth, .node entry.1⟩
  | value {entries : List (Yaml.Node × Yaml.Node)} {entry : Yaml.Node × Yaml.Node} (depth : Nat)
      (member : entry ∈ entries) :
      Calls loader ⟨depth, .node (.mapping entries)⟩ ⟨depth, .node entry.2⟩
  | content (depth : Nat) (name : String) (content : Yaml.Node) :
      Calls loader ⟨depth, .node (.tagged name content)⟩ ⟨depth, .node content⟩
  | text {text name valueText : String} (depth : Nat)
      (assigned : Implicit.assignment? text = some (name, valueText)) :
      Calls loader ⟨depth, .node (.string text)⟩ ⟨depth, .valueText valueText⟩
  | stored {text name valueText : String} (depth : Nat) (tag : String)
      (assigned : Implicit.assignment? text = some (name, valueText)) :
      Calls loader ⟨depth, .node (.tagged tag (.string text))⟩ ⟨depth, .valueText valueText⟩
  | nested {text name valueText : String} (depth : Nat)
      (assigned : Implicit.assignment? text = some (name, valueText)) :
      Calls loader ⟨depth, .valueText text⟩ ⟨depth, .valueText valueText⟩
  | begun {text : String} {node : Yaml.Node} (depth : Nat)
      (begun : taggedNode? text = some node) :
      Calls loader ⟨depth, .valueText text⟩ ⟨depth, .node node⟩
  | document {depth : Nat} (tag : String) (content root : Yaml.Node)
      (allowed : loader.exceeds? (depth + 1) = none) :
      Calls loader ⟨depth, .node (.tagged tag content)⟩ ⟨depth + 1, .node root⟩

namespace Call

/-- The documents that may still be nested, the length of the longest text, and the size. -/
noncomputable def rank (limit : Nat) (call : Call) : Nat × Nat × Nat :=
  match call.task with
  | .node node => (limit + 1 - call.depth, node.longestText, sizeOf node)
  | .valueText text => (limit + 1 - call.depth, text.length + 1, 0)

/-- One rank is below another, the first difference deciding. -/
abbrev Below : Nat × Nat × Nat → Nat × Nat × Nat → Prop :=
  Prod.Lex (· < ·) (Prod.Lex (· < ·) (· < ·))

theorem below_of_le {documents length longer size larger : Nat} (texts : length ≤ longer)
    (sizes : size < larger) : Below (documents, length, size) (documents, longer, larger) := by
  rcases Nat.lt_or_eq_of_le texts with shorter | rfl
  · exact .right _ (.left _ _ shorter)
  · exact .right _ (.right _ sizes)

end Call

namespace Calls

variable {loader : Loader} {limit : Nat} {outer inner : Call}

/-- What is resolved for something else is below it. -/
theorem rank_below (limited : loader.maxIncludeDepth = some limit)
    (calls : Calls loader outer inner) : Call.Below (inner.rank limit) (outer.rank limit) := by
  cases calls with
  | item depth member =>
      have smaller := List.sizeOf_lt_of_mem member
      refine Call.below_of_le (Yaml.Node.longestText_le_of_mem member) ?_
      rw [Yaml.Node.sequence.sizeOf_spec]
      omega
  | key depth member =>
      rename_i entries entry
      have smaller := List.sizeOf_lt_of_mem member
      refine Call.below_of_le (Yaml.Node.longestText_le_of_mem_entries member).1 ?_
      obtain ⟨key, value⟩ := entry
      rw [Yaml.Node.mapping.sizeOf_spec]
      simp only [Prod.mk.sizeOf_spec] at smaller ⊢
      omega
  | value depth member =>
      rename_i entries entry
      have smaller := List.sizeOf_lt_of_mem member
      refine Call.below_of_le (Yaml.Node.longestText_le_of_mem_entries member).2 ?_
      obtain ⟨key, value⟩ := entry
      rw [Yaml.Node.mapping.sizeOf_spec]
      simp only [Prod.mk.sizeOf_spec] at smaller ⊢
      omega
  | content depth name content =>
      refine Call.below_of_le le_rfl ?_
      rw [Yaml.Node.tagged.sizeOf_spec]
      omega
  | text depth assigned =>
      have shorter := Implicit.length_of_assignment? assigned
      refine Call.below_of_le shorter ?_
      rw [Yaml.Node.string.sizeOf_spec]
      omega
  | stored depth tag assigned =>
      have shorter := Implicit.length_of_assignment? assigned
      refine Call.below_of_le shorter ?_
      rw [Yaml.Node.tagged.sizeOf_spec]
      omega
  | nested depth assigned =>
      have shorter := Implicit.length_of_assignment? assigned
      exact .right _ (.left _ _ (by omega))
  | begun depth begun =>
      have fits := Yaml.Node.within_of_parse (parse_of_taggedNode? begun)
      have length := Yaml.Node.longestText_le_of_within fits
      rw [String.length_toList] at length
      exact .right _ (.left _ _ (by omega))
  | document tag content root allowed =>
      rename_i depth
      have within : depth + 1 ≤ limit := by
        unfold Loader.exceeds? at allowed
        rw [limited] at allowed
        simpa using allowed
      have fewer : limit + 1 - (depth + 1) < limit + 1 - depth := by omega
      exact .left _ _ fewer

/-- With a limit, no chain of calls goes on for ever, whatever documents there are. -/
theorem wellFounded (limited : loader.maxIncludeDepth = some limit) :
    WellFounded fun inner outer => Calls loader outer inner := by
  have below : WellFounded Call.Below :=
    (Prod.lex ⟨_, wellFounded_lt⟩ (Prod.lex ⟨_, wellFounded_lt⟩ ⟨_, wellFounded_lt⟩)).wf
  exact Subrelation.wf (fun calls => calls.rank_below limited)
    (InvImage.wf (Call.rank limit) below)

end Calls

end TaggedConfig
