import TaggedConfig.Proofs.Yaml.EventLength
import TaggedConfig.Yaml.Reading

/-!
# The length of strings in nodes

The strings of a document are the texts of its scalars, so that none of them is longer than the text
of the document.  Aliases repeat strings and do not make longer ones.
-/

namespace TaggedConfig.Yaml

inductive Node.Each (suits : String → Prop) : Node → Prop
  | null : Each suits .null
  | bool (value : Bool) : Each suits (.bool value)
  | integer (value : Int) : Each suits (.integer value)
  | float (value : Binary64) : Each suits (.float value)
  | string {text : String} (here : suits text) : Each suits (.string text)
  | sequence {items : List Node} (each : ∀ item ∈ items, Each suits item) :
      Each suits (.sequence items)
  | mapping {entries : List (Node × Node)} (keys : ∀ entry ∈ entries, Each suits entry.1)
      (values : ∀ entry ∈ entries, Each suits entry.2) : Each suits (.mapping entries)
  | tagged (tag : String) {content : Node} (inner : Each suits content) :
      Each suits (.tagged tag content)

/-- What suits, suits all the more if less is asked for. -/
theorem Node.Each.mono {stronger weaker : String → Prop} {node : Node} (each : node.Each stronger)
    (implies : ∀ text, stronger text → weaker text) : node.Each weaker := by
  induction each with
  | null => exact .null
  | bool value => exact .bool value
  | integer value => exact .integer value
  | float value => exact .float value
  | string here => exact .string (implies _ here)
  | sequence _ ih => exact .sequence ih
  | mapping _ _ keys values => exact .mapping keys values
  | tagged tag _ ih => exact .tagged tag ih

theorem Node.each_of_forall {suits : String → Prop} (always : ∀ text, suits text) (node : Node) :
    node.Each suits := by
  match node with
  | .null => exact .null
  | .bool value => exact .bool value
  | .integer value => exact .integer value
  | .float value => exact .float value
  | .string text => exact .string (always text)
  | .sequence items => exact .sequence fun item found => each_of_forall always item
  | .mapping entries =>
      refine .mapping (fun ⟨key, value⟩ found => ?_) fun ⟨key, value⟩ found => ?_
      · exact each_of_forall always key
      · exact each_of_forall always value
  | .tagged tag content => exact .tagged tag (each_of_forall always content)
termination_by sizeOf node
decreasing_by
  · have := List.sizeOf_lt_of_mem found
    simp only [Node.sequence.sizeOf_spec]
    omega
  · have := List.sizeOf_lt_of_mem found
    simp only [Node.mapping.sizeOf_spec, Prod.mk.sizeOf_spec] at this ⊢
    omega
  · have := List.sizeOf_lt_of_mem found
    simp only [Node.mapping.sizeOf_spec, Prod.mk.sizeOf_spec] at this ⊢
    omega
  · simp only [Node.tagged.sizeOf_spec]
    omega

def Node.Within (size : Nat) (node : Node) : Prop := node.Each fun text => text.length ≤ size

inductive Tree.Within (size : Nat) : Tree → Prop
  | alias (anchor : Nat) : Within size (.alias anchor)
  | scalar (anchor : Option Nat) (tag : NodeTag) {text : String} (style : ScalarStyle)
      (mark : Mark) (fits : text.length ≤ size) : Within size (.scalar anchor tag text style mark)
  | sequence (anchor : Option Nat) (tag : NodeTag) {items : List Tree} (closed : Bool)
      (mark : Mark) (each : ∀ item ∈ items, Within size item) :
      Within size (.sequence anchor tag items closed mark)
  | mapping (anchor : Option Nat) (tag : NodeTag) {children : List Tree} (closed : Bool)
      (mark : Mark) (each : ∀ child ∈ children, Within size child) :
      Within size (.mapping anchor tag children closed mark)

variable {size : Nat} {text : String} {node : Node}

namespace Tree

namespace Building

/-- No scalar that has been read is longer than this. -/
structure Within (size : Nat) (building : Building) : Prop where
  opened : ∀ collection ∈ building.stack, ∀ child ∈ collection.children, child.Within size
  root : ∀ tree ∈ building.root, tree.Within size

variable {building : Building} {tree : Tree}

theorem Within.empty : Building.empty.Within size := ⟨nofun, nofun⟩

theorem Within.add (within : building.Within size) (fits : tree.Within size) :
    (building.add tree).Within size := by
  unfold Building.add
  split
  · refine ⟨within.opened, fun other same => ?_⟩
    cases same
    exact fits
  · rename_i top rest stacked
    have opened := within.opened
    rw [stacked] at opened
    refine ⟨fun collection found => ?_, within.root⟩
    rcases List.mem_cons.mp found with rfl | deeper
    · intro child member
      rcases List.mem_cons.mp member with rfl | earlier
      · exact fits
      · exact opened top List.mem_cons_self child earlier
    · exact opened collection (List.mem_cons_of_mem top deeper)

theorem Within.anchor (within : building.Within size) (name : Option (List Char)) :
    (building.anchor name).2.Within size := by
  cases name with
  | none => exact within
  | some name => exact ⟨within.opened, within.root⟩

theorem Within.begin (within : building.Within size) (isMapping : Bool) (properties : Properties)
    (mark : Mark) : (building.begin isMapping properties mark).Within size := by
  have kept := within.anchor properties.anchor
  refine ⟨fun collection found => ?_, kept.root⟩
  rcases List.mem_cons.mp found with rfl | deeper
  · exact nofun
  · exact kept.opened collection deeper

theorem close_within {collection : Open} (closed : Bool)
    (each : ∀ child ∈ collection.children, child.Within size) :
    (collection.close closed).Within size := by
  have reversed : ∀ child ∈ collection.children.reverse, child.Within size :=
    fun child found => each child (List.mem_reverse.mp found)
  unfold Open.close
  split
  · exact .mapping _ _ closed _ reversed
  · exact .sequence _ _ closed _ reversed

theorem Within.finish (within : building.Within size) (closed : Bool) :
    (building.finish closed).Within size := by
  unfold Building.finish
  split
  · exact within
  · rename_i top rest stacked
    have opened := within.opened
    rw [stacked] at opened
    refine Within.add ⟨fun collection found => ?_, within.root⟩ (close_within closed ?_)
    · exact opened collection (List.mem_cons_of_mem top found)
    · exact opened top List.mem_cons_self

theorem Within.breakOff (within : building.Within size) : building.breakOff.Within size := by
  unfold Building.breakOff
  generalize building.stack = opened
  induction opened generalizing building with
  | nil => exact within
  | cons collection rest ih => exact ih (within.finish false)

end Building

/-- The root of a document takes its scalars from the events. -/
theorem build_within {fault : Option SyntaxError} {events : List PlacedEvent}
    {building : Building} (bounded : ∀ placed ∈ events, placed.event.Within size)
    (within : building.Within size) :
    ∀ tree ∈ (build fault events building).root, tree.Within size := by
  induction events generalizing building with
  | nil => exact within.breakOff.root
  | cons placed rest ih =>
      obtain ⟨event, mark⟩ := placed
      obtain ⟨fits, later⟩ := List.forall_mem_cons.mp bounded
      have counted : building.count.Within size := ⟨within.opened, within.root⟩
      unfold build
      cases event with
      | documentStart => exact ih later within
      | documentEnd => exact within.breakOff.root
      | streamEnd => exact within.breakOff.root
      | «alias» name =>
          dsimp only
          split
          · exact ih later (counted.add (.alias _))
          · exact within.breakOff.root
      | scalar properties text style =>
          refine ih later ((counted.anchor _).add (.scalar _ _ _ _ ?_))
          rw [String.length_ofList]
          exact fits
      | sequenceStart properties => exact ih later (counted.begin _ _ _)
      | mappingStart properties => exact ih later (counted.begin _ _ _)
      | sequenceEnd => exact ih later (counted.finish true)
      | mappingEnd => exact ih later (counted.finish true)

/-- A choice finds what one of its sides finds. -/
private theorem of_orElse_eq_some {first second : Option Tree} {found : Tree}
    (same : (first <|> second) = some found) : first = some found ∨ second = some found := by
  rw [Option.orElse_eq_orElse, Option.orElse_eq_or, Option.or_eq_some_iff] at same
  exact same.imp_right And.right

mutual

theorem find?_within {anchor : Nat} {tree found : Tree} (within : tree.Within size)
    (same : tree.find? anchor = some found) : found.Within size := by
  have here {own : Option Nat}
      (same : (if own = some anchor then some tree else none) = some found) :
      found.Within size := by
    obtain ⟨-, same⟩ := Option.ite_none_right_eq_some.mp same
    cases same
    exact within
  match tree with
  | .alias _ => cases same
  | .scalar _ _ _ _ _ => exact here same
  | .sequence _ _ items _ _ =>
      cases within with
      | sequence _ _ _ _ each =>
          rcases of_orElse_eq_some same with inner | own
          · exact findIn?_within each inner
          · exact here own
  | .mapping _ _ children _ _ =>
      cases within with
      | mapping _ _ _ _ each =>
          rcases of_orElse_eq_some same with inner | own
          · exact findIn?_within each inner
          · exact here own

theorem findIn?_within {anchor : Nat} {trees : List Tree} {found : Tree}
    (each : ∀ tree ∈ trees, tree.Within size) (same : findIn? anchor trees = some found) :
    found.Within size := by
  match trees with
  | [] => cases same
  | tree :: rest =>
      obtain ⟨first, others⟩ := List.forall_mem_cons.mp each
      rcases of_orElse_eq_some same with later | here
      · exact findIn?_within others later
      · exact find?_within first here

end

theorem Reader.exists_of_bind_eq_ok {α β : Type} {first : Reader α} {next : α → Reader β}
    {count final : Nat} {value : β} (done : (first >>= next) count = .ok (value, final)) :
    ∃ middle between, first count = .ok (middle, between) ∧
      next middle between = .ok (value, final) := by
  obtain ⟨⟨middle, between⟩, before, behind⟩ := TaggedConfig.exists_of_bind_eq_ok done
  exact ⟨middle, between, before, behind⟩

def Surroundings.Within (size : Nat) (document : Surroundings) : Prop :=
  ∀ tree, some tree ∈ document.anchored → tree.Within size

variable {document : Surroundings} {tree : Tree} {count final : Nat}

theorem follow_within {target : Tree} (anchored : document.Within size)
    (within : tree.Within size) (done : follow document tree count = .ok (target, final)) :
    target.Within size := by
  cases tree with
  | «alias» anchor =>
      obtain ⟨followed, _, -, counted⟩ := Reader.exists_of_bind_eq_ok done
      obtain ⟨_, between, -, limited⟩ := Reader.exists_of_bind_eq_ok counted
      by_cases beyond : document.aliasLimit < followed + 1
      · rw [if_pos beyond] at limited
        obtain ⟨_, _, thrown, -⟩ := Reader.exists_of_bind_eq_ok limited
        cases thrown
      · rw [if_neg beyond] at limited
        cases anchoredHere : document.anchored[anchor]?.join with
        | none =>
            rw [anchoredHere] at limited
            cases limited
        | some other =>
            rw [anchoredHere] at limited
            cases limited
            rw [Option.join_eq_some_iff] at anchoredHere
            exact anchored target (List.mem_of_getElem? anchoredHere)
  | scalar => cases done; exact within
  | sequence => cases done; exact within
  | mapping => cases done; exact within

theorem wrapTag_within (tag : NodeTag) (within : node.Within size) :
    (wrapTag tag node).Within size := by
  cases tag with
  | named name => exact .tagged name within
  | absent => exact within
  | standard type => exact within
  | nameless => exact within
  | foreign => exact within

end Tree

namespace Scalar

theorem intNode?_within {digits : List Char} (found : intNode? digits = some (.ok node)) :
    node.Within size := by
  unfold intNode? at found
  split at found
  · cases found
  · rename_i value _
    split at found
    · cases found
      exact .integer value
    · split at found
      · cases found
      · cases found

theorem plain_within (fits : text.length ≤ size) (done : plain text = .ok node) :
    node.Within size := by
  unfold plain at done
  split at done
  · cases done
    exact .null
  · split at done
    · cases done
      exact .bool _
    · split at done
      · rename_i found
        subst done
        exact intNode?_within found
      · split at done
        · cases done
          exact .string fits
        · split at done
          · cases done
            exact .float _
          · cases done
            exact .string fits

theorem typed_within {type : ScalarType} (done : typed type text = .ok node) :
    node.Within size := by
  unfold typed at done
  dsimp only at done
  cases type with
  | bool =>
      cases found : bool? text <;> rw [found] at done <;> cases done
      exact .bool _
  | int =>
      cases found : intNode? text.toList with
      | none =>
          rw [found] at done
          cases done
      | some result =>
          rw [found] at done
          subst done
          exact intNode?_within found
  | float =>
      cases found : float? text.toList <;> rw [found] at done <;> cases done
      exact .float _
  | null =>
      dsimp only at done
      split at done <;> cases done
      exact .null

theorem untagged_within {style : ScalarStyle} (fits : text.length ≤ size)
    (done : untagged text style = .ok node) : node.Within size := by
  refine of_ite_eq_ok done (plain_within fits) fun same => ?_
  cases same
  exact .string fits

end Scalar

namespace Tree

theorem readScalar_within {tag : NodeTag} {style : ScalarStyle} (fits : text.length ≤ size)
    (done : readScalar tag text style = .ok node) : node.Within size := by
  cases tag with
  | absent => exact Scalar.untagged_within fits done
  | nameless => exact Scalar.untagged_within fits done
  | named name =>
      cases read : Scalar.untagged text style with
      | error issue => simp [readScalar, read, Except.map] at done
      | ok content =>
          simp only [readScalar, read, Except.map, Except.ok.injEq] at done
          subst done
          exact .tagged name (Scalar.untagged_within fits read)
  | standard type => exact Scalar.typed_within done
  | foreign =>
      cases done
      exact .string fits

theorem read_scalar_within {tag : NodeTag} {style : ScalarStyle} {path : List PathStep}
    {mark : Mark} (fits : text.length ≤ size)
    (done : (match readScalar tag text style with
      | .ok node => pure node
      | .error issue => throw (.content issue path mark) : Reader Node) count =
        .ok (node, final)) :
    node.Within size := by
  cases read : readScalar tag text style with
  | ok content =>
      rw [read] at done
      cases done
      exact readScalar_within fits read
  | error issue =>
      rw [read] at done
      cases done

theorem readItems_within {readItem : Nat → Tree → Reader Node} {closed : Bool} {position : Nat}
    {trees : List Tree} {items : List Node}
    (each : ∀ position, ∀ tree ∈ trees, ∀ count final node,
      readItem position tree count = .ok (node, final) → node.Within size)
    (done : readItems document readItem closed position trees count = .ok (items, final)) :
    ∀ item ∈ items, item.Within size := by
  induction trees generalizing position items count with
  | nil =>
      cases closed with
      | true => cases done; exact nofun
      | false => cases done
  | cons tree rest ih =>
      obtain ⟨item, _, read, done⟩ := Reader.exists_of_bind_eq_ok done
      obtain ⟨others, _, readRest, done⟩ := Reader.exists_of_bind_eq_ok done
      cases done
      refine List.forall_mem_cons.mpr ⟨each position tree List.mem_cons_self _ _ _ read, ?_⟩
      exact ih (fun position tree found => each position tree (.tail _ found)) readRest

theorem readEntries_within {readKey : Tree → Reader Node} {readValue : PathStep → Tree → Reader Node}
    {duplicate : Node → ReadError} {closed : Bool} {behind entries : List (Node × Node)}
    {trees : List Tree}
    (keys : ∀ tree ∈ trees, ∀ count final node,
      readKey tree count = .ok (node, final) → node.Within size)
    (values : ∀ step, ∀ tree ∈ trees, ∀ count final node,
      readValue step tree count = .ok (node, final) → node.Within size)
    (before : ∀ entry ∈ behind, entry.1.Within size ∧ entry.2.Within size)
    (done : readEntries document readKey readValue duplicate closed behind trees count =
      .ok (entries, final)) :
    ∀ entry ∈ entries, entry.1.Within size ∧ entry.2.Within size := by
  match trees with
  | [] =>
      cases closed with
      | true =>
          cases done
          exact fun entry found => before entry (List.mem_reverse.mp found)
      | false => cases done
  | [keyTree] =>
      unfold readEntries at done
      obtain ⟨key, _, -, done⟩ := Reader.exists_of_bind_eq_ok done
      cases repeated : behind.find? (fun entry => entry.1.same key) <;> rw [repeated] at done <;>
        cases done
  | keyTree :: valueTree :: rest =>
      obtain ⟨keysHere, keysLater⟩ := List.forall_mem_cons.mp keys
      unfold readEntries at done
      obtain ⟨key, _, readKeyHere, done⟩ := Reader.exists_of_bind_eq_ok done
      cases repeated : behind.find? (fun entry => entry.1.same key) with
      | some entry =>
          rw [repeated] at done
          cases done
      | none =>
          rw [repeated] at done
          obtain ⟨value, _, readValueHere, done⟩ := Reader.exists_of_bind_eq_ok done
          refine readEntries_within (fun tree found => keysLater tree (.tail _ found))
            (fun step tree found => values step tree (.tail _ (.tail _ found))) ?_ done
          refine List.forall_mem_cons.mpr ⟨⟨?_, ?_⟩, before⟩
          · exact keysHere _ _ key readKeyHere
          · exact values _ valueTree (.tail _ (.head _)) _ _ value readValueHere

/-- Reading keeps the bound of what is written. -/
theorem read_within {depth : Nat} {path : List PathStep} (anchored : document.Within size)
    (within : tree.Within size) (done : read document depth path tree count = .ok (node, final)) :
    node.Within size := by
  induction depth generalizing path tree count final node with
  | zero =>
      unfold read at done
      obtain ⟨target, _, followed, done⟩ := Reader.exists_of_bind_eq_ok done
      cases follow_within anchored within followed with
      | «alias» anchor => cases done
      | scalar anchor tag style mark fits => exact read_scalar_within fits done
      | sequence anchor tag closed mark each => cases done
      | mapping anchor tag closed mark each => cases done
  | succ depth ih =>
      unfold read at done
      obtain ⟨target, _, followed, done⟩ := Reader.exists_of_bind_eq_ok done
      cases follow_within anchored within followed with
      | «alias» anchor => cases done
      | scalar anchor tag style mark fits => exact read_scalar_within fits done
      | sequence anchor tag closed mark each =>
          obtain ⟨items, _, readAll, done⟩ := Reader.exists_of_bind_eq_ok done
          cases done
          refine wrapTag_within tag (.sequence (readItems_within ?_ readAll))
          exact fun position tree found count final node => ih (each tree found)
      | mapping anchor tag closed mark each =>
          obtain ⟨entries, _, readAll, done⟩ := Reader.exists_of_bind_eq_ok done
          cases done
          have bounds := readEntries_within (fun tree found count final node => ih (each tree found))
            (fun step tree found count final node => ih (each tree found)) (by simp) readAll
          exact wrapTag_within tag (.mapping (fun entry found => (bounds entry found).1)
            fun entry found => (bounds entry found).2)

end Tree

/-- No string in the document of a text is longer than the text. -/
theorem Node.within_of_parse {text : List Char} (done : Node.parse text = .ok node) :
    node.Within text.length := by
  have bounds : ∀ tree ∈ (Tree.build (events text).2 (events text).1 .empty).root,
      tree.Within text.length :=
    Tree.build_within (fun placed => within_of_mem_events) .empty
  unfold Node.parse at done
  dsimp only at done
  split at done
  · cases done
    exact .null
  · cases done
  · rename_i root ending found _
    have rootWithin : found.Within text.length := bounds found ‹_›
    obtain ⟨⟨content, _⟩, reading, done⟩ := exists_of_bind_eq_ok done
    have same : content = node := by
      split at done
      · cases done
      · split at done
        · cases done
          rfl
        · cases done
    rw [← same]
    refine Tree.read_within (fun tree member => ?_) rootWithin reading
    obtain ⟨anchor, -, located⟩ := List.mem_map.mp member
    exact Tree.find?_within rootWithin located

end TaggedConfig.Yaml
