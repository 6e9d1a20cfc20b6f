import TaggedConfig.Proofs.Failing.Locations
import TaggedConfig.Proofs.Failing.TrailTexts

/-!
# Documents with plain keys

The text of a location belongs to one trail, if the keys on this trail are plain.  In a document whose
keys imply nothing and come out as different plain texts, every walk ends at a node of the tree, or of
a tree that stands in one of its texts, and the trail of the walk leads to this node and to no other.
So the text of a location points to exactly one node there.
-/

namespace TaggedConfig

/-- A text assigns the value of a tree, which stands behind one arrow or several. -/
inductive HoldsTree : String → Yaml.Node → Prop
  | here {text name valueText : String} {tree : Yaml.Node}
      (assigned : Implicit.assignment? text = some (name, valueText))
      (ordinary : Implicit.ofText? valueText = none)
      (begun : taggedNode? valueText = some tree) : HoldsTree text tree
  | further {text name valueText : String} {tree : Yaml.Node}
      (assigned : Implicit.assignment? text = some (name, valueText))
      (inner : HoldsTree valueText tree) : HoldsTree text tree

namespace HoldsTree

variable {text : String} {tree other : Yaml.Node}

theorem not_of_ordinary (ordinary : Implicit.ofText? text = none) : ¬HoldsTree text tree := by
  have refuted {name valueText : String}
      (assigned : Implicit.assignment? text = some (name, valueText)) : False := by
    unfold Implicit.ofText? at ordinary
    rw [assigned] at ordinary
    cases ordinary
  intro holds
  cases holds with
  | here assigned _ _ => exact refuted assigned
  | further assigned _ => exact refuted assigned

theorem unique (holds : HoldsTree text tree) (also : HoldsTree text other) : tree = other := by
  induction holds with
  | here assigned ordinary begun =>
      cases also with
      | here assignedToo _ begunToo =>
          cases assigned.symm.trans assignedToo
          exact Option.some.inj (begun.symm.trans begunToo)
      | further assignedToo inner =>
          cases assigned.symm.trans assignedToo
          exact absurd inner (not_of_ordinary ordinary)
  | further assigned inner ih =>
      cases also with
      | here assignedToo ordinary _ =>
          cases assigned.symm.trans assignedToo
          exact absurd inner (not_of_ordinary ordinary)
      | further assignedToo innerToo =>
          cases assigned.symm.trans assignedToo
          exact ih innerToo

end HoldsTree

namespace Yaml.Node

def literalKey? : Node → Option String
  | .null => Value.null.key?
  | .bool value => (Value.bool value).key?
  | .integer value => (Value.ofInteger value).key?
  | .float value => (Value.float value).key?
  | .string text => if Implicit.ofText? text = none then some text else none
  | .sequence _ | .mapping _ | .tagged _ _ => none

theorem literalKey?_string_iff {text key : String} :
    (Node.string text).literalKey? = some key ↔ Implicit.ofText? text = none ∧ text = key := by
  change (if Implicit.ofText? text = none then some text else none) = some key ↔ _
  split
  · rename_i ordinary
    exact ⟨fun same => ⟨ordinary, Option.some.inj same⟩, fun same => congrArg some same.2⟩
  · rename_i implies
    exact ⟨nofun, fun same => absurd same.1 implies⟩

def assigningText? : Node → Option String
  | .string text | .tagged _ (.string text) => some text
  | _ => none

/-- A trail leads from a node to another one, which may stand in a text. -/
inductive Leads : Node → Trail → Node → Prop
  | here (node : Node) : Leads node [] node
  | item {items : List Node} {position : Nat} {item target : Node} {rest : Trail}
      (found : items[position]? = some item) (inside : Leads item rest target) :
      Leads (.sequence items) (.index position :: rest) target
  | value {entries : List (Node × Node)} {keyNode valueNode target : Node} {key : String}
      {rest : Trail} (found : (keyNode, valueNode) ∈ entries)
      (read : keyNode.literalKey? = some key) (inside : Leads valueNode rest target) :
      Leads (.mapping entries) (.key key :: rest) target
  | content {name : String} {content target : Node} {segment : Segment} {rest : Trail}
      (collection : Scope.isCollection content = true)
      (inside : Leads content (segment :: rest) target) :
      Leads (.tagged name content) (segment :: rest) target
  | valueText {node tree target : Node} {text : String} {segment : Segment} {rest : Trail}
      (written : node.assigningText? = some text) (holds : HoldsTree text tree)
      (inside : Leads tree (segment :: rest) target) : Leads node (segment :: rest) target

/-- The keys of a tree imply nothing and come out as different plain texts. -/
inductive HasPlainKeys : Node → Prop
  | null : HasPlainKeys .null
  | bool (value : Bool) : HasPlainKeys (.bool value)
  | integer (value : Int) : HasPlainKeys (.integer value)
  | float (value : Binary64) : HasPlainKeys (.float value)
  | string {text : String} (trees : ∀ tree, HoldsTree text tree → HasPlainKeys tree) :
      HasPlainKeys (.string text)
  | sequence {items : List Node} (each : ∀ item ∈ items, HasPlainKeys item) :
      HasPlainKeys (.sequence items)
  | mapping {entries : List (Node × Node)}
      (keys : ∀ entry ∈ entries, ∃ key, entry.1.literalKey? = some key ∧ (Segment.key key).IsPlain)
      (distinct : (entries.map fun entry => entry.1.literalKey?).Nodup)
      (values : ∀ entry ∈ entries, HasPlainKeys entry.2) : HasPlainKeys (.mapping entries)
  | tagged {name : String} {content : Node} (inside : HasPlainKeys content) :
      HasPlainKeys (.tagged name content)

variable {node target other : Node} {trail : Trail} {text : String}

theorem HasPlainKeys.ofText (plain : node.HasPlainKeys)
    (written : node.assigningText? = some text) : (Node.string text).HasPlainKeys := by
  cases plain with
  | string trees =>
      cases written
      exact .string trees
  | tagged inside =>
      cases inside with
      | string trees =>
          cases written
          exact .string trees
      | _ => cases written
  | _ => cases written

theorem not_collection_of_assigning {name : String}
    (written : (Node.tagged name node).assigningText? = some text) :
    ¬Scope.isCollection node = true := by
  cases node with
  | string other => exact Bool.false_ne_true
  | _ => cases written

namespace Leads

theorem hasPlainKeys (leads : node.Leads trail target) (plain : node.HasPlainKeys) :
    trail.HasPlainKeys := by
  induction leads with
  | here node => exact nofun
  | item found inside ih =>
      cases plain with
      | sequence each =>
          have later := ih (each _ (List.mem_of_getElem? found))
          exact List.forall_mem_cons.mpr ⟨trivial, later⟩
  | value found read inside ih =>
      cases plain with
      | mapping keys distinct values =>
          obtain ⟨key, readToo, here⟩ := keys _ found
          cases read.symm.trans readToo
          exact List.forall_mem_cons.mpr ⟨here, ih (values _ found)⟩
  | content collection inside ih =>
      cases plain with
      | tagged plainInside => exact ih plainInside
  | valueText written holds inside ih =>
      cases plain.ofText written with
      | string trees => exact ih (trees _ holds)

theorem unique (leads : node.Leads trail target) (also : node.Leads trail other)
    (plain : node.HasPlainKeys) : target = other := by
  induction leads with
  | here node =>
      cases also with
      | here _ => rfl
  | item found inside ih =>
      cases also with
      | item foundToo insideToo =>
          cases plain with
          | sequence each =>
              cases found.symm.trans foundToo
              exact ih insideToo (each _ (List.mem_of_getElem? found))
      | valueText written _ _ => cases written
  | value found read inside ih =>
      cases also with
      | value foundToo readToo insideToo =>
          cases plain with
          | mapping keys distinct values =>
              have alike := read.trans readToo.symm
              cases List.inj_on_of_nodup_map distinct found foundToo alike
              exact ih insideToo (values _ found)
      | valueText written _ _ => cases written
  | content collection inside ih =>
      cases also with
      | content _ insideToo =>
          cases plain with
          | tagged plainInside => exact ih insideToo plainInside
      | valueText written _ _ => exact absurd collection (not_collection_of_assigning written)
  | valueText written holds inside ih =>
      cases also with
      | item _ _ => cases written
      | value _ _ _ => cases written
      | content collection _ => exact absurd collection (not_collection_of_assigning written)
      | valueText writtenToo holdsToo insideToo =>
          cases written.symm.trans writtenToo
          cases holds.unique holdsToo
          cases plain.ofText written with
          | string trees => exact ih insideToo (trees _ holds)

theorem ofText (written : node.assigningText? = some text)
    (leads : (Node.string text).Leads trail target) : ∃ target, node.Leads trail target := by
  cases leads with
  | here _ => exact ⟨node, .here node⟩
  | valueText same holds inside =>
      cases same
      exact ⟨_, .valueText written holds inside⟩

/-- What is reached in a text behind an arrow is reached from the whole text. -/
theorem ofValueText {name valueText : String}
    (assigned : Implicit.assignment? text = some (name, valueText))
    (leads : (Node.string valueText).Leads trail target) :
    ∃ target, (Node.string text).Leads trail target := by
  cases leads with
  | here _ => exact ⟨_, .here _⟩
  | valueText same holds inside =>
      cases same
      exact ⟨_, .valueText rfl (.further assigned holds) inside⟩

end Leads

end Yaml.Node

/-- A key that implies nothing has its text as value. -/
theorem Scope.resolve_of_literalKey (scope : Scope) {keyNode : Yaml.Node} {key : String}
    (read : keyNode.literalKey? = some key) :
    ∃ value, scope.resolve keyNode = .ofValue value ∧ value.asKey = .ok key := by
  have fits {value : Value} (read : value.key? = some key) : value.asKey = .ok key := by
    unfold Value.asKey
    rw [read]
  cases keyNode with
  | null => exact ⟨_, rfl, fits read⟩
  | bool value => exact ⟨_, rfl, fits read⟩
  | integer value => exact ⟨_, rfl, fits read⟩
  | float value => exact ⟨_, rfl, fits read⟩
  | string text =>
      obtain ⟨ordinary, rfl⟩ := Yaml.Node.literalKey?_string_iff.mp read
      refine ⟨.string text, ?_, rfl⟩
      unfold Scope.resolve Scope.resolveNode Scope.resolveText
      rw [ordinary]
  | sequence items => cases read
  | mapping entries => cases read
  | tagged name content => cases read

section

variable {loader : Loader} {host : Surroundings} {files : Dialogue.Files} {here : Standpoint}

/-- No walk ends in a key that implies nothing. -/
theorem NodeMeets.not_of_literalKey {store left : Store} {keyNode : Yaml.Node} {key : String}
    {trail : Trail} {obstacle : Obstacle} (read : keyNode.literalKey? = some key) :
    ¬NodeMeets loader host files here store keyNode trail left obstacle := by
  intro met
  cases met with
  | @text _ _ text _ _ asked =>
      obtain ⟨ordinary, -⟩ := Yaml.Node.literalKey?_string_iff.mp read
      have asks : Request.ofText text = .settled (.ok (.string text)) := by
        unfold Request.ofText
        rw [ordinary]
      rw [asks] at asked
      cases asked
  | _ => cases read

mutual

/-- A walk in a tree with plain keys ends at a node of the tree. -/
theorem NodeMeets.exists_leads {store left : Store} {node : Yaml.Node} {trail : Trail}
    {obstacle : Obstacle} (plain : node.HasPlainKeys)
    (met : NodeMeets loader host files here store node trail left obstacle) :
    ∃ target, node.Leads trail target := by
  match met with
  | .text asked =>
      exact asked.exists_leads plain fun _ _ same =>
        ⟨_, rfl, Request.ofText_eq_assignText same⟩
  | .item _ inner =>
      cases plain with
      | sequence each =>
          obtain ⟨target, leads⟩ := inner.exists_leads (each _ List.mem_append_cons_self)
          exact ⟨target, .item (by simp) leads⟩
  | .key _ inner =>
      cases plain with
      | mapping keys _ _ =>
          obtain ⟨key, read, -⟩ := keys _ List.mem_append_cons_self
          exact absurd inner (NodeMeets.not_of_literalKey read)
  | .noKey _ _ _ => exact ⟨_, .here _⟩
  | .value _ keyRun fit inner =>
      cases plain with
      | mapping keys _ values =>
          obtain ⟨target, leads⟩ := inner.exists_leads (values _ List.mem_append_cons_self)
          obtain ⟨key, read, -⟩ := keys _ List.mem_append_cons_self
          obtain ⟨keyValue, resolved, fitToo⟩ := Scope.resolve_of_literalKey _ read
          rw [resolved] at keyRun
          cases keyRun
          cases fit.symm.trans fitToo
          exact ⟨target, .value List.mem_append_cons_self read leads⟩
  | .unknownTag _ => exact ⟨_, .here _⟩
  | .content _ collection inner =>
      cases plain with
      | tagged plainInside =>
          obtain ⟨target, leads⟩ := inner.exists_leads plainInside
          cases trail with
          | nil => exact ⟨_, .here _⟩
          | cons segment rest => exact ⟨target, .content collection leads⟩
  | .noLiteral _ _ _ => exact ⟨_, .here _⟩
  | .tag _ contentRun asked =>
      refine asked.exists_leads plain fun name valueText same => ?_
      obtain ⟨-, text, written, assigned⟩ := Request.ofTag_eq_assignText same
      subst written
      cases Scope.eq_string_of_content contentRun
      exact ⟨text, rfl, assigned⟩

theorem RequestMeets.exists_leads {store left : Store} {request : Request} {trail : Trail}
    {obstacle : Obstacle} {node : Yaml.Node} (plain : node.HasPlainKeys)
    (met : RequestMeets loader host files here store request trail left obstacle)
    (written : ∀ name valueText, request = .assignText name valueText →
      ∃ text, node.assigningText? = some text ∧
        Implicit.assignment? text = some (name, valueText)) :
    ∃ target, node.Leads trail target := by
  match met with
  | .settled _ _ => exact ⟨_, .here _⟩
  | .missing _ => exact ⟨_, .here _⟩
  | .valueText inner =>
      obtain ⟨text, written, assigned⟩ := written _ _ rfl
      obtain ⟨target, leads⟩ := inner.exists_leads assigned (plain.ofText written)
      exact leads.ofText written
  | .document _ _ => exact ⟨_, .here _⟩

theorem ValueTextMeets.exists_leads {store left : Store} {valueText text name : String}
    {trail : Trail} {obstacle : Obstacle}
    (assigned : Implicit.assignment? text = some (name, valueText))
    (plain : (Yaml.Node.string text).HasPlainKeys)
    (met : ValueTextMeets loader host files here store valueText trail left obstacle) :
    ∃ target, (Yaml.Node.string text).Leads trail target := by
  match met with
  | .implied _ asked =>
      have plainInside : (Yaml.Node.string valueText).HasPlainKeys := by
        cases plain with
        | string trees => exact .string fun tree holds => trees tree (.further assigned holds)
      obtain ⟨target, leads⟩ := asked.exists_leads plainInside fun _ _ same =>
        ⟨_, rfl, Request.ofText_eq_assignText same⟩
      exact leads.ofValueText assigned
  | .tagged ordinary begun inner =>
      have holds := HoldsTree.here assigned ordinary begun
      cases plain with
      | string trees =>
          obtain ⟨target, leads⟩ := inner.exists_leads (trees _ holds)
          cases trail with
          | nil => exact ⟨_, .here _⟩
          | cons segment rest => exact ⟨target, .valueText rfl holds leads⟩

end

end

/-- Every document on the way to a failure has a walk that comes to its frame's place. -/
theorem DocumentFails.exists_meets {loader : Loader} {host : Surroundings} {files : Dialogue.Files}
    {depth : Nat} {store : Store} {document : Document} {frames : List Frame} {cause : Cause}
    (fails : DocumentFails loader host files depth store document frames cause) :
    ∀ frame ∈ frames, ∃ depth store left obstacle,
      DocumentMeets loader host files depth store frame.document frame.trail left obstacle := by
  induction fails with
  | here met | nameless met _ | tooDeep met _ _ | unreadable met _ _ _ | malformed met _ _ _ _ =>
      exact List.forall_mem_singleton.mpr ⟨_, _, _, _, met⟩
  | nested met _ _ _ _ _ ih => exact List.forall_mem_cons.mpr ⟨⟨_, _, _, _, met⟩, ih⟩

/-- A text points to a node of a tree if it is the text of a trail that leads there. -/
def Yaml.Node.PointsTo (root : Yaml.Node) (text : String) (node : Yaml.Node) : Prop :=
  ∃ trail : Trail, trail.HasPlainKeys ∧ trail.describe = text ∧ root.Leads trail node

namespace Loader

/--
The text of a trail with plain keys is the text of no other trail with plain keys.  So the text of a
location tells the trail to the place that a document has come to, if the keys on this trail are
plain; and it points to exactly one node, if all keys of the document are.
-/
theorem location_tells_trail :
    (∀ first second : Trail, first.HasPlainKeys → second.HasPlainKeys →
      first.describe = second.describe → first = second) ∧
    ∀ (loader : Loader) (host : Surroundings) (files : Dialogue.Files) (store : Store)
      (document : Document) (error : ConfigError) (left : Store),
      (loader.resolveDocument host document).run files store = (some (.error error), left) →
        ∃ frames, error.locations = frames.map Frame.location ∧
          DocumentFails loader host files 0 store document frames error.cause ∧
          ∀ frame ∈ frames,
            (frame.trail.HasPlainKeys → ∀ trail : Trail, trail.HasPlainKeys →
              (trail.describe = frame.location.node ↔ trail = frame.trail)) ∧
            (frame.document.root.HasPlainKeys → frame.trail.HasPlainKeys ∧
              ∃! node, frame.document.root.PointsTo frame.location.node node) := by
  refine ⟨fun first second => Trail.describe_inj, fun loader host files store document error left
    failed => ?_⟩
  obtain ⟨frames, fails, located⟩ := resolveWithin_fails (Nat.add_zero _) failed
  refine ⟨frames, located, fails, fun frame listed => ⟨?_, fun plain => ?_⟩⟩
  · intro plain trail plainToo
    exact ⟨fun same => Trail.describe_inj plainToo plain same, fun same => same ▸ rfl⟩
  · obtain ⟨depth, reached, behind, obstacle, met⟩ := fails.exists_meets frame listed
    obtain ⟨node, leads⟩ := met.exists_leads plain
    have plainTrail := leads.hasPlainKeys plain
    refine ⟨plainTrail, node, ⟨frame.trail, plainTrail, rfl, leads⟩, ?_⟩
    rintro other ⟨trail, plainToo, same, leadsToo⟩
    obtain rfl : trail = frame.trail := Trail.describe_inj plainToo plainTrail same
    exact leadsToo.unique leads plain

/-- A key of digits and a position are told apart, and lead to the variable that is missing. -/
theorem location_tells_trail_of_digits :
    let root : Yaml.Node :=
      .mapping [(.integer 0, .sequence [.null, .string "$x"]), (.string "1", .null)]
    let document : Document := ⟨root, ⟨"."⟩, none⟩
    let error : ConfigError := ⟨[⟨none, "0[1]"⟩], .undefinedVariable "x"⟩
    let trail : Trail := [.key "0", .index 1]
    ((ofOptions [] none).resolveDocument .atRoot document).run (fun _ => .ok "") Store.empty =
        (some (.error error), Store.empty) ∧
      trail.HasPlainKeys ∧ trail.describe = "0[1]" ∧
      Trail.describe [.key "0", .key "1"] ≠ "0[1]" ∧ root.HasPlainKeys ∧
      (∃ frame : Frame, error.locations = [frame.location] ∧ frame.trail = trail) ∧
      ∃! node, root.PointsTo "0[1]" node := by
  intro root document error trail
  have failed : ((ofOptions [] none).resolveDocument .atRoot document).run (fun _ => .ok "")
      Store.empty = (some (.error error), Store.empty) := by
    cbv
  have plain : trail.HasPlainKeys := by decide
  have described : trail.describe = "0[1]" := by decide
  have noTree (tree : Yaml.Node) : ¬HoldsTree "$x" tree := by
    have unassigned : Implicit.assignment? "$x" = none := by decide
    intro holds
    cases holds with
    | here assigned _ _ => cases unassigned.symm.trans assigned
    | further assigned _ => cases unassigned.symm.trans assigned
  have plainRoot : root.HasPlainKeys := by
    refine .mapping ?_ (by decide) ?_
    · exact List.forall_mem_cons.mpr ⟨⟨"0", by decide, by decide⟩,
        List.forall_mem_singleton.mpr ⟨"1", by decide, by decide⟩⟩
    · refine List.forall_mem_cons.mpr ⟨.sequence ?_, List.forall_mem_singleton.mpr .null⟩
      exact List.forall_mem_cons.mpr ⟨.null, List.forall_mem_singleton.mpr
        (.string fun tree holds => absurd holds (noTree tree))⟩
  obtain ⟨tells, places⟩ := location_tells_trail
  obtain ⟨frames, located, fails, each⟩ := places _ _ _ _ document error _ failed
  obtain ⟨reached, inner, rfl⟩ := fails.exists_first
  obtain ⟨here, -⟩ := List.cons.inj located
  obtain ⟨told, points⟩ := each ⟨document, reached⟩ List.mem_cons_self
  obtain ⟨plainReached, node⟩ := points plainRoot
  have written : reached.describe = "0[1]" := congrArg Location.node here.symm
  have same : trail = reached := (told plainReached trail plain).mp (described.trans written.symm)
  refine ⟨failed, plain, described, fun confused => ?_, plainRoot,
    ⟨⟨document, reached⟩, congrArg (fun location => [location]) here, same.symm⟩, ?_⟩
  · have other := tells [.key "0", .key "1"] trail (by decide) plain (confused.trans described.symm)
    exact absurd other (by decide)
  · rwa [← written]

end Loader

end TaggedConfig
