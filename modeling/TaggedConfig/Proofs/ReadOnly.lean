import TaggedConfig.Proofs.PlainTrees
import TaggedConfig.Proofs.SideBySide
import TaggedConfig.Proofs.TagEffects

/-!
# Documents that store nothing

A document without a tag for assignments or documents, and without a text that looks like an
assignment, assigns no variable, whatever the variables hold that it reads.  What is computed, or
read from a variable, is never looked at as a text that may imply a tag.
-/

namespace TaggedConfig

/-- The tags that can lead to an assignment. -/
def Tag.storing : List Tag := [.store, .includeFile]

/--
No node has a storing tag, and no text looks like an assignment; what is no collection may do so
behind a tag, where it is taken as it is written.
-/
inductive Yaml.Node.StoresNothing : Yaml.Node → Prop
  | null : StoresNothing .null
  | bool (value : Bool) : StoresNothing (.bool value)
  | integer (value : Int) : StoresNothing (.integer value)
  | float (value : Binary64) : StoresNothing (.float value)
  | string {text : String} (noArrow : Implicit.assignment? text = none) :
      StoresNothing (.string text)
  | sequence {items : List Yaml.Node} (each : ∀ item ∈ items, StoresNothing item) :
      StoresNothing (.sequence items)
  | mapping {entries : List (Yaml.Node × Yaml.Node)}
      (keys : ∀ entry ∈ entries, StoresNothing entry.1)
      (values : ∀ entry ∈ entries, StoresNothing entry.2) : StoresNothing (.mapping entries)
  | tagged {name : String} {content : Yaml.Node}
      (other : ∀ tag ∈ Tag.storing, tagName name ≠ tag.name)
      (inside : Scope.isCollection content = true → StoresNothing content) :
      StoresNothing (.tagged name content)

namespace Dialogue

variable {ε δ α β : Type} [HasCause ε] [HasCause δ] {files : Files} {dialogue : Dialogue ε α}

/-- Every run assigns no variable and comes to an end. -/
def OnlyReads (files : Files) (dialogue : Dialogue ε α) : Prop :=
  dialogue.Ensures files fun history result =>
    Access.assignments history = [] ∧ result ≠ .error .cutOff

namespace OnlyReads

theorem ofValue (value : α) : (Dialogue.ofValue value : Dialogue ε α).OnlyReads files :=
  Ensures.ofValue ⟨rfl, nofun⟩

theorem fail (error : ε) : (Dialogue.fail error : Dialogue ε α).OnlyReads files :=
  Ensures.fail ⟨rfl, nofun⟩

theorem read {name : String} {next : Option Value → Dialogue ε α}
    (answered : ∀ answer, (next answer).OnlyReads files) :
    (Dialogue.read name next).OnlyReads files :=
  Ensures.read answered

theorem bind {continuation : α → Dialogue ε β} (first : dialogue.OnlyReads files)
    (later : ∀ value, (continuation value).OnlyReads files) :
    (dialogue.bind continuation).OnlyReads files := by
  refine Ensures.bind first ?_ ?_
  · intro history stop reads
    refine ⟨reads.1, fun same => reads.2 ?_⟩
    cases same
    rfl
  · intro before value reads
    refine Ensures.mono (later value) fun after result behind => ⟨?_, behind.2⟩
    rw [Access.assignments_append, reads.1, behind.1, List.append_nil]

theorem mapError {change : ε → δ}
    (kept : ∀ error, HasCause.cause (change error) = HasCause.cause error)
    (reads : dialogue.OnlyReads files) : (dialogue.mapError change).OnlyReads files :=
  Ensures.mapError kept reads

/-- What only reads has a value or an error, and leaves the store as it was. -/
theorem run_eq (reads : dialogue.OnlyReads files) (store : Store) :
    ∃ result, dialogue.run files store = (some result, store) := by
  obtain ⟨nothing, ended⟩ := reads store
  have kept : (dialogue.run files store).2 = store := by
    rw [run_store, nothing]
    rfl
  cases ran : (dialogue.run files store).1 with
  | some result => exact ⟨result, Prod.ext ran kept⟩
  | none =>
      rw [ran] at ended
      exact absurd rfl ended

end OnlyReads

end Dialogue

theorem Resolving.Compatible.onlyReads (files : Dialogue.Files) :
    Compatible fun _ first _ => first.OnlyReads files where
  ofExcept
    | .ok value => .ofValue value
    | .error _ => .fail _
  lookUp _ := .read fun
    | some value => .ofValue value
    | none => .fail _
  under _ reads := .mapError (fun _ => rfl) reads
  bind reads later := .bind reads later

namespace Request

variable {scope : Scope} {onValueText : Scope.OnValueText} {files : Dialogue.Files}

theorem settled_onlyReads (result : Except Cause Value) :
    ((settled result).answer scope onValueText).OnlyReads files :=
  (Resolving.Compatible.onlyReads files).ofExcept result

/-- Whatever a variable holds is the value of a look-up, and is not looked at. -/
theorem lookUp_onlyReads (name : String) :
    ((lookUp name).answer scope onValueText).OnlyReads files :=
  (Resolving.Compatible.onlyReads files).lookUp name

theorem ofText_onlyReads {text : String} (noArrow : Implicit.assignment? text = none) :
    ((ofText text).answer scope onValueText).OnlyReads files := by
  unfold ofText Implicit.ofText?
  rw [noArrow]
  cases Implicit.reference? text with
  | some name => exact lookUp_onlyReads name
  | none => exact settled_onlyReads _

theorem ofTag_onlyReads (loader : Loader) (host : Surroundings) (directory : Path) {tag : Tag}
    (other : tag ∉ Tag.storing) (input : Value) :
    ((ofTag loader host directory tag input).answer scope onValueText).OnlyReads
      files := by
  by_cases load : tag = .load
  · subst load
    rcases ofLoad_cases input with ⟨name, asked⟩ | ⟨cause, -, asked⟩
    · unfold ofTag
      rw [asked]
      exact lookUp_onlyReads name
    · unfold ofTag
      rw [asked]
      exact settled_onlyReads _
  · have idle : tag ∉ Tag.accessing := by
      simp only [Tag.storing, Tag.accessing, List.mem_cons, List.not_mem_nil] at other ⊢
      tauto
    obtain ⟨result, asked⟩ := ofTag_settled loader host directory idle input
    rw [asked]
    exact settled_onlyReads result

end Request

section

variable {loader : Loader} {host : Surroundings} {directory : Path}
  {includeText : String → Dialogue ConfigError Value} {files : Dialogue.Files}

/-- No value text is asked for, and none has to suit. -/
theorem alongside_onlyReads :
    Scope.Alongside (fun _ first _ => first.OnlyReads files) Yaml.Node.StoresNothing (fun _ => False)
      (loader.scopeFor host directory includeText) (loader.scopeFor host directory includeText) where
  compatible := .onlyReads files
  hereditary :=
    { item := fun | .sequence each => each
      key := fun | .mapping keys _ => keys
      value := fun | .mapping _ values => values }
  implied never _ := never.elim
  begun never _ _ := never.elim
  text
    | _, .string noArrow => Request.ofText_onlyReads noArrow
  tagged {first _} _ name content nothing inner := by
    cases nothing with
    | tagged other inside =>
        cases known : loader.tags.get? (tagName name) with
        | none =>
            rw [Scope.resolveNode_of_unknown known]
            exact .fail _
        | some tag =>
            have applied (input : Value) :
                ((loader.scopeFor host directory includeText).applyTag first tag
                  input).OnlyReads files := by
              rw [← Request.answer_ofTag]
              refine Request.ofTag_onlyReads loader host directory (fun storing => ?_) input
              exact other tag storing (TagTable.name_of_get? known).symm
            rw [Scope.resolveNode_of_known known]
            refine .bind ?_ applied
            split
            · rename_i collection
              exact inner (inside collection)
            · exact (Resolving.Compatible.onlyReads files).ofExcept _

/-- Neither value texts nor documents are asked for, so that it does not matter what they do. -/
theorem resolve_onlyReads {node : Yaml.Node} (nothing : node.StoresNothing) :
    ((loader.scopeFor host directory includeText).resolve node).OnlyReads files :=
  Scope.resolve_related alongside_onlyReads nothing

end

namespace Loader

/-- A tree without anything to store is resolved by reading alone. -/
theorem resolveDocument_onlyReads (loader : Loader) (host : Surroundings) (files : Dialogue.Files)
    {document : Document} (nothing : document.root.StoresNothing) :
    (loader.resolveDocument host document).OnlyReads files := by
  rw [resolveDocument_eq]
  exact .mapError (fun _ => rfl) (resolve_onlyReads nothing)

/--
A document that stores nothing changes nothing.  Whatever the variables hold, a document without a
tag for assignments or documents, and without a text that looks like an assignment except behind a
tag, is resolved without any assignment, to a value or to an error, and the store is what it was.
The same holds of a load from a source with such a document, or with none at all.
-/
theorem load_storing_nothing (loader : Loader) (host : Surroundings) (files : Dialogue.Files)
    (store : Store) :
    (∀ document : Document, document.root.StoresNothing →
      Access.assignments ((loader.resolveDocument host document).history files store) = [] ∧
      ∃ result, (loader.resolveDocument host document).run files store = (some result, store)) ∧
    ∀ source : Source,
      (∀ document, source.read files = .ok document → document.root.StoresNothing) →
      Access.assignments ((loader.load host source).history files store) = [] ∧
      ∃ result, (loader.load host source).run files store = (some result, store) := by
  constructor
  · intro document nothing
    have reads := loader.resolveDocument_onlyReads host files nothing
    exact ⟨(reads store).1, reads.run_eq store⟩
  · intro source nothing
    have reads : (loader.load host source).OnlyReads files :=
      source.document_bind_ensures (fun _ _ => ⟨rfl, nofun⟩) fun document read =>
        loader.resolveDocument_onlyReads host files (nothing document read)
    exact ⟨(reads store).1, reads.run_eq store⟩

/--
Variables that hold an assignment and a reference, read through a reference, as a key, and through a
tag with a text that looks like an assignment: nothing is assigned, and nothing by a load either.
-/
theorem load_storing_nothing_of_misleading_values :
    let store : Store := ⟨[("x", .string "k <= 2"), ("k <= 1", .string "$x")]⟩
    let node : Yaml.Node := .mapping [(.string "$x", .tagged "load" (.string "k <= 1")),
      (.string "a", .tagged "join" (.sequence [.string "$x", .tagged "load" (.string "x")]))]
    (node.StoresNothing ∧
      ∃ result, (basic.resolveDocument .atRoot ⟨node, ⟨"."⟩, none⟩).run Dialogue.noFiles store =
        (some result, store)) ∧
    (Source.text "$x").read Dialogue.noFiles = .ok ⟨.string "$x", ⟨"."⟩, none⟩ ∧
      ∃ result, (basic.load .atRoot (.text "$x")).run Dialogue.noFiles store =
        (some result, store) := by
  intro store node
  have reference : Yaml.Node.StoresNothing (.string "$x") := .string (by decide)
  have literal (text : String) : Yaml.Node.StoresNothing (.tagged "load" (.string text)) :=
    .tagged (by decide) nofun
  have joined : Yaml.Node.StoresNothing
      (.tagged "join" (.sequence [.string "$x", .tagged "load" (.string "x")])) := by
    refine .tagged (by decide) fun _ => .sequence fun item found => ?_
    rcases List.mem_pair.mp found with rfl | rfl
    · exact reference
    · exact literal "x"
  have nothing : node.StoresNothing := by
    refine .mapping ?_ ?_
    · intro entry found
      rcases List.mem_pair.mp found with rfl | rfl
      · exact reference
      · exact .string (by decide)
    · intro entry found
      rcases List.mem_pair.mp found with rfl | rfl
      · exact literal "k <= 1"
      · exact joined
  have read : (Source.text "$x").read Dialogue.noFiles = .ok ⟨.string "$x", ⟨"."⟩, none⟩ := by
    cbv
  have unchanged := load_storing_nothing basic .atRoot Dialogue.noFiles store
  refine ⟨⟨nothing, (unchanged.1 ⟨node, ⟨"."⟩, none⟩ nothing).2⟩, read, ?_⟩
  refine (unchanged.2 (.text "$x") fun document found => ?_).2
  cases read.symm.trans found
  exact reference

end Loader

end TaggedConfig
