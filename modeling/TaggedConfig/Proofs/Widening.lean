import TaggedConfig.Proofs.Dialogue.Keeping
import TaggedConfig.Proofs.SideBySide

/-!
# Loaders that know and allow more

A loader can know a tag that another one does not know, or allow deeper nesting.  Resolving with it
keeps the runs of the other loader, apart from those that stop at an unknown tag or at the limit.  A
larger allowance for nested documents keeps every run that is not cut off.
-/

namespace TaggedConfig

open Dialogue (Files KeepsRuns)

/--
The second loader has the tags of the first with the same meaning, and allows at every depth, shifted
by some levels, what the first allows.  Where it goes further, the first stops for a reason that does
not count.
-/
structure Loader.Widens (kept : Stop → Prop) (shift : Nat) (narrow wide : Loader) : Prop where
  known : ∀ name tag, narrow.tags.get? name = some tag → wide.tags.get? name = some tag
  unknown : ∀ name, narrow.tags.get? name = none → kept (.failed (.unknownTag name)) →
    wide.tags.get? name = none
  runMode : ∀ name, narrow.tags.get? name = some .switchCommand → wide.runMode = narrow.runMode
  allowed : ∀ depth, narrow.exceeds? depth = none → wide.exceeds? (depth + shift) = none
  exceeded : ∀ depth limit path, narrow.exceeds? depth = some limit →
    kept (.failed (.includeDepthExceeded limit path)) → wide.exceeds? (depth + shift) = some limit

variable {kept : Stop → Prop} {shift : Nat} {narrow wide : Loader} {host : Surroundings}
  {files : Files} {directory : Path} {narrowInclude wideInclude : String → Dialogue ConfigError Value}
  {narrowTexts wideTexts : Scope.OnValueText}

/-- A loader whose limit is met alike at shifted depths goes as far there as it goes itself. -/
theorem Loader.Widens.of_exceeds {loader : Loader} (kept : Stop → Prop)
    (alike : ∀ depth, loader.exceeds? (depth + shift) = loader.exceeds? depth) :
    loader.Widens kept shift loader where
  known _ _ found := found
  unknown _ missing _ := missing
  runMode _ _ := rfl
  allowed depth within := (alike depth).trans within
  exceeded depth _ _ beyond _ := (alike depth).trans beyond

abbrev KeepsAll {ε α : Type} [HasCause ε] (files : Files) (kept : Stop → Prop)
    (first second : String → Dialogue ε α) : Prop :=
  ∀ text, KeepsRuns files kept (first text) (second text)

theorem Resolving.Compatible.keepsRuns (files : Files) (kept : Stop → Prop) :
    Compatible fun _ first second => KeepsRuns files kept first second where
  ofExcept _ := .refl _
  lookUp _ := .refl _
  under _ keeps := .mapError (fun _ => rfl) keeps
  bind keeps later := .bind keeps later

theorem Request.answer_keepsRuns (request : Request) {narrowScope wideScope : Scope}
    (documents : KeepsAll files kept narrowScope.includeText wideScope.includeText)
    (texts : KeepsAll files kept narrowTexts wideTexts) :
    KeepsRuns files kept (request.answer narrowScope narrowTexts)
      (request.answer wideScope wideTexts) :=
  Scope.answer_related (.keepsRuns files kept) (fun _ _ => .refl _)
    (fun _ valueText _ => texts valueText) fun text _ => .mapError (fun _ => rfl) (documents text)

/-- A tag that is known asks for the same with both loaders. -/
theorem applyTag_keepsRuns (widens : narrow.Widens kept shift wide)
    (documents : KeepsAll files kept narrowInclude wideInclude)
    (texts : KeepsAll files kept narrowTexts wideTexts) {name : String} {tag : Tag}
    (known : narrow.tags.get? name = some tag) (input : Value) :
    KeepsRuns files kept
      ((narrow.scopeFor host directory narrowInclude).applyTag narrowTexts tag input)
      ((wide.scopeFor host directory wideInclude).applyTag wideTexts tag input) := by
  have asked : Request.ofTag wide host directory tag input =
      Request.ofTag narrow host directory tag input := by
    cases tag with
    | switchCommand =>
        unfold Request.ofTag
        dsimp only
        rw [widens.runMode name known]
    | _ => rfl
  rw [← Request.answer_ofTag, ← Request.answer_ofTag, asked]
  exact Request.answer_keepsRuns _ documents texts

/-- A tagged node keeps its runs if its content does; a tag that is not known stops the narrow loader. -/
theorem resolveNode_tagged_keepsRuns (widens : narrow.Widens kept shift wide)
    (documents : KeepsAll files kept narrowInclude wideInclude)
    (texts : KeepsAll files kept narrowTexts wideTexts) {name : String} {content : Yaml.Node}
    (inner : KeepsRuns files kept
      ((narrow.scopeFor host directory narrowInclude).resolveNode narrowTexts content)
      ((wide.scopeFor host directory wideInclude).resolveNode wideTexts content)) :
    KeepsRuns files kept
      ((narrow.scopeFor host directory narrowInclude).resolveNode narrowTexts (.tagged name content))
      ((wide.scopeFor host directory wideInclude).resolveNode wideTexts (.tagged name content)) := by
  cases known : narrow.tags.get? (tagName name) with
  | none =>
      rw [Scope.resolveNode_of_unknown known]
      by_cases counts : kept (.failed (.unknownTag (tagName name)))
      · rw [Scope.resolveNode_of_unknown (widens.unknown _ known counts)]
        exact .refl _
      · exact .of_stop counts fun store => rfl
  | some tag =>
      rw [Scope.resolveNode_of_known known, Scope.resolveNode_of_known (widens.known _ _ known)]
      refine .bind ?_ (applyTag_keepsRuns widens documents texts known)
      split
      · exact inner
      · exact .refl _

/-- Every tree and every value text keeps its runs, side by side, if the documents do. -/
theorem alongside_keepsRuns (widens : narrow.Widens kept shift wide)
    (documents : KeepsAll files kept narrowInclude wideInclude) :
    Scope.Alongside (fun _ first second => KeepsRuns files kept first second) (fun _ => True)
      (fun _ => True) (narrow.scopeFor host directory narrowInclude)
      (wide.scopeFor host directory wideInclude) where
  compatible := .keepsRuns files kept
  hereditary := .all
  implied _ _ := trivial
  begun _ _ _ := trivial
  text texts _ _ := Request.answer_keepsRuns _ documents fun text => texts text trivial
  tagged texts _ _ _ inner :=
    resolveNode_tagged_keepsRuns widens documents (fun text => texts text trivial) (inner trivial)

/-- A tree is resolved alike if the documents that it names are. -/
theorem resolve_keepsRuns (widens : narrow.Widens kept shift wide)
    (documents : KeepsAll files kept narrowInclude wideInclude) (node : Yaml.Node) :
    KeepsRuns files kept ((narrow.scopeFor host directory narrowInclude).resolve node)
      ((wide.scopeFor host directory wideInclude).resolve node) :=
  Scope.resolve_related (alongside_keepsRuns widens documents) trivial

namespace Loader

/-- The document in a file is resolved alike if nested documents are. -/
theorem includeFile_keepsRuns (widens : narrow.Widens kept shift wide)
    {narrowNested wideNested : Document → Dialogue ConfigError Value}
    (nested : ∀ document, KeepsRuns files kept (narrowNested document) (wideNested document))
    (depth : Nat) (path : Path) :
    KeepsRuns files kept (narrow.includeFile narrowNested depth path)
      (wide.includeFile wideNested (depth + shift) path) := by
  unfold includeFile
  cases exceeded : narrow.exceeds? depth with
  | some limit =>
      by_cases counts : kept (.failed (.includeDepthExceeded limit path))
      · rw [widens.exceeded depth limit path exceeded counts]
        exact .refl _
      · exact .of_stop counts fun store => rfl
  | none =>
      rw [widens.allowed depth exceeded]
      refine .openFile ?_
      cases files path with
      | error failure => exact .refl _
      | ok content =>
          change KeepsRuns files kept
            ((Dialogue.ofExcept (Document.parse content (some path))).bind narrowNested)
            ((Dialogue.ofExcept (Document.parse content (some path))).bind wideNested)
          exact .bind (.refl _) nested

/-- The document that a text names is resolved alike if nested documents are. -/
theorem includeWith_keepsRuns (widens : narrow.Widens kept shift wide)
    {narrowNested wideNested : Document → Dialogue ConfigError Value}
    (nested : ∀ document, KeepsRuns files kept (narrowNested document) (wideNested document))
    (depth : Nat) (text : String) :
    KeepsRuns files kept (narrow.includeWith host narrowNested depth directory text)
      (wide.includeWith host wideNested (depth + shift) directory text) := by
  unfold includeWith
  cases Path.ofIncludeText host.workingDirectory host.home directory text with
  | ok path => exact includeFile_keepsRuns widens nested depth path
  | error failure => exact .refl _

theorem resolveWithin_keepsRuns (widens : narrow.Widens kept shift wide)
    {allowance larger : Nat} (enough : allowance ≤ larger)
    (cutOff : kept .cutOff → larger = allowance) (depth : Nat) (document : Document) :
    KeepsRuns files kept (narrow.resolveWithin host allowance depth document)
      (wide.resolveWithin host larger (depth + shift) document) := by
  induction allowance generalizing larger depth document with
  | zero =>
      by_cases counts : kept .cutOff
      · rw [cutOff counts]
        exact .refl _
      · exact .of_stop counts fun store => rfl
  | succ allowance ih =>
      obtain ⟨larger, rfl⟩ := Nat.exists_eq_add_one.mpr (Nat.zero_lt_of_lt enough)
      have nested (document : Document) :
          KeepsRuns files kept (narrow.resolveWithin host allowance (depth + 1) document)
            (wide.resolveWithin host larger (depth + shift + 1) document) := by
        rw [Nat.add_right_comm]
        exact ih (Nat.le_of_succ_le_succ enough) (fun counts => Nat.succ.inj (cutOff counts)) _ _
      have documents (text : String) :
          KeepsRuns files kept
            (narrow.includeWith host (narrow.resolveWithin host allowance (depth + 1)) (depth + 1)
              document.directory text)
            (wide.includeWith host (wide.resolveWithin host larger (depth + shift + 1))
              (depth + shift + 1) document.directory text) := by
        rw [Nat.add_right_comm depth shift 1]
        rw [Nat.add_right_comm depth shift 1] at nested
        exact includeWith_keepsRuns widens nested (depth + 1) text
      exact .mapError (fun _ => rfl) (resolve_keepsRuns widens documents document.root)

/-- Load a document with an allowance for nested documents. -/
def loadWithin (loader : Loader) (host : Surroundings) (allowance : Nat) (source : Source) :
    Dialogue ConfigError Value := do
  let document ← source.document
  loader.resolveWithin host allowance 0 document

/-- With an allowance it does not matter how much room there is. -/
theorem resolveWithin_withRoom (loader : Loader) (host : Surroundings) (room allowance depth : Nat)
    (document : Document) :
    loader.resolveWithin { host with room := room } allowance depth document =
      loader.resolveWithin host allowance depth document := by
  induction allowance generalizing depth document with
  | zero => rfl
  | succ allowance ih =>
      have nested : loader.resolveWithin { host with room := room } allowance (depth + 1) =
          loader.resolveWithin host allowance (depth + 1) := funext (ih (depth + 1))
      unfold resolveWithin
      rw [nested]
      rfl

theorem loadWithin_withRoom (loader : Loader) (host : Surroundings) (room allowance : Nat)
    (source : Source) :
    loader.loadWithin { host with room := room } allowance source =
      loader.loadWithin host allowance source := by
  have resolved : loader.resolveWithin { host with room := room } allowance 0 =
      loader.resolveWithin host allowance 0 :=
    funext (loader.resolveWithin_withRoom host room allowance 0)
  unfold loadWithin
  rw [resolved]

theorem load_eq_loadWithin (loader : Loader) (host : Surroundings) (source : Source) :
    loader.load host source = loader.loadWithin host (loader.allowance host) source := rfl

theorem loadWithin_keepsRuns (widens : narrow.Widens kept 0 wide) {allowance larger : Nat}
    (enough : allowance ≤ larger) (cutOff : kept .cutOff → larger = allowance) (source : Source) :
    KeepsRuns files kept (narrow.loadWithin host allowance source)
      (wide.loadWithin host larger source) :=
  .bind (.refl _) fun document => resolveWithin_keepsRuns widens enough cutOff 0 document

end Loader

end TaggedConfig
