import Mathlib
import TaggedConfig.Proofs.Splicing.Site

/-!
# Included documents are spliced

A node that includes a document has the value and the effects of the document's root, as long as the
root reaches no tag that depends on the place of its document.  Only the places of errors tell the two
apart.
-/

namespace TaggedConfig

/-- The text of a node that includes a document. -/
def Yaml.Node.included? : Yaml.Node → Option String
  | .tagged name content =>
      if tagName name = Tag.includeFile.name ∧ Scope.isCollection content = false then
        (Value.ofNode content >>= Tag.includeFile.scalarText).toOption
      else none
  | _ => none

namespace Loader

variable {extensions : List Extension} {host : Surroundings} {files : Dialogue.Files}

/-- Every loader knows the tag that includes documents. -/
theorem get?_include (extensions : List Extension) (limit : Option Nat) :
    (ofOptions extensions limit).tags.get? Tag.includeFile.name = some .includeFile := by
  unfold TagTable.get? ofOptions TagTable.ofExtensions
  rw [List.find?_append]
  rfl

/-- A node that includes a document applies its tag to a literal. -/
theorem exists_of_included {node : Yaml.Node} {text : String}
    (included : node.included? = some text) :
    ∃ name content input, node = .tagged name content ∧ tagName name = Tag.includeFile.name ∧
      Scope.isCollection content = false ∧ Value.ofNode content = .ok input ∧
      Tag.includeFile.scalarText input = .ok text := by
  cases node with
  | tagged name content =>
      obtain ⟨⟨named, scalar⟩, found⟩ := Option.ite_none_right_eq_some.mp included
      have done : (Value.ofNode content >>= Tag.includeFile.scalarText) = .ok text := by
        cases result : Value.ofNode content >>= Tag.includeFile.scalarText with
        | error cause =>
            rw [result] at found
            cases found
        | ok written =>
            rw [result] at found
            cases found
            rfl
      obtain ⟨input, literal, written⟩ := exists_of_bind_eq_ok done
      exact ⟨name, content, input, rfl, named, scalar, literal, written⟩
  | _ => cases included

/-- A node that includes a document asks for the value of the document. -/
theorem resolveNode_eq_of_included {directory : Path} {text : String} {node : Yaml.Node}
    {includeText : String → Dialogue ConfigError Value} {onValueText : Scope.OnValueText}
    (included : node.included? = some text) :
    ((ofOptions extensions none).scopeFor host directory includeText).resolveNode onValueText
      node = (includeText text).mapError fun error => ⟨[], error⟩ := by
  obtain ⟨name, content, input, rfl, named, scalar, literal, written⟩ :=
    exists_of_included included
  have known : ((ofOptions extensions none).scopeFor host directory includeText).tags.get?
      (tagName name) = some .includeFile := by
    rw [named]
    exact get?_include extensions none
  rw [Scope.resolveNode_of_known known, scalar, literal, if_neg Bool.false_ne_true]
  change Scope.applyInclude _ input = _
  unfold Scope.applyInclude
  rw [written]
  rfl

/-- A document that can be read and parsed is included as it is resolved. -/
theorem includeWith_sameRun {loader : Loader}
    (resolveNested : Document → Dialogue ConfigError Value) {depth : Nat} {directory file : Path}
    {text content : String} {target : Document}
    (allowed : loader.exceeds? depth = none)
    (named : Path.ofIncludeText host.workingDirectory host.home directory text = .ok file)
    (read : files file = .ok content)
    (parsed : Document.parse content (some file) = .ok target) :
    Dialogue.SameRun files (loader.includeWith host resolveNested depth directory text)
      (resolveNested target) := by
  rw [includeWith_of_named named, includeFile, allowed]
  refine (Dialogue.SameRun.openFile depth _ _).trans (.of_eq ?_)
  rw [read]
  change Dialogue.bind (.ofExcept (Document.parse content _)) resolveNested = _
  rw [parsed]
  rfl

/-- Where it stands, a node that includes a document runs like the root of the document. -/
theorem resolveNode_included {directory file : Path} {text content : String} {target : Document}
    {node : Yaml.Node} (allowance : Nat) {onValueText : Scope.OnValueText}
    (included : node.included? = some text)
    (named : Path.ofIncludeText host.workingDirectory host.home directory text = .ok file)
    (read : files file = .ok content)
    (parsed : Document.parse content (some file) = .ok target)
    (apart : ¬NodeReaches placedTags target.root) :
    let loader := ofOptions extensions none
    let scope := loader.scopeFor host directory
      (loader.includeWith host (loader.resolveWithin host (allowance + 1) 1) 1 directory)
    Dialogue.SameRun files (scope.resolveNode onValueText node) (scope.resolve target.root) := by
  intro loader scope
  have keptInside (error : ConfigError) :
      HasCause.cause (⟨[], error⟩ : Failure) = HasCause.cause error := rfl
  have keptOutside (failure : Failure) :
      HasCause.cause (failure.toError target.origin) = HasCause.cause failure := rfl
  have allowed : loader.exceeds? 1 = none := rfl
  have asked := Dialogue.SameRun.mapError files keptInside
    (loader.includeWith host (loader.resolveWithin host (allowance + 1) 1) 1 directory text)
  have opened :=
    includeWith_sameRun (loader.resolveWithin host (allowance + 1) 1) allowed named read parsed
  have resolved := Dialogue.SameRun.mapError files keptOutside
    ((loader.scopeFor host target.directory
      (loader.includeWith host (loader.resolveWithin host allowance 2) 2 target.directory)).resolve
        target.root)
  rw [resolveNode_eq_of_included included]
  refine asked.trans (opened.trans (resolved.trans (.of_eq ?_)))
  exact resolve_apart apart

/--
A document that includes another, at its root or as an item or value at any depth, has the same value
or cause and leaves the same store as with the root of the other in place of the node.
-/
theorem include_is_spliced (extensions : List Extension) (host : Surroundings)
    (files : Dialogue.Files) (store : Store) (document : Document) (site : Site) (node : Yaml.Node)
    (text content : String) (file : Path) (target : Document) (included : node.included? = some text)
    (named : Path.ofIncludeText host.workingDirectory host.home document.directory text = .ok file)
    (read : files file = .ok content) (parsed : Document.parse content (some file) = .ok target)
    (apart : ¬NodeReaches placedTags target.root) :
    let loader := ofOptions extensions none
    let including := loader.resolveDocument host { document with root := site.fill node }
    let spliced := loader.resolveDocument host { document with root := site.fill target.root }
    ending (including.run files store).1 = ending (spliced.run files store).1 ∧
      (including.run files store).2 = (spliced.run files store).2 := by
  intro loader including spliced
  let scope := loader.scopeFor host document.directory
    (loader.includeWith host (loader.resolveWithin host (host.room + 1) 1) 1 document.directory)
  have placed : Dialogue.SameRun files (scope.resolve (site.fill node))
      (scope.resolve (site.fill target.root)) :=
    Site.fill_congr (resolveNode_included host.room included named read parsed apart) site
  have kept (failure : Failure) :
      HasCause.cause (failure.toError document.origin) = HasCause.cause failure := rfl
  have first := Dialogue.SameRun.mapError files kept (scope.resolve (site.fill node))
  have second :=
    Dialogue.SameRun.mapError files kept (scope.resolve (site.fill target.root))
  exact (first.trans (placed.trans second.symm)) store

/-- A number from another file is added like one that is written in its place. -/
theorem include_is_spliced_into_sum :
    let file : Path := ⟨"/f"⟩
    let loader := ofOptions [] none
    let including := loader.resolveDocument .atRoot
      ⟨.tagged "sum" (.sequence [.integer 2, .tagged "include" (.string "f")]), ⟨"."⟩, none⟩
    let spliced := loader.resolveDocument .atRoot
      ⟨.tagged "sum" (.sequence [.integer 2, .integer 1]), ⟨"."⟩, none⟩
    Path.ofIncludeText (.ok ⟨"/"⟩) (some ⟨"/"⟩) ⟨"."⟩ "f" = .ok file ∧
      Document.parse "1" (some file) =
        .ok ⟨.integer 1, Document.directoryOf (some file), some file⟩ ∧
      ending (including.run (fun _ => .ok "1") Store.empty).1 =
        ending (spliced.run (fun _ => .ok "1") Store.empty).1 := by
  intro file loader including spliced
  have named : Path.ofIncludeText (.ok ⟨"/"⟩) (some ⟨"/"⟩) ⟨"."⟩ "f" = .ok file := by decide
  have root : Yaml.Node.parse "1".toList = .ok (.integer 1) := by
    cbv
  have parsed : Document.parse "1" (some file) =
      .ok ⟨.integer 1, Document.directoryOf (some file), some file⟩ := by
    unfold Document.parse
    rw [root]
  have apart : ¬NodeReaches placedTags (.integer 1) := by
    intro reaches
    cases reaches
  refine ⟨named, parsed, ?_⟩
  exact (include_is_spliced [] .atRoot (fun _ => .ok "1") Store.empty ⟨.null, ⟨"."⟩, none⟩
    (.item (some "sum") [.integer 2] .root []) (.tagged "include" (.string "f")) "f" "1" file _ rfl
    named rfl parsed apart).1

end Loader

end TaggedConfig
