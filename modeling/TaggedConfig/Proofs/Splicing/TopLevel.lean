import Mathlib
import TaggedConfig.Proofs.Paths.Targets
import TaggedConfig.Proofs.PlainTrees
import TaggedConfig.Proofs.Splicing.Include
import TaggedConfig.Proofs.Widening

/-!
# Documents that only include a file

A document that consists of a node that includes a file runs like loading the file.  An error has one
more place in front, which is the root of the including document.
-/

namespace TaggedConfig

namespace Loader

variable {extensions : List Extension} {host : Surroundings} {files : Dialogue.Files}

/-- Without a limit it does not matter how deep a document is nested. -/
theorem run_resolveWithin_nested (allowance : Nat) (document : Document) (store : Store) :
    ((ofOptions extensions none).resolveWithin host allowance 1 document).run files store =
      ((ofOptions extensions none).resolveWithin host allowance 0 document).run files store := by
  have unlimited : (ofOptions extensions none).Widens (fun _ => True) 1 (ofOptions extensions none) :=
    .of_exceeds _ fun _ => rfl
  exact resolveWithin_keepsRuns unlimited le_rfl (fun _ => rfl) 0 document store fun _ _ => trivial

theorem loadWithin_of_le (loader : Loader) {allowance larger : Nat} (enough : allowance ≤ larger)
    (source : Source) :
    Dialogue.KeepsRuns files (· ≠ .cutOff) (loader.loadWithin host allowance source)
      (loader.loadWithin host larger source) :=
  loadWithin_keepsRuns (.of_exceeds _ fun _ => rfl) enough (absurd rfl) source

theorem run_loadWithin_of_readable (loader : Loader) (allowance : Nat) {file : Path}
    {content : String} (readable : files file = .ok content) (store : Store) :
    (loader.loadWithin host allowance (.file file)).run files store =
      ((Dialogue.ofExcept (Document.parse content (some file))).bind
        (loader.resolveWithin host allowance 0)).run files store := by
  unfold loadWithin Source.document
  exact Dialogue.run_openFile_of_answer readable store

/-- A file that can be read is included from its text, if its depth is allowed. -/
theorem run_includeWith_of_readable {loader : Loader}
    (resolveNested : Document → Dialogue ConfigError Value) {depth : Nat} {directory file : Path}
    {text content : String} (allowed : loader.exceeds? depth = none)
    (named : Path.ofIncludeText host.workingDirectory host.home directory text = .ok file)
    (readable : files file = .ok content) (store : Store) :
    (loader.includeWith host resolveNested depth directory text).run files store =
      ((Dialogue.ofExcept (Document.parse content (some file))).bind resolveNested).run files
        store := by
  rw [includeWith_of_named named, includeFile, allowed]
  exact Dialogue.run_openFile_of_answer readable store

variable (extensions host) in
/-- A document that includes a file runs like loading the file with an allowance of one less. -/
theorem run_resolveWithin_including {document : Document} {file : Path} {content : String}
    (allowance : Nat) (store : Store) (included : document.root.included? = some file.text)
    (absolute : file.isAbsolute = true) (normal : file.normalize = file)
    (readable : files file = .ok content) :
    let loader := ofOptions extensions none
    let loaded := (loader.loadWithin host allowance (.file file)).run files store
    (loader.resolveWithin host (allowance + 1) 0 document).run files store =
      (loaded.1.map (Except.mapError (ConfigError.within ⟨document.origin, ""⟩)), loaded.2) := by
  intro loader loaded
  have named :
      Path.ofIncludeText host.workingDirectory host.home document.directory file.text = .ok file :=
    (Path.ofIncludeText_of_isAbsolute _ _ _ absolute).trans (congrArg Except.ok normal)
  have opened : (loader.includeWith host (loader.resolveWithin host allowance 1) 1
      document.directory file.text).run files store = loaded := by
    refine (run_includeWith_of_readable _ rfl named readable store).trans ?_
    refine Eq.trans ?_ (run_loadWithin_of_readable loader allowance readable store).symm
    cases Document.parse content (some file) with
    | ok document => exact run_resolveWithin_nested allowance document store
    | error error => rfl
  unfold resolveWithin Scope.resolve
  dsimp only
  rw [resolveNode_eq_of_included included, Dialogue.run_mapError, Dialogue.run_mapError, opened]
  clear_value loaded
  obtain ⟨_ | error | value, left⟩ := loaded
  · rfl
  · rfl
  · rfl

/--
A document that consists of a node that includes a file runs like loading the file: with the same
value, or with the same error behind one more place, and with the same store at the end.  The including
document takes one of the allowed documents itself: with room for one more document it never stops where
the file alone does not, and with the same room it is cut off at most where the file alone takes all of
it.
-/
theorem including_runs_like_load (extensions : List Extension) (host : Surroundings)
    (files : Dialogue.Files) (store : Store) (document : Document) (file : Path) (content : String)
    (included : document.root.included? = some file.text) (absolute : file.isAbsolute = true)
    (normal : file.normalize = file) (readable : files file = .ok content) :
    let loader := ofOptions extensions none
    let behind : Except ConfigError Value → Except ConfigError Value :=
      Except.mapError (ConfigError.within ⟨document.origin, ""⟩)
    (∀ allowance,
        let loaded := (loader.loadWithin host allowance (.file file)).run files store
        (loader.resolveWithin host (allowance + 1) 0 document).run files store =
          (loaded.1.map behind, loaded.2)) ∧
      let including (host : Surroundings) := (loader.resolveDocument host document).run files store
      let loaded := (loader.load host (.file file)).run files store
      including { host with room := host.room + 1 } = (loaded.1.map behind, loaded.2) ∧
        ((including host).1 = none ∨ including host = (loaded.1.map behind, loaded.2)) := by
  intro loader behind
  have each (allowance : Nat) :=
    run_resolveWithin_including extensions host allowance store included absolute normal readable
  refine ⟨each, ?_⟩
  intro including loaded
  have roomier : including { host with room := host.room + 1 } =
      (loaded.1.map behind, loaded.2) := by
    have unroomed := loader.resolveWithin_withRoom host (host.room + 1) (loader.allowance host + 1) 0
      document
    exact (congrArg (Dialogue.run files · store) unroomed).trans (each (loader.allowance host))
  refine ⟨roomier, ?_⟩
  have one : including host = _ := each (host.room + 1)
  have less : host.room + 1 ≤ loader.allowance host := Nat.le_succ _
  match shorter : (loader.loadWithin host (host.room + 1) (.file file)).run files store with
  | (none, left) =>
      rw [shorter] at one
      exact .inl (congrArg Prod.fst one)
  | (some result, left) =>
      have same : loaded = (some result, left) := by
        refine (loadWithin_of_le loader less (.file file)).run_eq shorter fun error failed stopped => ?_
        cases stopped
      rw [shorter] at one
      rw [same]
      exact .inr one

/-- A missing variable in a file has a place in the including document and one in the file. -/
theorem including_runs_like_load_of_missing_variable :
    let file : Path := ⟨"/f"⟩
    let document : Document := ⟨.tagged "!include" (.string "/f"), ⟨"."⟩, none⟩
    let files : Dialogue.Files := fun _ => .ok "!load x"
    let place : Location := ⟨some file, ""⟩
    document.root.included? = some file.text ∧ file.isAbsolute = true ∧ file.normalize = file ∧
      files file = .ok "!load x" ∧
      ((ofOptions [] none).loadWithin .atRoot 1 (.file file)).run files Store.empty =
        (some (.error ⟨[place], .undefinedVariable "x"⟩), Store.empty) ∧
      ((ofOptions [] none).resolveWithin .atRoot 2 0 document).run files Store.empty =
        (some (.error ⟨[⟨none, ""⟩, place], .undefinedVariable "x"⟩), Store.empty) := by
  intro file document files place
  have absolute : file.isAbsolute = true := by decide
  have normal : file.normalize = file := by decide
  have loaded : ((ofOptions [] none).loadWithin .atRoot 1 (.file file)).run files Store.empty =
      (some (.error ⟨[place], .undefinedVariable "x"⟩), Store.empty) := by
    cbv
  have including := (including_runs_like_load [] .atRoot files Store.empty document file "!load x" rfl
    absolute normal rfl).1 1
  dsimp only at including
  rw [loaded] at including
  exact ⟨rfl, absolute, normal, rfl, loaded, including⟩

end Loader

end TaggedConfig
