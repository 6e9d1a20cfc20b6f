import TaggedConfig.Proofs.Failing.Obstacles
import TaggedConfig.Proofs.Paths.Targets

/-!
# Locations of errors

The error of a document that fails has one location for each document that is being resolved then,
from the outermost inwards.  Each of them is the place where the walk through its document has come to.
-/

namespace TaggedConfig

/-- The working directory is absolute if the system tells it. -/
def Surroundings.IsRooted (host : Surroundings) : Prop :=
  ∀ directory, host.workingDirectory = .ok directory → directory.isAbsolute = true

theorem Surroundings.IsRooted.isAbsolute_target {host : Surroundings} (isRooted : host.IsRooted)
    {document : Document} {text : String} {file : Path}
    (named : document.target host text = .ok file) : file.isAbsolute = true :=
  Path.isAbsolute_ofIncludeText isRooted named

/-- The next document is in a file that a text in the first document names. -/
def Frame.Enters (host : Surroundings) (outer inner : Frame) : Prop :=
  ∃ text file, outer.document.target host text = .ok file ∧ inner.document.origin = some file

theorem Document.origin_of_parse {text : String} {origin : Option Path} {document : Document}
    (parsed : parse text origin = .ok document) : document.origin = origin := by
  unfold parse at parsed
  split at parsed
  · cases parsed
    rfl
  · cases parsed

theorem Document.eq_causeOf_of_parse {text : String} {origin : Option Path} {error : ConfigError}
    (refused : parse text origin = .error error) :
    ∃ inner, Yaml.Node.parse text.toList = .error inner ∧
      error = .ofCause (causeOf origin inner) := by
  unfold parse at refused
  cases read : Yaml.Node.parse text.toList with
  | ok root =>
      rw [read] at refused
      cases refused
  | error inner =>
      rw [read] at refused
      cases refused
      exact ⟨inner, rfl, rfl⟩

namespace DocumentFails

variable {loader : Loader} {host : Surroundings} {files : Dialogue.Files} {depth : Nat}
  {store : Store} {document : Document} {frames : List Frame} {cause : Cause}

theorem exists_first (fails : DocumentFails loader host files depth store document frames cause) :
    ∃ trail inner, frames = ⟨document, trail⟩ :: inner := by
  cases fails with
  | nested met named allowed read parsed fails => exact ⟨_, _, rfl⟩
  | _ => exact ⟨_, [], rfl⟩

theorem isChain (fails : DocumentFails loader host files depth store document frames cause) :
    frames.IsChain (Frame.Enters host) := by
  induction fails with
  | nested met named allowed read parsed fails ih =>
      rename_i text content file frames cause
      obtain ⟨trail, inner, rfl⟩ := fails.exists_first
      exact .cons_cons ⟨text, file, named, Document.origin_of_parse parsed⟩ ih
  | _ => exact .singleton _

/-- Every document but the first comes from a file with an absolute path. -/
theorem isAbsolute (isRooted : host.IsRooted)
    (fails : DocumentFails loader host files depth store document frames cause) :
    ∀ frame ∈ frames.tail, ∃ file, frame.document.origin = some file ∧ file.isAbsolute = true := by
  induction fails with
  | nested met named allowed read parsed fails ih =>
      intro frame member
      obtain ⟨trail, inner, rfl⟩ := fails.exists_first
      rcases List.mem_cons.mp member with rfl | later
      · exact ⟨_, Document.origin_of_parse parsed, isRooted.isAbsolute_target named⟩
      · exact ih frame later
  | _ => exact nofun

end DocumentFails

namespace Loader

variable {loader : Loader} {host : Surroundings} {files : Dialogue.Files}

theorem resolveWithin_succ {allowance depth : Nat} (document : Document)
    (enough : allowance + 1 + depth = loader.allowance host) :
    loader.resolveWithin host (allowance + 1) depth document =
      (((⟨document.directory, depth⟩ : Standpoint).scope loader host).resolve
        document.root).mapError (Failure.toError document.origin) := by
  have rest : loader.allowance host - (depth + 1) = allowance := by omega
  unfold resolveWithin Standpoint.scope
  rw [rest]

/-- A file is too deep, it cannot be read or parsed, or the document in it fails. -/
theorem includeFile_fails {resolveNested : Document → Dialogue ConfigError Value} {depth : Nat}
    {file : Path} {store left : Store} {error : ConfigError}
    (failed : (loader.includeFile resolveNested depth file).run files store =
      (some (.error error), left)) :
    (∃ limit, loader.exceeds? depth = some limit ∧
        error = .ofCause (.includeDepthExceeded limit file)) ∨
      loader.exceeds? depth = none ∧
        ((∃ failure, files file = .error failure ∧
            error = .ofCause (.includeNotFound file failure)) ∨
          ∃ content, files file = .ok content ∧
            ((∃ malformed, Yaml.Node.parse content.toList = .error malformed ∧
                error = .ofCause (Document.causeOf (some file) malformed)) ∨
              ∃ inner, Document.parse content (some file) = .ok inner ∧
                (resolveNested inner).run files store = (some (.error error), left))) := by
  unfold includeFile at failed
  cases exceeded : loader.exceeds? depth with
  | some limit =>
      rw [exceeded] at failed
      cases failed
      exact .inl ⟨limit, rfl, rfl⟩
  | none =>
      refine .inr ⟨rfl, ?_⟩
      rw [exceeded] at failed
      rcases Dialogue.run_bind_error failed with unopened | ⟨answer, middle, opened, behind⟩
      · cases unopened
      cases opened
      cases read : files file with
      | error failure =>
          rw [read] at behind
          cases behind
          exact .inl ⟨failure, rfl, rfl⟩
      | ok content =>
          refine .inr ⟨content, rfl, ?_⟩
          rw [read] at behind
          change ((Dialogue.ofExcept (Document.parse content (some file))).bind
            resolveNested).run files store = _ at behind
          cases parsed : Document.parse content (some file) with
          | error refusal =>
              obtain ⟨malformed, unreadable, rfl⟩ := Document.eq_causeOf_of_parse parsed
              rw [parsed] at behind
              cases behind
              exact .inl ⟨malformed, unreadable, rfl⟩
          | ok inner =>
              rw [parsed] at behind
              exact .inr ⟨inner, rfl, behind⟩

/-- A text names no file, or the document in the file that it names fails. -/
theorem includeWith_fails {resolveNested : Document → Dialogue ConfigError Value} {depth : Nat}
    {document : Document} {text : String} {store left : Store} {error : ConfigError}
    (failed : (loader.includeWith host resolveNested depth document.directory text).run files store =
      (some (.error error), left)) :
    (∃ failure, document.target host text = .error failure ∧
        error = .ofCause (.includeNotFound ⟨text⟩ failure)) ∨
      ∃ file, document.target host text = .ok file ∧
        (loader.includeFile resolveNested depth file).run files store =
          (some (.error error), left) := by
  cases named : document.target host text with
  | error failure =>
      rw [includeWith_of_untold named] at failed
      cases failed
      exact .inl ⟨failure, rfl, rfl⟩
  | ok file =>
      rw [includeWith_of_named named] at failed
      exact .inr ⟨file, rfl, failed⟩

/-- An error of a document that is resolved at a depth has the places of the documents there. -/
theorem resolveWithin_fails {allowance depth : Nat} {document : Document} {store left : Store}
    {error : ConfigError} (enough : allowance + depth = loader.allowance host)
    (failed : (loader.resolveWithin host allowance depth document).run files store =
      (some (.error error), left)) :
    ∃ frames, DocumentFails loader host files depth store document frames error.cause ∧
      error.locations = frames.map Frame.location := by
  induction allowance generalizing depth document store left error with
  | zero => cases failed
  | succ allowance ih =>
      rw [resolveWithin_succ document enough] at failed
      obtain ⟨failure, nodeFailed, rfl⟩ := Dialogue.run_mapError_error failed
      obtain ⟨met, obstacle, meets, ends⟩ := resolve_meets nodeFailed
      obtain ⟨trail, inner⟩ := failure
      cases obstacle with
      | cause found =>
          obtain ⟨rfl, rfl⟩ := ends
          exact ⟨[⟨document, trail⟩], .here meets, rfl⟩
      | document text =>
          rcases includeWith_fails ends with ⟨failure, untold, rfl⟩ | ⟨file, named, failed⟩
          · exact ⟨[⟨document, trail⟩], .nameless meets untold, rfl⟩
          rcases includeFile_fails failed with ⟨limit, exceeded, rfl⟩ | ⟨allowed, unread | found⟩
          · exact ⟨[⟨document, trail⟩], .tooDeep meets named exceeded, rfl⟩
          · obtain ⟨failure, read, rfl⟩ := unread
            exact ⟨[⟨document, trail⟩], .unreadable meets named allowed read, rfl⟩
          · obtain ⟨content, read, ⟨malformed, parsed, rfl⟩ | ⟨next, parsed, nested⟩⟩ := found
            · exact ⟨[⟨document, trail⟩], .malformed meets named allowed read parsed, rfl⟩
            · have rest : loader.allowance host - (depth + 1) = allowance := by omega
              rw [rest] at nested
              have fewer : allowance + (depth + 1) = loader.allowance host := by omega
              obtain ⟨frames, fails, located⟩ := ih fewer nested
              refine ⟨⟨document, trail⟩ :: frames, .nested meets named allowed read parsed fails, ?_⟩
              exact congrArg (Frame.location ⟨document, trail⟩ :: ·) located

/--
The error of a document that cannot be resolved has a location for each document that is being
resolved then, from the outermost inwards: the file of the document, and the trail to the first of its
nodes that cannot be resolved.  In all but the last this is the node that names the next document.
-/
theorem error_locations (loader : Loader) (host : Surroundings) (files : Dialogue.Files)
    (store : Store) (document : Document) (error : ConfigError) (left : Store)
    (failed : (loader.resolveDocument host document).run files store =
      (some (.error error), left)) :
    ∃ frames, error.locations = frames.map Frame.location ∧
      DocumentFails loader host files 0 store document frames error.cause ∧
      frames.head?.map Frame.document = some document ∧ frames.IsChain (Frame.Enters host) ∧
      (host.IsRooted → ∀ frame ∈ frames.tail,
        ∃ file, frame.document.origin = some file ∧ file.isAbsolute = true) := by
  obtain ⟨frames, fails, located⟩ := resolveWithin_fails (Nat.add_zero _) failed
  refine ⟨frames, located, fails, ?_, fails.isChain, fun isRooted => fails.isAbsolute isRooted⟩
  obtain ⟨trail, inner, rfl⟩ := fails.exists_first
  rfl

/-- A variable is missing in a document that an item of a value of another document names. -/
theorem error_locations_in_included_document :
    let loader := ofOptions [] (some 1)
    let files : Dialogue.Files := fun _ => .ok "[0, $x]"
    let document : Document :=
      ⟨.mapping [(.string "a", .sequence [.null, .tagged "!include" (.string "f")])], ⟨"."⟩, none⟩
    let error : ConfigError :=
      ⟨[⟨none, "a[1]"⟩, ⟨some ⟨"/f"⟩, "[1]"⟩], .undefinedVariable "x"⟩
    (loader.resolveDocument .atRoot document).run files Store.empty =
        (some (.error error), Store.empty) ∧
      ∃ frames, error.locations = frames.map Frame.location ∧
        DocumentFails loader .atRoot files 0 Store.empty document frames error.cause := by
  intro loader files document error
  have failed : (loader.resolveDocument .atRoot document).run files Store.empty =
      (some (.error error), Store.empty) := by
    cbv
  obtain ⟨frames, located, fails, -⟩ :=
    error_locations loader .atRoot files Store.empty document error Store.empty failed
  exact ⟨failed, frames, located, fails⟩

end Loader

end TaggedConfig
