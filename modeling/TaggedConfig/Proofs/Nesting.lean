import TaggedConfig.Proofs.Causes
import TaggedConfig.Proofs.Failing.Locations

/-!
# Limited nesting

With a limit for nested documents every load comes to an end, whatever the files hold: no chain of
calls goes on for ever, and no file is opened for a document beyond the limit.  A text that names a
document there fails, with one location for each document on the way.
-/

namespace TaggedConfig

namespace Dialogue

variable {ε δ α β : Type} {limit : Nat}

/-- A dialogue comes to an end, and opens files for documents within a limit only. -/
def StaysWithin (limit : Nat) : Dialogue ε α → Prop
  | .done _ => True
  | .unfinished => False
  | .read _ next => ∀ answer, (next answer).StaysWithin limit
  | .assign _ _ next => next.StaysWithin limit
  | .openFile depth _ next => depth ≤ limit ∧ ∀ answer, (next answer).StaysWithin limit

namespace StaysWithin

theorem andThen {dialogue : Dialogue ε α} {continuation : Except ε α → Dialogue δ β}
    (stays : dialogue.StaysWithin limit)
    (later : ∀ result, (continuation result).StaysWithin limit) :
    (dialogue.andThen continuation).StaysWithin limit := by
  induction dialogue with
  | done result => exact later result
  | unfinished => exact stays
  | read name next ih => exact fun answer => ih answer (stays answer)
  | assign name value next ih => exact ih stays
  | openFile depth path next ih => exact ⟨stays.1, fun answer => ih answer (stays.2 answer)⟩

theorem bind {dialogue : Dialogue ε α} {continuation : α → Dialogue ε β}
    (stays : dialogue.StaysWithin limit)
    (later : ∀ value, (continuation value).StaysWithin limit) :
    (dialogue.bind continuation).StaysWithin limit := by
  refine stays.andThen fun result => ?_
  cases result with
  | ok value => exact later value
  | error error => trivial

theorem mapError {dialogue : Dialogue ε α} (stays : dialogue.StaysWithin limit)
    (change : ε → δ) : (dialogue.mapError change).StaysWithin limit := by
  refine stays.andThen fun result => ?_
  cases result with
  | ok value => trivial
  | error error => trivial

/-- Whatever the files and variables are, there is a value or an error. -/
theorem exists_result {dialogue : Dialogue ε α} (stays : dialogue.StaysWithin limit)
    (files : Files) (store : Store) :
    ∃ result left, dialogue.run files store = (some result, left) := by
  induction dialogue generalizing store with
  | done result => exact ⟨result, store, rfl⟩
  | unfinished => exact stays.elim
  | read name next ih => exact ih _ (stays _) store
  | assign name value next ih => exact ih stays _
  | openFile depth path next ih => exact ih _ (stays.2 _) store

end StaysWithin

end Dialogue

theorem Resolving.Compatible.staysWithin (limit : Nat) :
    Compatible fun _ first _ => first.StaysWithin limit where
  ofExcept
    | .ok _ => trivial
    | .error _ => trivial
  lookUp _
    | some _ => trivial
    | none => trivial
  under _ stays := stays.mapError _
  bind stays later := stays.bind later

theorem Request.answer_staysWithin {limit : Nat} {scope : Scope} (request : Request)
    {onValueText : Scope.OnValueText} (named : ∀ text, (scope.includeText text).StaysWithin limit)
    (texts : ∀ text, (onValueText text).StaysWithin limit) :
    (request.answer scope onValueText).StaysWithin limit :=
  @Scope.answer_related _ scope scope onValueText onValueText (.staysWithin limit)
    (fun _ _ => trivial) request (fun _ valueText _ => texts valueText)
    fun text _ => (named text).mapError _

section

variable {limit : Nat} {loader : Loader} {host : Surroundings} {directory : Path}
  {includeText : String → Dialogue ConfigError Value}

/-- Every tree and every value text stays within a limit if the documents that they name do. -/
theorem alongside_staysWithin (named : ∀ text, (includeText text).StaysWithin limit) :
    Scope.Alongside (fun _ first _ => first.StaysWithin limit) (fun _ => True) (fun _ => True)
      (loader.scopeFor host directory includeText) (loader.scopeFor host directory includeText) where
  compatible := .staysWithin limit
  hereditary := .all
  implied _ _ := trivial
  begun _ _ _ := trivial
  text texts _ _ := Request.answer_staysWithin _ named fun text => texts text trivial
  tagged {first _} texts name _ _ inner := by
    cases known : loader.tags.get? (tagName name) with
    | none =>
        rw [Scope.resolveNode_of_unknown known]
        trivial
    | some tag =>
        have applied (input : Value) :
            ((loader.scopeFor host directory includeText).applyTag first tag
              input).StaysWithin limit := by
          rw [← Request.answer_ofTag]
          exact Request.answer_staysWithin _ named fun text => texts text trivial
        rw [Scope.resolveNode_of_known known]
        refine Dialogue.StaysWithin.bind ?_ applied
        split
        · exact inner trivial
        · exact (Resolving.Compatible.staysWithin limit).ofExcept _

theorem resolve_staysWithin (named : ∀ text, (includeText text).StaysWithin limit)
    (node : Yaml.Node) :
    ((loader.scopeFor host directory includeText).resolve node).StaysWithin limit :=
  Scope.resolve_related (alongside_staysWithin named) trivial

end

namespace Loader

variable {loader : Loader} {host : Surroundings} {limit : Nat}

theorem exceeds?_of_maxIncludeDepth (limited : loader.maxIncludeDepth = some limit) (depth : Nat) :
    loader.exceeds? depth = if limit < depth then some limit else none := by
  unfold exceeds?
  rw [limited, Option.filter_some]
  simp only [decide_eq_true_eq]

/-- A file that is too deep is refused, whatever it holds. -/
theorem includeFile_of_exceeds (limited : loader.maxIncludeDepth = some limit) {depth : Nat}
    (deep : limit < depth) (resolveNested : Document → Dialogue ConfigError Value) (file : Path) :
    loader.includeFile resolveNested depth file =
      .fail (.ofCause (.includeDepthExceeded limit file)) := by
  unfold includeFile
  rw [exceeds?_of_maxIncludeDepth limited, if_pos deep]

/-- A file stays within the limit if the documents that are not too deep do. -/
theorem includeFile_staysWithin (limited : loader.maxIncludeDepth = some limit)
    {resolveNested : Document → Dialogue ConfigError Value} {depth : Nat}
    (nested : depth ≤ limit → ∀ document, (resolveNested document).StaysWithin limit)
    (file : Path) : (loader.includeFile resolveNested depth file).StaysWithin limit := by
  by_cases deep : limit < depth
  · rw [includeFile_of_exceeds limited deep]
    trivial
  · have allowed : depth ≤ limit := Nat.le_of_not_lt deep
    unfold includeFile
    rw [exceeds?_of_maxIncludeDepth limited, if_neg deep]
    refine ⟨allowed, fun answer => ?_⟩
    cases answer with
    | error failure => trivial
    | ok content =>
        change ((Dialogue.ofExcept _).bind resolveNested).StaysWithin limit
        exact Dialogue.StaysWithin.bind trivial (nested allowed)

/-- What a text names stays within the limit if the documents that are not too deep do. -/
theorem includeWith_staysWithin (limited : loader.maxIncludeDepth = some limit)
    {resolveNested : Document → Dialogue ConfigError Value} {depth : Nat}
    (nested : depth ≤ limit → ∀ document, (resolveNested document).StaysWithin limit)
    (directory : Path) (text : String) :
    (loader.includeWith host resolveNested depth directory text).StaysWithin limit := by
  unfold includeWith
  split
  · exact includeFile_staysWithin limited nested _
  · trivial

/-- A document within the limit stays within it, and so does whatever it names. -/
theorem resolveWithin_staysWithin (limited : loader.maxIncludeDepth = some limit)
    {allowance depth : Nat} (enough : allowance + depth = limit + 1) (allowed : depth ≤ limit)
    (document : Document) :
    (loader.resolveWithin host allowance depth document).StaysWithin limit := by
  induction allowance generalizing depth document with
  | zero => omega
  | succ allowance ih =>
      have named (text : String) :
          (loader.includeWith host (loader.resolveWithin host allowance (depth + 1)) (depth + 1)
            document.directory text).StaysWithin limit :=
        includeWith_staysWithin limited (fun deeper => ih (by omega) deeper) _ text
      exact (resolve_staysWithin named document.root).mapError _

/-- A load opens no file for a document beyond the limit, and comes to an end. -/
theorem load_staysWithin (limited : loader.maxIncludeDepth = some limit) (source : Source) :
    (loader.load host source).StaysWithin limit := by
  have enough : loader.allowance host + 0 = limit + 1 := by
    unfold allowance
    rw [limited, Option.getD_some, Nat.add_zero]
  refine Dialogue.StaysWithin.bind ?_ fun document =>
    resolveWithin_staysWithin limited enough (Nat.zero_le limit) document
  cases source with
  | text content => trivial
  | file path =>
      refine ⟨Nat.zero_le limit, fun answer => ?_⟩
      cases answer with
      | ok content => trivial
      | error failure => trivial
  | stream bytes name =>
      unfold Source.document
      dsimp only
      split
      · trivial
      · trivial

end Loader

section

variable {loader : Loader} {host : Surroundings} {files : Dialogue.Files} {here : Standpoint}

def Cause.IsLocal (cause : Cause) : Prop := cause.IsOwn ∨ ∃ name, cause = .undefinedVariable name

def Obstacle.IsLocal : Obstacle → Prop
  | .cause found => found.IsLocal
  | .document _ => True

mutual

theorem NodeMeets.isLocal {store left : Store} {node : Yaml.Node} {trail : Trail}
    {obstacle : Obstacle}
    (met : NodeMeets loader host files here store node trail left obstacle) : obstacle.IsLocal := by
  match met with
  | .text asked => exact asked.isLocal fun _ => Request.ofText_isOwn
  | .item _ inner => exact inner.isLocal
  | .key _ inner => exact inner.isLocal
  | .noKey _ _ unfit => exact .inl (Value.asKey_isOwn _ _ unfit)
  | .value _ _ _ inner => exact inner.isLocal
  | .unknownTag _ => exact .inl trivial
  | .content _ _ inner => exact inner.isLocal
  | .noLiteral _ _ unfit => exact .inl (Value.ofNode_isOwn _ _ unfit)
  | .tag _ _ asked => exact asked.isLocal fun _ => Request.ofTag_isOwn

theorem RequestMeets.isLocal {store left : Store} {request : Request} {trail : Trail}
    {obstacle : Obstacle}
    (met : RequestMeets loader host files here store request trail left obstacle)
    (own : ∀ result, request = .settled result → OnlyFails Cause.IsOwn result) :
    obstacle.IsLocal := by
  match met with
  | .settled _ cause => exact .inl (own _ rfl cause rfl)
  | .missing _ => exact .inr ⟨_, rfl⟩
  | .valueText inner => exact inner.isLocal
  | .document _ _ => trivial

theorem ValueTextMeets.isLocal {store left : Store} {text : String} {trail : Trail}
    {obstacle : Obstacle}
    (met : ValueTextMeets loader host files here store text trail left obstacle) :
    obstacle.IsLocal := by
  match met with
  | .implied _ asked => exact asked.isLocal fun _ => Request.ofText_isOwn
  | .tagged _ _ inner => exact inner.isLocal

end

end

namespace DocumentFails

variable {loader : Loader} {host : Surroundings} {files : Dialogue.Files} {limit depth : Nat}
  {store : Store} {document : Document} {frames : List Frame} {cause : Cause}

theorem length_of_tooDeep (limited : loader.maxIncludeDepth = some limit) (allowed : depth ≤ limit)
    (fails : DocumentFails loader host files depth store document frames cause) {reached : Nat}
    {path : Path} (deep : cause = .includeDepthExceeded reached path) :
    reached = limit ∧ frames.length + depth = limit + 1 ∧
      ∃ frame text, frames.getLast? = some frame ∧ frame.document.target host text = .ok path := by
  induction fails with
  | here met =>
      subst deep
      rcases met.isLocal with own | ⟨name, same⟩
      · exact own.elim
      · cases same
  | nameless met untold => cases deep
  | tooDeep met named exceeded =>
      rename_i found _ _ document trail text file
      cases deep
      rw [Loader.exceeds?_of_maxIncludeDepth limited] at exceeded
      split at exceeded
      · cases exceeded
        exact ⟨rfl, by simp only [List.length_singleton]; omega, _, text, rfl, named⟩
      · cases exceeded
  | unreadable met named _ read => cases deep
  | malformed met named _ read parsed => cases deep
  | nested met named exceeded read parsed fails ih =>
      rw [Loader.exceeds?_of_maxIncludeDepth limited] at exceeded
      split at exceeded
      · cases exceeded
      · obtain ⟨same, length, frame, text, last, target⟩ := ih (by omega) deep
        obtain ⟨trail, inner, rfl⟩ := fails.exists_first
        refine ⟨same, ?_, frame, text, last, target⟩
        rw [List.length_cons]
        omega

end DocumentFails

namespace Loader

variable {loader : Loader} {host : Surroundings} {files : Dialogue.Files} {limit : Nat}

theorem document_error_ne_tooDeep {source : Source} {store left : Store} {error : ConfigError}
    (failed : source.document.run files store = (some (.error error), left)) (reached : Nat)
    (path : Path) : error.cause ≠ .includeDepthExceeded reached path := by
  have unparsed {content : String} {origin : Option Path}
      (refused : (Dialogue.ofExcept (Document.parse content origin)).run files store =
        (some (.error error), left)) : error.cause ≠ .includeDepthExceeded reached path := by
    injection refused with refused _
    injection refused with refused
    obtain ⟨malformed, -, rfl⟩ := Document.eq_causeOf_of_parse refused
    exact nofun
  cases source with
  | text content => exact unparsed failed
  | file path =>
      rcases Dialogue.run_bind_error failed with unopened | ⟨answer, middle, opened, behind⟩
      · cases unopened
      · cases opened
        cases read : files path with
        | ok content =>
            rw [read] at behind
            exact unparsed behind
        | error failure =>
            rw [read] at behind
            cases behind
            exact nofun
  | stream bytes name =>
      unfold Source.document at failed
      dsimp only at failed
      split at failed
      · exact unparsed failed
      · cases failed
        exact nofun

/-- A load that names a document which is too deep fails with one location for each depth. -/
theorem locations_of_tooDeep (limited : loader.maxIncludeDepth = some limit) {source : Source}
    {store left : Store} {error : ConfigError}
    (failed : (loader.load host source).run files store = (some (.error error), left))
    {reached : Nat} {path : Path} (deep : error.cause = .includeDepthExceeded reached path) :
    reached = limit ∧ error.locations.length = limit + 1 ∧
      (host.IsRooted → path.isAbsolute = true) := by
  rcases Dialogue.run_bind_error failed with noDocument | ⟨document, middle, -, resolved⟩
  · exact absurd deep (document_error_ne_tooDeep noDocument reached path)
  · change (loader.resolveWithin host (loader.allowance host) 0 document).run files middle = _
      at resolved
    obtain ⟨frames, fails, located⟩ := resolveWithin_fails (Nat.add_zero _) resolved
    obtain ⟨same, length, frame, text, -, named⟩ :=
      fails.length_of_tooDeep limited (Nat.zero_le limit) deep
    refine ⟨same, ?_, fun isRooted => isRooted.isAbsolute_target named⟩
    rw [located, List.length_map]
    exact length

/--
With a limit for nested documents, what is resolved for something else is below it: it has fewer
documents left, shorter texts, or a smaller tree.  Every load has a value or an error and opens files
for documents within the limit only.  A text that names a file beyond the limit is refused before the
file is opened, and the error of the load has one location for each depth; a text that names no file,
for want of a directory, is refused at every depth.
-/
theorem load_within_limit (loader : Loader) (limit : Nat)
    (limited : loader.maxIncludeDepth = some limit) (host : Surroundings) (files : Dialogue.Files)
    (store : Store) (source : Source) :
    (∀ outer inner, Calls loader outer inner →
        Call.Below (inner.rank limit) (outer.rank limit)) ∧
      WellFounded (fun inner outer => Calls loader outer inner) ∧
      (∀ (scope : Scope) (text : String),
        scope.resolveValueText text = scope.resolveValueTextWith scope.resolveValueText text) ∧
      (loader.load host source).StaysWithin limit ∧
      (∃ result left, (loader.load host source).run files store = (some result, left)) ∧
      (∀ (resolveNested : Document → Dialogue ConfigError Value) (depth : Nat) (directory : Path)
        (text : String) (file : Path),
          Path.ofIncludeText host.workingDirectory host.home directory text = .ok file →
            limit < depth →
              loader.includeWith host resolveNested depth directory text =
                .fail (.ofCause (.includeDepthExceeded limit file))) ∧
      (∀ (resolveNested : Document → Dialogue ConfigError Value) (depth : Nat) (directory : Path)
        (text : String) (failure : ReadFailure),
          Path.ofIncludeText host.workingDirectory host.home directory text = .error failure →
            loader.includeWith host resolveNested depth directory text =
              .fail (.ofCause (.includeNotFound ⟨text⟩ failure))) ∧
      ∀ (error : ConfigError) (left : Store) (reached : Nat) (path : Path),
        (loader.load host source).run files store = (some (.error error), left) →
          error.cause = .includeDepthExceeded reached path →
            reached = limit ∧ error.locations.length = limit + 1 ∧
              (host.IsRooted → path.isAbsolute = true) := by
  have stays : (loader.load host source).StaysWithin limit := load_staysWithin limited source
  refine ⟨fun _ _ calls => calls.rank_below limited, Calls.wellFounded limited,
    Scope.resolveValueText_eq, stays, stays.exists_result files store, ?_, ?_, ?_⟩
  · intro resolveNested depth directory text file named deep
    rw [includeWith_of_named named]
    exact includeFile_of_exceeds limited deep resolveNested file
  · intro resolveNested depth directory text failure untold
    exact includeWith_of_untold untold resolveNested depth
  · intro error left reached path failed deep
    exact locations_of_tooDeep limited failed deep

/-- A file that includes itself is refused at the limit. -/
theorem load_within_limit_of_cycle :
    let loader := ofOptions [] (some 1)
    let files : Dialogue.Files := fun _ => .ok "!include f"
    let error : ConfigError :=
      ⟨[⟨none, ""⟩, ⟨some ⟨"/f"⟩, ""⟩], .includeDepthExceeded 1 ⟨"/f"⟩⟩
    loader.maxIncludeDepth = some 1 ∧
      (loader.load .atRoot (.text "!include f")).run files Store.empty =
        (some (.error error), Store.empty) ∧
      error.locations.length = 1 + 1 := by
  intro loader files error
  have failed : (loader.load .atRoot (.text "!include f")).run files Store.empty =
      (some (.error error), Store.empty) := by
    cbv
  obtain ⟨-, -, -, -, -, -, -, located⟩ :=
    load_within_limit loader 1 rfl .atRoot files Store.empty (.text "!include f")
  exact ⟨rfl, failed, (located error Store.empty 1 ⟨"/f"⟩ failed rfl).2.1⟩

end Loader

end TaggedConfig
