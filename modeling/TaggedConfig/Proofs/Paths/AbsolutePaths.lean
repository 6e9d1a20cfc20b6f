import TaggedConfig.Proofs.Failing.Locations

/-!
# Absolute paths

All tags see a path from the directory of their document, and this from the working directory.  So a
text names the same file whether it is made absolute or included, unless the home directory comes in, and
elements that are joined and then made absolute come to the same as elements that are made absolute
together.
-/

namespace TaggedConfig

theorem Tag.joinElements_strings (tag : Tag) {texts : List String} (some : texts ≠ []) :
    tag.joinElements (.sequence (texts.map .string)) =
      .ok ((texts.map Path.mk).foldl Path.join ⟨""⟩) := by
  have elements : (texts.map Value.string).mapM tag.pathElement = .ok (texts.map Path.mk) := by
    rw [List.mapM_map]
    exact List.mapM_pure
  obtain ⟨text, rest, rfl⟩ := List.exists_cons_of_ne_nil some
  unfold joinElements
  change ((text :: rest).map Value.string).mapM tag.pathElement >>= _ = _
  rw [elements]
  rfl

theorem Value.ofPathIn_of_named {workingDirectory : Except ReadFailure Path}
    {directory path file : Path} (made : Path.absoluteIn workingDirectory directory path = .ok file) :
    ofPathIn workingDirectory directory path = .ok (.string file.text) := by
  unfold ofPathIn
  rw [made]

namespace Standpoint

/--
Including a text stands for a file.  The limit is complained about with its path, and so is a file that
cannot be read; what is resolved is a document from this file.
-/
def Includes (loader : Loader) (host : Surroundings) (here : Standpoint) (text : String)
    (file : Path) : Prop :=
  ∀ (files : Dialogue.Files) (store : Store),
    let scope := here.scope loader host
    let ended := (scope.applyTag scope.resolveValueText .includeFile (.string text)).run files store
    let fails (error : ConfigError) : Prop := ended = (some (.error ⟨[], error⟩), store)
    match loader.exceeds? (here.depth + 1), files file with
    | some limit, _ => fails (.ofCause (.includeDepthExceeded limit file))
    | none, .error failure => fails (.ofCause (.includeNotFound file failure))
    | none, .ok content =>
        match Document.parse content (some file) with
        | .error error => fails error
        | .ok document =>
            let depth := here.depth + 1
            let nested := loader.resolveWithin host (loader.allowance host - depth) depth document
            document.origin = some file ∧
              ended = (nested.mapError fun error => ⟨[], error⟩).run files store

theorem includes_target (loader : Loader) {host : Surroundings} {here : Standpoint} {text : String}
    {file : Path} (named : here.target host text = .ok file) :
    here.Includes loader host text file := by
  intro files store scope ended fails
  let nested := loader.resolveWithin host (loader.allowance host - (here.depth + 1)) (here.depth + 1)
  let located (error : ConfigError) : Failure := ⟨[], error⟩
  have begun : ended = ((loader.includeWith host nested (here.depth + 1) here.directory
      text).mapError located).run files store := rfl
  rw [Loader.includeWith_of_named named] at begun
  unfold Loader.includeFile at begun
  cases exceeded : loader.exceeds? (here.depth + 1) with
  | some limit =>
      rw [exceeded] at begun
      exact begun
  | none =>
      rw [exceeded] at begun
      cases read : files file with
      | error failure => exact begun.trans (Dialogue.run_openFile_of_answer read store)
      | ok content =>
          have opened : ended = (((Dialogue.ofExcept (Document.parse content
              (some file))).bind nested).mapError located).run files store :=
            begun.trans (Dialogue.run_openFile_of_answer read store)
          dsimp only
          cases parsed : Document.parse content (some file) with
          | error error =>
              rw [parsed] at opened
              exact opened
          | ok document =>
              rw [parsed] at opened
              exact ⟨Document.origin_of_parse parsed, opened⟩

/-- From an absolute working directory, the file that a text names is at the end of a route. -/
theorem exists_target {host : Surroundings} {workingDirectory : Path}
    (told : host.workingDirectory = .ok workingDirectory)
    (absolute : workingDirectory.isAbsolute = true) (here : Standpoint) {text : String}
    (findsHome : ['~', '/'] <+: text.toList → host.home.isSome) :
    ∃ route : Route, here.target host text = .ok route.toPath := by
  unfold target
  rw [told]
  by_cases tilde : ['~', '/'] <+: text.toList
  · obtain ⟨home, found⟩ := Option.isSome_iff_exists.mp (findsHome tilde)
    unfold Path.ofIncludeText Path.expandHome
    rw [found]
    cases Path.belowHome? text with
    | none => exact ⟨_, Path.absoluteIn_eq absolute here.directory ⟨text⟩ .root⟩
    | some rest => exact ⟨_, Path.absoluteIn_eq absolute here.directory (home.join rest) .root⟩
  · rw [Path.ofIncludeText_of_plain _ _ _ tilde]
    exact ⟨_, Path.absoluteIn_eq absolute here.directory ⟨text⟩ .root⟩

theorem absPath_yields {loader : Loader} {host : Surroundings} {here : Standpoint} {text : String}
    {file : Path} (made : Path.absoluteIn host.workingDirectory here.directory ⟨text⟩ = .ok file) :
    let scope := here.scope loader host
    scope.applyTag scope.resolveValueText .absPath (.string text) =
      .ofValue (.string file.text) := by
  change Resolving.ofExcept (Value.ofPathIn host.workingDirectory here.directory ⟨text⟩) = _
  rw [Value.ofPathIn_of_named made]
  rfl

/--
The tags for paths agree with each other and with including a document, wherever a document stands.
Joining elements and making them absolute is the same in one step and in two.  A text is included from
the file that it is made absolute to, unless it begins with the home directory.  What is made absolute
or included is always the path of a route, and making it absolute once more, from whichever directory
and even without a working directory, does not change it.
-/
theorem path_tags_agree (loader : Loader) (host : Surroundings) (workingDirectory : Path)
    (told : host.workingDirectory = .ok workingDirectory)
    (absolute : workingDirectory.isAbsolute = true) (here : Standpoint) :
    let tagged (host : Surroundings) (here : Standpoint) :=
      let scope := here.scope loader host
      scope.applyTag scope.resolveValueText
    let yields (tag : Tag) (input : Value) (text : String) : Prop :=
      tagged host here tag input = .ofValue (.string text)
    (∀ texts : List String, texts ≠ [] → ∃ (joined : String) (route : Route),
      let elements : Value := .sequence (texts.map .string)
      yields .pathJoin elements joined ∧ yields .absPathJoin elements route.toPath.text ∧
        yields .absPath (.string joined) route.toPath.text) ∧
      (∀ text, (['~', '/'] <+: text.toList → host.home.isSome) →
        ∃ route : Route, here.Includes loader host text route.toPath ∧
          (¬['~', '/'] <+: text.toList → yields .absPath (.string text) route.toPath.text)) ∧
      (∀ text, ∃ route : Route, yields .absPath (.string text) route.toPath.text) ∧
      ∀ (route : Route) (elsewhere : Surroundings) (there : Standpoint),
        tagged elsewhere there .absPath (.string route.toPath.text) =
          .ofValue (.string route.toPath.text) := by
  intro tagged yields
  have routed (path : Path) : ∃ route : Route,
      Path.absoluteIn host.workingDirectory here.directory path = .ok route.toPath := by
    rw [told]
    exact ⟨_, Path.absoluteIn_eq absolute here.directory path .root⟩
  refine ⟨?_, ?_, ?_, ?_⟩
  · intro texts some
    let joined := (texts.map Path.mk).foldl Path.join ⟨""⟩
    obtain ⟨route, made⟩ := routed joined
    refine ⟨joined.text, route, ?_, ?_, absPath_yields made⟩
    · change Resolving.ofExcept (Tag.pathJoin.joinElements _ >>= _) = _
      rw [Tag.pathJoin.joinElements_strings some]
      rfl
    · change Resolving.ofExcept (Tag.absPathJoin.joinElements _ >>= _) = _
      rw [Tag.absPathJoin.joinElements_strings some]
      change Resolving.ofExcept (Value.ofPathIn host.workingDirectory here.directory joined) = _
      rw [Value.ofPathIn_of_named made]
      rfl
  · intro text findsHome
    obtain ⟨route, named⟩ := here.exists_target told absolute findsHome
    refine ⟨route, includes_target loader named, fun plain => absPath_yields ?_⟩
    rw [← named, target, Path.ofIncludeText_of_plain _ _ _ plain]
  · intro text
    obtain ⟨route, made⟩ := routed ⟨text⟩
    exact ⟨route, absPath_yields made⟩
  · intro route elsewhere there
    exact absPath_yields (Path.absoluteIn_toPath elsewhere.workingDirectory there.directory route)

/-- A document in a relative directory includes a text from the file that it is made absolute to. -/
theorem path_tags_agree_in_relative_directory :
    let host : Surroundings := ⟨.ok ⟨"/w"⟩, none, default, 0⟩
    let here : Standpoint := ⟨⟨"sub/../.."⟩, 0⟩
    let scope := here.scope Loader.basic host
    let tagged := scope.applyTag scope.resolveValueText
    host.workingDirectory = .ok ⟨"/w"⟩ ∧ (⟨"/w"⟩ : Path).isAbsolute = true ∧
      tagged .absPath (.string "a//../b/.") = .ofValue (.string "/b") ∧
      here.Includes Loader.basic host "a//../b/." ⟨"/b"⟩ ∧
      tagged .absPathJoin (.sequence [.string "c", .string "", .string "../d"]) =
        tagged .absPath (.string "c/../d") := by
  intro host here scope tagged
  have absolute : (⟨"/w"⟩ : Path).isAbsolute = true := by decide
  have written {first second : String}
      (same : (Dialogue.ofValue (.string first) : Resolving Value) = .ofValue (.string second)) :
      first = second :=
    Value.string.inj (Except.ok.inj (Dialogue.done.inj same))
  have file : Path.absoluteIn (.ok ⟨"/w"⟩) ⟨"sub/../.."⟩ ⟨"a//../b/."⟩ = .ok ⟨"/b"⟩ := by decide
  have made : tagged .absPath (.string "a//../b/.") = .ofValue (.string "/b") := absPath_yields file
  obtain ⟨joins, includes, -, -⟩ := path_tags_agree Loader.basic host ⟨"/w"⟩ rfl absolute here
  refine ⟨rfl, absolute, made, ?_, ?_⟩
  · have plain : ¬['~', '/'] <+: "a//../b/.".toList := by decide
    obtain ⟨route, included, same⟩ := includes "a//../b/." fun tilde => absurd tilde plain
    have text := written ((same plain).symm.trans made)
    exact congrArg Path.mk text ▸ included
  · obtain ⟨joined, route, joinedTo, together, apart⟩ := joins ["c", "", "../d"] (by decide)
    have elements : tagged .pathJoin (.sequence [.string "c", .string "", .string "../d"]) =
        .ofValue (.string "c/../d") := by
      cbv
    have text := written (joinedTo.symm.trans elements)
    rw [text] at apart
    exact together.trans apart.symm

end Standpoint

end TaggedConfig
