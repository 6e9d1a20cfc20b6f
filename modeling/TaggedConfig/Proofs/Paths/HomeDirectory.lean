import TaggedConfig.Proofs.Paths.AbsolutePaths

/-!
# Files below the home directory

A text that begins with a tilde and a slash names what is left of it below the home directory, wherever
the document stands.  If another slash follows, what is left is an absolute path and starts over at the
root.
-/

namespace TaggedConfig

namespace Standpoint

/-- Within the limit, a file that cannot be read is complained about. -/
theorem Includes.run_of_unreadable {loader : Loader} {host : Surroundings} {here : Standpoint}
    {text : String} {file : Path} {files : Dialogue.Files} {failure : ReadFailure}
    (included : here.Includes loader host text file)
    (allowed : loader.exceeds? (here.depth + 1) = none) (unread : files file = .error failure)
    (store : Store) :
    let scope := here.scope loader host
    (scope.applyTag scope.resolveValueText .includeFile (.string text)).run files store =
      (some (.error ⟨[], .ofCause (.includeNotFound file failure)⟩), store) := by
  have ended := included files store
  rw [allowed, unread] at ended
  exact ended

/--
If no piece behind the tilde leads up, a text names its names below the home directory, unless a second
slash follows the tilde: then it names them below the root.  Neither the directory of the document nor
the working directory matters, nor whether the system tells it.
-/
theorem includes_below_home (loader : Loader) (host : Surroundings) (home : Route)
    (found : host.home = some home.toPath) (here : Standpoint) (rest : String)
    (noAscent : ".." ∉ Text.pieces '/' rest) :
    let names := (Text.pieces '/' rest).filter (Path.IsOrdinary ·)
    let file (names : List String) : Path := ⟨"/" ++ (Path.ofSegments names).text⟩
    (¬['/'] <+: rest.toList →
        here.Includes loader host ("~/" ++ rest) (file (home.names ++ names))) ∧
      (['/'] <+: rest.toList → here.Includes loader host ("~/" ++ rest) (file names)) := by
  intro names file
  have target : here.target host ("~/" ++ rest) = .ok ((⟨rest⟩ : Path).follow home).toPath := by
    unfold Standpoint.target
    rw [found]
    exact Path.ofIncludeText_tilde host.workingDirectory here.directory home rest
  have included := includes_target loader target
  have led (start : Route)
      (begun : start = if (⟨rest⟩ : Path).isAbsolute then Route.root else home) :
      here.Includes loader host ("~/" ++ rest) (file (start.names ++ names)) := by
    rw [Path.follow, ← begun, Route.toPath] at included
    rw [← start.names_foldl_go_down noAscent]
    exact included
  constructor
  · intro relative
    exact led home (if_neg (mt Path.isAbsolute_iff.mp relative)).symm
  · intro absolute
    exact led .root (if_pos (Path.isAbsolute_iff.mpr absolute)).symm

/-- From the home directory `/home/u`, a text is included from below it, whatever stops it has. -/
theorem includes_below_home_with_stops :
    let host : Surroundings := ⟨.error (.system 2), some ⟨"/home/u"⟩, default, 0⟩
    let home : Route := ⟨["home", "u"], by decide⟩
    host.home = some home.toPath ∧ ".." ∉ Text.pieces '/' "./a//...b/." ∧
      ¬['/'] <+: "./a//...b/.".toList ∧
      (⟨⟨"c"⟩, 0⟩ : Standpoint).Includes Loader.basic host "~/./a//...b/." ⟨"/home/u/a/...b"⟩ := by
  intro host home
  have found : host.home = some home.toPath := by decide
  have noAscent : ".." ∉ Text.pieces '/' "./a//...b/." := by decide
  have relative : ¬['/'] <+: "./a//...b/.".toList := by decide
  exact ⟨found, noAscent, relative,
    (includes_below_home Loader.basic host home found ⟨⟨"c"⟩, 0⟩ "./a//...b/." noAscent).1 relative⟩

/--
With a second slash, a text names a file at the root, which is not below the home directory; the file in
the home directory is not found.
-/
theorem home_is_left_behind_slash :
    let home : Route := ⟨["home", "u"], by decide⟩
    let host : Surroundings := ⟨.ok ⟨"/w"⟩, some home.toPath, default, 0⟩
    let missing : ReadFailure := .system 2
    let files : Dialogue.Files := fun file =>
      if file = ⟨"/home/u/a.yaml"⟩ then .ok "1" else .error missing
    let here : Standpoint := ⟨⟨"c"⟩, 0⟩
    let scope := here.scope Loader.basic host
    ".." ∉ Text.pieces '/' "/a.yaml" ∧
      (∃ file, here.target host "~//a.yaml" = .ok file ∧
        ¬home.names <+: (file.follow .root).names) ∧
      (scope.applyTag scope.resolveValueText .includeFile (.string "~//a.yaml")).run files
          Store.empty =
        (some (.error ⟨[], .ofCause (.includeNotFound ⟨"/a.yaml"⟩ missing)⟩), Store.empty) := by
  intro home host missing files here scope
  have target : here.target host "~//a.yaml" = .ok ⟨"/a.yaml"⟩ := by decide
  refine ⟨by decide, ⟨⟨"/a.yaml"⟩, target, by decide⟩, ?_⟩
  exact (includes_target Loader.basic target).run_of_unreadable (by decide) (if_neg (by decide))
    Store.empty

end Standpoint

end TaggedConfig
