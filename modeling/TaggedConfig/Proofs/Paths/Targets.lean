import TaggedConfig.Proofs.Fallible
import TaggedConfig.Proofs.Paths.NormalForm
import TaggedConfig.Tag.PathElements

/-!
# The file that a text names

An absolute path leads to its normal form from everywhere.  Any other path is seen from a directory, and
this from the working directory, if the system tells it.  Only a text that begins with a tilde and a slash
needs the home directory, and what is below an absolute home directory needs nothing else.
-/

namespace TaggedConfig

namespace Path

variable {path file : Path}

theorem rooted_eq_ok_iff {workingDirectory : Except ReadFailure Path} :
    rooted workingDirectory path = .ok file ↔
      path.isAbsolute = true ∧ path.normalize = file ∨
        path.isAbsolute = false ∧
          ∃ directory, workingDirectory = .ok directory ∧ absolutize directory path = file := by
  unfold rooted
  cases path.isAbsolute with
  | true => simp
  | false =>
      cases workingDirectory with
      | ok directory => simp [bind, Except.bind, pure, Except.pure]
      | error failure => simp [bind, Except.bind]

theorem isAbsolute_absolutize {directory : Path} (absolute : directory.isAbsolute = true)
    (path : Path) : (absolutize directory path).isAbsolute = true := by
  unfold absolutize
  rw [isAbsolute_normalize, isAbsolute_join, absolute, Bool.true_or]

/-- From an absolute working directory, the file that a text names has an absolute path. -/
theorem isAbsolute_ofIncludeText {workingDirectory : Except ReadFailure Path} {home : Option Path}
    {directory : Path} {text : String}
    (absolute : ∀ root, workingDirectory = .ok root → root.isAbsolute = true)
    (named : ofIncludeText workingDirectory home directory text = .ok file) :
    file.isAbsolute = true := by
  obtain ⟨expanded, -, seen⟩ := exists_of_bind_eq_ok named
  rcases rooted_eq_ok_iff.mp seen with ⟨rooted, rfl⟩ | ⟨-, root, told, rfl⟩
  · rw [isAbsolute_normalize, rooted]
  · exact isAbsolute_absolutize (absolute root told) _

/-- A path that is seen from directories is the route that is followed through them. -/
theorem absoluteIn_eq {workingDirectory : Path} (absolute : workingDirectory.isAbsolute = true)
    (directory path : Path) (start : Route) :
    absoluteIn (.ok workingDirectory) directory path =
      .ok (path.follow (directory.follow (workingDirectory.follow start))).toPath := by
  unfold absoluteIn rooted
  split
  next rooted =>
    rw [normalize_of_isAbsolute rooted (workingDirectory.follow start), follow_join]
  next =>
    have joined : (workingDirectory.join (directory.join path)).isAbsolute = true := by
      rw [isAbsolute_join, absolute, Bool.true_or]
    change Except.ok (workingDirectory.join (directory.join path)).normalize = _
    rw [normalize_of_isAbsolute joined start, follow_join, follow_join]

section

variable (workingDirectory : Except ReadFailure Path) (home : Option Path) (directory : Path)

theorem absoluteIn_of_isAbsolute (absolute : path.isAbsolute = true) :
    absoluteIn workingDirectory directory path = .ok path.normalize := by
  unfold absoluteIn rooted
  rw [join_of_isAbsolute directory absolute, if_pos absolute]

theorem absoluteIn_toPath (route : Route) :
    absoluteIn workingDirectory directory route.toPath = .ok route.toPath := by
  rw [absoluteIn_of_isAbsolute _ _ route.isAbsolute_toPath, route.normalize_toPath]

theorem belowHome?_eq_none {text : String} (plain : ¬['~', '/'] <+: text.toList) :
    belowHome? text = none := by
  unfold belowHome?
  split
  · rename_i rest begun
    exact absurd ⟨rest, begun.symm⟩ plain
  · rfl

theorem belowHome?_tilde (rest : String) : belowHome? ("~/" ++ rest) = some ⟨rest⟩ := by
  have letters : ("~/" ++ rest).toList = '~' :: '/' :: rest.toList := String.toList_append
  unfold belowHome?
  rw [letters]
  exact congrArg (fun text => some (mk text)) String.ofList_toList

/-- A text that does not begin with the home directory is seen from the directory. -/
theorem ofIncludeText_of_plain {text : String} (plain : ¬['~', '/'] <+: text.toList) :
    ofIncludeText workingDirectory home directory text =
      absoluteIn workingDirectory directory ⟨text⟩ := by
  unfold ofIncludeText expandHome
  rw [belowHome?_eq_none plain]
  rfl

/-- An absolute path names the file of its normal form; no directory is missing for it. -/
theorem ofIncludeText_of_isAbsolute (absolute : path.isAbsolute = true) :
    ofIncludeText workingDirectory home directory path.text = .ok path.normalize := by
  have begun : path.text.toList.head? = some '/' := beq_iff_eq.mp absolute
  have plain : ¬['~', '/'] <+: path.text.toList := by
    rintro ⟨rest, tilde⟩
    rw [← tilde] at begun
    cases begun
  rw [ofIncludeText_of_plain _ _ _ plain]
  exact absoluteIn_of_isAbsolute _ _ absolute

/-- What follows the tilde is followed from the home directory, wherever a document stands. -/
theorem ofIncludeText_tilde (home : Route) (rest : String) :
    ofIncludeText workingDirectory (some home.toPath) directory ("~/" ++ rest) =
      .ok ((⟨rest⟩ : Path).follow home).toPath := by
  have absolute : (home.toPath.join ⟨rest⟩).isAbsolute = true := by
    rw [isAbsolute_join, home.isAbsolute_toPath, Bool.true_or]
  have seen := absoluteIn_of_isAbsolute workingDirectory directory absolute
  rw [normalize_of_isAbsolute absolute .root, follow_join, home.follow_toPath] at seen
  unfold ofIncludeText expandHome
  rw [belowHome?_tilde]
  exact seen

end

end Path

end TaggedConfig
