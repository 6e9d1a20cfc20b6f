import TaggedConfig.Proofs.Failing.Locations

/-!
# The file that is loaded instead

A configuration is loaded from a second file only if the first one cannot be read.  Whatever goes wrong
in a file that can be read has a location, or a cause of its own, and is never taken for a file that
cannot be read.
-/

namespace TaggedConfig

namespace Loader

variable {loader : Loader} {host : Surroundings} {files : Dialogue.Files} {document : Document}
  {store left : Store} {error : ConfigError}

/-- The error of a document that cannot be resolved has the location of the document in front. -/
theorem exists_location_of_resolveDocument
    (failed : (loader.resolveDocument host document).run files store =
      (some (.error error), left)) :
    ∃ location inner, error.locations = location :: inner := by
  obtain ⟨allowance, enough⟩ := Nat.exists_eq_add_one.mpr (loader.allowance_pos host)
  unfold resolveDocument at failed
  rw [enough] at failed
  obtain ⟨failure, -, rfl⟩ := Dialogue.run_mapError_error failed
  exact ⟨_, _, rfl⟩

end Loader

namespace Config

variable {loader : Loader} {host : Surroundings} {files : Dialogue.Files} {path : Path}
  {store : Store}

/-- An error with a location is not the error of a source that could not be read. -/
theorem isUnreadable_of_location {error : ConfigError} {location : Location}
    {inner : List Location} (located : error.locations = location :: inner) :
    isUnreadable error = false := by
  obtain ⟨locations, cause⟩ := error
  subst located
  rfl

/-- A file that cannot be read is no configuration, and leaves the store as it is. -/
theorem run_load_of_unreadable {failure : ReadFailure} (unread : files path = .error failure) :
    (load loader host (.file path)).run files store =
      (some (.error (.ofCause (.unreadableFile path failure))), store) := by
  change (Dialogue.openFile 0 path _).run files store = _
  exact Dialogue.run_openFile_of_answer unread store

theorem history_load_of_unreadable {failure : ReadFailure} (unread : files path = .error failure) :
    (load loader host (.file path)).history files store = [] := by
  change (Dialogue.openFile 0 path _).history files store = _
  rw [Dialogue.history, unread]
  rfl

/-- Loading a file that can be read fails otherwise than a file that cannot be read. -/
theorem isUnreadable_of_load {content : String} (read : files path = .ok content) {left : Store}
    {error : ConfigError}
    (failed : (load loader host (.file path)).run files store = (some (.error error), left)) :
    isUnreadable error = false := by
  rcases Dialogue.run_bind_error failed with unresolved | ⟨value, middle, -, unfit⟩
  · rcases Dialogue.run_bind_error unresolved with unparsed | ⟨document, middle, -, failed⟩
    · change (Dialogue.openFile 0 path _).run files store = _ at unparsed
      rw [Dialogue.run_openFile_of_answer read] at unparsed
      have refused : Document.parse content (some path) = .error error :=
        Option.some.inj (congrArg Prod.fst unparsed)
      obtain ⟨inner, -, rfl⟩ := Document.eq_causeOf_of_parse refused
      rfl
    · obtain ⟨location, inner, located⟩ := Loader.exists_location_of_resolveDocument failed
      exact isUnreadable_of_location located
  · cases value with
    | mapping values => cases unfit
    | _ =>
        cases unfit
        rfl

theorem origin_of_load {left : Store} {config : Config}
    (loaded : (load loader host (.file path)).run files store = (some (.ok config), left)) :
    config.origin = some path := by
  obtain ⟨value, middle, -, fit⟩ := Dialogue.exists_of_yields_bind loaded
  cases value with
  | mapping values =>
      cases fit
      rfl
  | _ => cases fit

/--
A file that can be read is loaded as if there were no other one, whatever the result: the accesses to
variables, the value or error, and the store at the end.  If it cannot be read, the other file is loaded
as if the first one had not been tried.
-/
theorem loadWithFallback_loads_one (loader : Loader) (host : Surroundings) (files : Dialogue.Files)
    (store : Store) (primary fallback : Path) :
    let asked := loadWithFallback loader host primary fallback
    let own (path : Path) := load loader host (.file path)
    (∀ content, files primary = .ok content →
      asked.run files store = (own primary).run files store ∧
        asked.history files store = (own primary).history files store) ∧
      (∀ failure, files primary = .error failure →
        asked.run files store = (own fallback).run files store ∧
          asked.history files store = (own fallback).history files store ∧
          ∀ config left, asked.run files store = (some (.ok config), left) →
            config.origin = some fallback) := by
  intro asked own
  have ran : asked.run files store = _ := Dialogue.run_andThen files (own primary) _ store
  have happened : asked.history files store = _ :=
    Dialogue.history_andThen files (own primary) _ store
  refine ⟨fun content read => ?_, fun failure unread => ?_⟩
  · rw [ran, happened]
    match first : (own primary).run files store with
    | (some (.ok config), left) => exact ⟨rfl, List.append_nil _⟩
    | (some (.error error), left) =>
        dsimp only
        rw [isUnreadable_of_load read first, if_neg Bool.false_ne_true]
        exact ⟨rfl, List.append_nil _⟩
    | (none, left) => exact ⟨rfl, List.append_nil _⟩
  · have silent : (own primary).history files store = [] := history_load_of_unreadable unread
    have first : (own primary).run files store = _ := run_load_of_unreadable unread
    have same : asked.run files store = (own fallback).run files store := by
      rw [ran, first]
      rfl
    refine ⟨same, ?_, fun config left loaded => origin_of_load (same ▸ loaded)⟩
    rw [happened, first, silent]
    rfl

/--
A file whose include is missing, one with a path that cannot be made absolute for want of a working
directory, and one that is missing, each with the same other file.  Only the last is taken for missing.
-/
theorem loadWithFallback_loads_one_of_missing_files :
    let loader := Loader.ofOptions [] (some 1)
    let host : Surroundings := ⟨.error (.system 2), none, default, 0⟩
    let files : Dialogue.Files := fun path =>
      if path = ⟨"/b"⟩ then .ok "!include m"
      else if path = ⟨"p"⟩ then .ok "!abspath q"
      else if path = ⟨"f"⟩ then .ok "\x7ba: 1\x7d"
      else .error (.system 2)
    let run (primary : Path) : Option (Except ConfigError Config) × Store :=
      (loadWithFallback loader host primary ⟨"f"⟩).run files .empty
    run ⟨"/b"⟩ =
        (some (.error ⟨[⟨some ⟨"/b"⟩, ""⟩], .includeNotFound ⟨"/m"⟩ (.system 2)⟩), .empty) ∧
      run ⟨"p"⟩ =
        (some (.error ⟨[⟨some ⟨"p"⟩, ""⟩], .unreadableFile ⟨"./q"⟩ (.system 2)⟩), .empty) ∧
      run ⟨"m"⟩ = (some (.ok ⟨[("a", .integer 1)], some ⟨"f"⟩⟩), .empty) := by
  intro loader host files run
  have missingInclude : (load loader host (.file ⟨"/b"⟩)).run files .empty =
      (some (.error ⟨[⟨some ⟨"/b"⟩, ""⟩], .includeNotFound ⟨"/m"⟩ (.system 2)⟩), .empty) := by
    cbv
  have noDirectory : (load loader host (.file ⟨"p"⟩)).run files .empty =
      (some (.error ⟨[⟨some ⟨"p"⟩, ""⟩], .unreadableFile ⟨"./q"⟩ (.system 2)⟩), .empty) := by
    cbv
  have other : (load loader host (.file ⟨"f"⟩)).run files .empty =
      (some (.ok ⟨[("a", .integer 1)], some ⟨"f"⟩⟩), .empty) := by
    cbv
  have one (primary : Path) :=
    loadWithFallback_loads_one loader host files .empty primary ⟨"f"⟩
  refine ⟨?_, ?_, ?_⟩
  · exact ((one ⟨"/b"⟩).1 "!include m" rfl).1.trans missingInclude
  · exact ((one ⟨"p"⟩).1 "!abspath q" rfl).1.trans noDirectory
  · exact ((one ⟨"m"⟩).2 (.system 2) rfl).1.trans other

end Config

end TaggedConfig
