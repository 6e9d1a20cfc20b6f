import TaggedConfig.Resolution
import TaggedConfig.Source

/-!
# Loading

A loader resolves documents with its tags, its run mode and its limit for nested documents.  A tag
can name another document, which is loaded one level deeper and with its own directory.  A document
that includes itself never ends unless there is a limit; without one, loading goes on until there is
no room for another nested document.
-/

namespace TaggedConfig

/-- What loading depends on besides files and variables. -/
structure Surroundings where
  /-- The system may fail to tell it. -/
  workingDirectory : Except ReadFailure Path
  /-- There need not be one. -/
  home : Option Path
  now : Moment
  /-- How many documents can be nested below an included one if no limit is set. -/
  room : Nat

/-- A host that has both directories, with room for long chains of documents. -/
structure Host where
  workingDirectory : Path
  home : Path
  now : Moment
  room : Nat := 100000

def Host.surroundings (host : Host) : Surroundings where
  workingDirectory := .ok host.workingDirectory
  home := some host.home
  now := host.now
  room := host.room

instance : Coe Host Surroundings := ⟨Host.surroundings⟩

/-- A way to resolve documents. -/
structure Loader where
  tags : TagTable
  runMode : Option String
  /-- How deep documents may be nested; the document that is loaded first has depth zero. -/
  maxIncludeDepth : Option Nat

namespace Loader

def addExtension (extensions : List Extension) (extension : Extension) : List Extension :=
  extensions.filter (fun earlier => earlier.tag ≠ extension.tag) ++ [extension]

def runModeOf (extensions : List Extension) : Option String :=
  extensions.findSome? fun
    | .switchCommand runMode => runMode

/-- The loader with some extensions, given in the order in which they are added, and a limit. -/
def ofOptions (extensions : List Extension) (maxIncludeDepth : Option Nat) : Loader :=
  let extensions := extensions.foldl addExtension []
  ⟨.ofExtensions extensions, runModeOf extensions, maxIncludeDepth⟩

def basic : Loader := ofOptions [] none

/-- The loader that always knows how to select a case. -/
def withRunMode (runMode : Option String) : Loader := ofOptions [.switchCommand runMode] none

/-- One document for each depth within the limit, or else as far as there is room. -/
def allowance (loader : Loader) (host : Surroundings) : Nat :=
  loader.maxIncludeDepth.getD (host.room + 1) + 1

theorem allowance_pos (loader : Loader) (host : Surroundings) : 0 < loader.allowance host :=
  Nat.succ_pos _

def exceeds? (loader : Loader) (depth : Nat) : Option Nat :=
  loader.maxIncludeDepth.filter (· < depth)

/--
The value of the document in a file, where `resolveNested` resolves it.  The limit is checked before
the file is opened.
-/
def includeFile (loader : Loader) (resolveNested : Document → Dialogue ConfigError Value)
    (depth : Nat) (path : Path) : Dialogue ConfigError Value :=
  match loader.exceeds? depth with
  | some limit => .fail (.ofCause (.includeDepthExceeded limit path))
  | none => do
      match ← Dialogue.readFile depth path with
      | .error failure => .fail (.ofCause (.includeNotFound path failure))
      | .ok text => do
          let document ← .ofExcept (Document.parse text (some path))
          resolveNested document

/--
The value of the document that a text names from a directory.  A text that names no file, because a
directory is missing for it, fails with the text itself, before anything else is checked.
-/
def includeWith (loader : Loader) (host : Surroundings)
    (resolveNested : Document → Dialogue ConfigError Value) (depth : Nat) (directory : Path)
    (text : String) : Dialogue ConfigError Value :=
  match Path.ofIncludeText host.workingDirectory host.home directory text with
  | .ok path => loader.includeFile resolveNested depth path
  | .error failure => .fail (.ofCause (.includeNotFound ⟨text⟩ failure))

section

variable {loader : Loader} {host : Surroundings} {directory : Path} {text : String}

theorem includeWith_of_named {file : Path}
    (named : Path.ofIncludeText host.workingDirectory host.home directory text = .ok file)
    (resolveNested : Document → Dialogue ConfigError Value) (depth : Nat) :
    loader.includeWith host resolveNested depth directory text =
      loader.includeFile resolveNested depth file := by
  unfold includeWith
  rw [named]

theorem includeWith_of_untold {failure : ReadFailure}
    (untold : Path.ofIncludeText host.workingDirectory host.home directory text = .error failure)
    (resolveNested : Document → Dialogue ConfigError Value) (depth : Nat) :
    loader.includeWith host resolveNested depth directory text =
      .fail (.ofCause (.includeNotFound ⟨text⟩ failure)) := by
  unfold includeWith
  rw [untold]

end

def scopeFor (loader : Loader) (host : Surroundings) (directory : Path)
    (includeText : String → Dialogue ConfigError Value) : Scope where
  tags := loader.tags
  runMode := loader.runMode
  directory := directory
  workingDirectory := host.workingDirectory
  now := host.now
  includeText := includeText

/-- The value of a document at some depth, with an allowance for nested documents. -/
def resolveWithin (loader : Loader) (host : Surroundings) :
    (allowance depth : Nat) → Document → Dialogue ConfigError Value
  | 0, _, _ => .unfinished
  | allowance + 1, depth, document =>
      let includeText :=
        loader.includeWith host (loader.resolveWithin host allowance (depth + 1)) (depth + 1)
          document.directory
      ((loader.scopeFor host document.directory includeText).resolve document.root).mapError
        (Failure.toError document.origin)

/-- The value of a document. -/
def resolveDocument (loader : Loader) (host : Surroundings) (document : Document) :
    Dialogue ConfigError Value :=
  loader.resolveWithin host (loader.allowance host) 0 document

def includeFrom (loader : Loader) (host : Surroundings) (directory : Path) (text : String) :
    Dialogue ConfigError Value :=
  loader.includeWith host (loader.resolveWithin host (loader.allowance host) 1) 1 directory text

/-- The value of the document of a source. -/
def load (loader : Loader) (host : Surroundings) (source : Source) :
    Dialogue ConfigError Value := do
  let document ← source.document
  loader.resolveDocument host document

end Loader

end TaggedConfig
