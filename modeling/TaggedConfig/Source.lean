import TaggedConfig.Document
import TaggedConfig.Dialogue
import TaggedConfig.Text.Quoted

/-!
# Sources

A document comes from a text, from a file, or from a stream of bytes that may have a name.
-/

namespace TaggedConfig

/-- Bytes that are read up to their end, or up to a failure. -/
structure ByteStream where
  content : ByteArray
  failure : Option ReadFailure

/-- The text of a stream; a failure of the stream comes before a complaint about its bytes. -/
def ByteStream.text (stream : ByteStream) : Except ReadFailure String :=
  match stream.failure, String.fromUTF8? stream.content with
  | some failure, _ => .error failure
  | none, some text => .ok text
  | none, none => .error .notText

/-- Where a document comes from. -/
inductive Source where
  | text (content : String)
  | file (path : Path)
  /-- The name of a stream is the file that it is taken for. -/
  | stream (bytes : ByteStream) (name : Option Path)

namespace Source

def origin : Source → Option Path
  | .text _ => none
  | .file path => some path
  | .stream _ name => name

def streamName : Path := ⟨"<reader>"⟩

/-- The document of a source; a file is read at depth zero. -/
def document : Source → Dialogue ConfigError Document
  | .text content => .ofExcept (Document.parse content none)
  | .file path => do
      match ← Dialogue.readFile 0 path with
      | .ok content => .ofExcept (Document.parse content (some path))
      | .error failure => .fail (.ofCause (.unreadableFile path failure))
  | .stream bytes name =>
      match bytes.text with
      | .ok content => .ofExcept (Document.parse content name)
      | .error failure => .fail (.ofCause (.unreadableFile (name.getD streamName) failure))

/-- A source as it is shown to a reader; the bytes of a stream are not shown. -/
def describe : Source → String
  | .text content => "Text(" ++ Text.quoted content ++ ")"
  | .file path => "Path(" ++ Text.quotedName path.text ++ ")"
  | .stream _ name =>
      "Reader \x7b name: "
        ++ name.elim "None" (fun path => "Some(" ++ Text.quotedName path.text ++ ")") ++ " \x7d"

end Source

end TaggedConfig
