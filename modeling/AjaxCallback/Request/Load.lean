import AjaxCallback.Request.Schema
import AjaxCallback.Toml.Load

namespace AjaxCallback

inductive RequestError where
  | file (path : String) (error : Toml.FileError)
  | build (error : BuildError)
deriving DecidableEq, Repr

namespace RequestError

def summary : RequestError → String
  | file path .unreadable => "Failed to read request file " ++ path
  | file path (.invalid _) => "Invalid request file " ++ path
  | build e => e.message

def cause : RequestError → Option String
  | file _ (.invalid e) => some e.message
  | file _ .unreadable | build _ => none

end RequestError

def Request.load (source : NamedFile) : Except RequestError Request :=
  (Toml.readFile Request.ofEntries source.file).mapError (.file source.path)

def ConfiguredCall.load (source : NamedFile) : Except RequestError ConfiguredCall := do
  let request ← Request.load source
  request.build.mapError .build

end AjaxCallback
