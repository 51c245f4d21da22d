import AjaxCallback.Behavior
import AjaxCallback.Toml.Load

/-!
# Layers of settings

The settings start from their defaults and are overlaid by the user's file, the project's file, a
file named on the command line, and the environment, each key on its own.
-/

namespace AjaxCallback

open Text Toml

structure SettingsLayer where
  debugMode : Option Bool := none
  baseUrl : Option String := none
deriving DecidableEq, Repr

namespace SettingsLayer

def schema : Schema := [("ajax-debug-mode", check boolean), ("base-url", check string)]

def ofEntries (entries : Entries) : Except Fault SettingsLayer := do
  entries.forM schema.checkEntry
  return {
    debugMode := ← optional entries "ajax-debug-mode" boolean
    baseUrl := ← optional entries "base-url" string }

end SettingsLayer

structure Environment where
  debugMode : Option ByteArray := none
  baseUrl : Option ByteArray := none

inductive ConfigurationError where
  | text (error : DocumentError)
  | file (path : String) (error : FileError)
  /-- The flag in the environment, trimmed and in lower case, is not one. -/
  | flag (value : String)
deriving DecidableEq, Repr

namespace ConfigurationError

def summary : ConfigurationError → String
  | text e => e.message
  | file path .unreadable => "Failed to read config file " ++ path
  | file path (.invalid _) => "Invalid config file " ++ path
  | flag _ => "Invalid value for CALLSCRIPT_AJAX_DEBUG"

def cause : ConfigurationError → Option String
  | file _ (.invalid e) => some e.message
  | flag value => some ("expected a boolean, got '" ++ value ++ "'")
  | text _ | file _ .unreadable => none

end ConfigurationError

/-- The flag that a word stands for; the empty word stands for no. -/
def flag? (word : String) : Option Bool :=
  if ["1", "true", "yes", "on"].contains word then some true
  else if ["0", "false", "no", "off", ""].contains word then some false
  else none

def parseFlag (value : String) : Except ConfigurationError Bool :=
  let word := lowerAscii (trim value)
  match flag? word with
  | some b => .ok b
  | none => .error (.flag word)

/-- Settings that are changed in place. What was assigned before a failure stays assigned. -/
abbrev Configure := ExceptT ConfigurationError (StateM Settings)

namespace Configure

def setDebugMode (debugMode : Bool) : Configure Unit :=
  modify fun settings => { settings with debugMode }

def setBaseUrl (baseUrl : String) : Configure Unit :=
  modify fun settings => { settings with baseUrl }

/-- Assigns the keys that a layer sets, one after the other. -/
def assign (layer : SettingsLayer) : Configure Unit := do
  layer.debugMode.forM setDebugMode
  layer.baseUrl.forM setBaseUrl

end Configure

inductive ConfigurationStep where
  | text (document : String)
  | file (source : NamedFile)
  | environment (values : Environment)

namespace ConfigurationStep

open Configure

/-- A variable that is not UTF-8 counts as unset. -/
def execute : ConfigurationStep → Configure Unit
  | text document => do
    let layer ← (readText SettingsLayer.ofEntries document).mapError ConfigurationError.text
    assign layer
  | file source => do
    let layer ← (readFile SettingsLayer.ofEntries source.file).mapError
      (ConfigurationError.file source.path)
    assign layer
  | environment values => do
    if let some value := values.debugMode.bind String.fromUTF8? then
      setDebugMode (← parseFlag value)
    (values.baseUrl.bind String.fromUTF8?).forM setBaseUrl

def apply (step : ConfigurationStep) (settings : Settings) : Except ConfigurationError Settings :=
  match step.execute.run.run settings with
  | (.ok _, settings) => .ok settings
  | (.error e, _) => .error e

/-- The settings after a step, whether it fails or not. -/
def run (step : ConfigurationStep) (settings : Settings) : Settings :=
  (step.execute.run.run settings).2

end ConfigurationStep

/-- Where settings come from, from the weakest source to the strongest. -/
structure Sources where
  user : Option NamedFile := none
  project : NamedFile
  /-- A file that the user named, which therefore has to be there. -/
  explicit : Option NamedFile := none
  environment : Environment := {}

namespace Sources

/-- The steps that the sources call for. A discovered file is passed over unless it is regular. -/
def steps (sources : Sources) : List ConfigurationStep :=
  ((sources.user.toList ++ [sources.project]).filter fun source => source.file.isRegular).map
      ConfigurationStep.file ++
    sources.explicit.toList.map ConfigurationStep.file ++
    [.environment sources.environment]

def load (sources : Sources) : Except ConfigurationError Settings :=
  sources.steps.foldlM (fun settings step => step.apply settings) {}

end Sources

end AjaxCallback
