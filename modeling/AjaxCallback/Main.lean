import AjaxCallback.CommandLine

namespace AjaxCallback.Main

def lookAt (path : String) : IO File := do
  try
    return .regular (← IO.FS.readBinFile path)
  catch
    | .noFileOrDirectory .. => return .missing
    | .inappropriateType .. => return .directory
    | _ => return .unreadable

def lookAtAll (paths : List String) : IO (List (String × File)) :=
  paths.mapM fun path => return (path, ← lookAt path)

def settingsDirectory : IO (Option String) := do
  match ← IO.getEnv "XDG_CONFIG_HOME" with
  | some directory => if directory.startsWith "/" then return some directory
  | none => pure ()
  return (← IO.getEnv "HOME").map (· ++ "/.config")

def userSettings : IO (Option NamedFile) := do
  match ← settingsDirectory with
  | none => return none
  | some directory =>
    let path := directory ++ "/callscript/" ++ World.projectSettings
    return some ⟨path, ← lookAt path⟩

end AjaxCallback.Main

open AjaxCallback Main in
/-- Runs the program on the files and the environment as they are. -/
def main (words : List String) : IO UInt32 := do
  let files ← lookAtAll (Program.paths words)
  let envValue (name : String) : IO (Option ByteArray) :=
    return (← IO.getEnv name).map String.toUTF8
  let world : World :=
    { file := fun path => (files.lookup path).getD .missing
      userSettings := ← userSettings
      environment :=
        { debugMode := ← envValue "CALLSCRIPT_AJAX_DEBUG"
          baseUrl := ← envValue "CALLSCRIPT_BASE_URL" } }
  let outcome := Program.run world words
  IO.print outcome.stdout
  if let some report := outcome.report then IO.eprintln report
  return outcome.exitCode.toUInt32
