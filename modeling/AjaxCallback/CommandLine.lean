import AjaxCallback.Arguments
import AjaxCallback.Configuration
import AjaxCallback.Request.Load

/-!
# Running a command

A command sees the files and the environment as they were when it started and answers with its
output, a report of what went wrong, and the status with which the program ends.
-/

namespace AjaxCallback

/-- Everything outside the program that a command can depend on. -/
structure World where
  file : String → File
  userSettings : Option NamedFile := none
  environment : Environment := {}

namespace World

def projectSettings : String := "callscript.toml"

def named (world : World) (path : String) : NamedFile := ⟨path, world.file path⟩

def sources (world : World) (config : Option String) : Sources :=
  { user := world.userSettings
    project := world.named projectSettings
    explicit := config.map world.named
    environment := world.environment }

end World

inductive CommandError where
  | configuration (error : ConfigurationError)
  | request (error : RequestError)
  | throttle (error : ThrottleError)
deriving DecidableEq, Repr

namespace CommandError

def summary : CommandError → String
  | configuration e => e.summary
  | request e => e.summary
  | throttle e => e.message

def cause : CommandError → Option String
  | configuration e => e.cause
  | request e => e.cause
  | throttle _ => none

/-- The report shown to the user, of which the first line says what went wrong. -/
def report (e : CommandError) : String :=
  "Error: " ++ e.summary ++ (e.cause.map ("\n\nCaused by:\n    " ++ ·)).getD ""

end CommandError

def Command.run (world : World) (config : Option String) :
    Command → Except CommandError (List String)
  | compose request => do
    let call ← (ConfiguredCall.load (world.named request)).mapError .request
    return [call.script]
  | head request => do
    let settings ← ((world.sources config).load).mapError .configuration
    let call ← (ConfiguredCall.load (world.named request)).mapError .request
    return (call.behavior.renderHead settings .empty).items.map HeadItem.describe
  | throttle id milliseconds script => do
    let throttled ←
      (throttleScript script id (milliseconds.map Delay.ofMilliseconds)).mapError .throttle
    return [throttled]

structure Outcome where
  exitCode : Nat
  stdout : String
  report : Option String := none
deriving DecidableEq, Repr

namespace Outcome

def ofLines (lines : List String) : Outcome :=
  { exitCode := 0, stdout := String.join (lines.map (· ++ "\n")) }

def errorLine (outcome : Outcome) : Option String :=
  outcome.report.map fun report => String.ofList (report.toList.takeWhile (· != '\n'))

end Outcome

def Invocation.run (world : World) (invocation : Invocation) : Outcome :=
  match invocation.command.run world invocation.config with
  | .ok lines => .ofLines lines
  | .error e => { exitCode := 1, stdout := "", report := some e.report }

namespace Program

def version : String := "callscript 0.1.0"

def usage : String :=
  "Compose client-side Ajax callback scripts\n\n" ++
  "Usage: callscript [OPTIONS] <COMMAND>\n\n" ++
  "Commands:\n" ++
  "  compose   Print the callback script described by a request file\n" ++
  "  head      Print the header contributions of the behavior in a request file\n" ++
  "  throttle  Wrap a script so it runs at most once per delay window\n" ++
  "  help      Print this message or the help of the given subcommand(s)\n\n" ++
  "Options:\n" ++
  "      --config <CONFIG>  Additional configuration file, applied after user and project " ++
  "config\n" ++
  "  -v, --verbose...       Increase verbosity (-v info, -vv debug, -vvv trace)\n" ++
  "  -h, --help             Print help\n" ++
  "  -V, --version          Print version"

/-- The files that the program may read for the words of a command line, the user's own settings
apart. -/
def paths (words : List String) : List String :=
  match Invocation.parse words with
  | .error _ => []
  | .ok invocation =>
    match invocation.command with
    | .compose request => [request]
    | .head request => World.projectSettings :: request :: invocation.config.toList
    | .throttle _ _ _ => []

def run (world : World) (words : List String) : Outcome :=
  match Invocation.parse words with
  | .ok invocation => invocation.run world
  | .error .version => .ofLines [version]
  | .error .help => .ofLines [usage]
  | .error .misuse => { exitCode := 2, stdout := "" }

end Program

end AjaxCallback
