import AjaxCallback.Proofs.FileCommand
import Mathlib.Data.List.TakeWhile

/-!
# What the compose command answers

The command depends on nothing but the request file: neither the settings nor the environment nor
any other option show in its outcome. It prints the composed script or nothing at all, and then its
report opens with the first of the stages reading, decoding and building that failed.
-/

namespace AjaxCallback

open Toml

/-! ### The first line of a report -/

def firstLine (text : String) : String := String.ofList (text.toList.takeWhile (· != '\n'))

theorem firstLine_append {text rest : String} (h : rest.toList.takeWhile (· != '\n') = []) :
    firstLine (text ++ rest) = firstLine text := by
  rw [firstLine, String.toList_append, List.takeWhile_append, h, List.append_nil]
  split
  case isTrue hlength =>
    have hwhole := (List.takeWhile_prefix (· != '\n')).eq_of_length hlength
    rw [firstLine, hwhole]
  case isFalse => rfl

theorem firstLine_of_notMem {text : String} (h : '\n' ∉ text.toList) : firstLine text = text := by
  have hall : ∀ c ∈ text.toList, (c != '\n') = true := by
    intro c hc
    rw [bne_iff_ne]
    exact fun heq => h (heq ▸ hc)
  rw [firstLine, List.takeWhile_eq_self_iff.mpr hall, String.ofList_toList]

/-- A cause starts a line of its own. -/
theorem CommandError.firstLine_report (e : CommandError) :
    firstLine e.report = firstLine ("Error: " ++ e.summary) := by
  apply firstLine_append
  cases e.cause with
  | none => rfl
  | some cause =>
      rw [Option.map_some, Option.getD_some, String.toList_append]
      rfl

theorem RequestError.error_summary_unreadable (path : String) :
    "Error: " ++ (file path .unreadable).summary
      = "Error: Failed to read request file " ++ path := by
  have hopening : "Error: Failed to read request file "
      = "Error: " ++ "Failed to read request file " := by decide +kernel
  rw [hopening, String.append_assoc]
  rfl

theorem RequestError.error_summary_invalid (path : String) (fault : DocumentError) :
    "Error: " ++ (file path (.invalid fault)).summary = "Error: Invalid request file " ++ path := by
  have hopening : "Error: Invalid request file " = "Error: " ++ "Invalid request file " := by
    decide +kernel
  rw [hopening, String.append_assoc]
  rfl

theorem BuildError.firstLine_message (e : BuildError) :
    firstLine ("Error: " ++ e.message) = "Error: " ++ e.message := by
  have hmessage : '\n' ∉ e.message.toList := by
    cases e with
    | missingCall => decide +kernel
    | throttle e => cases e <;> decide +kernel
  apply firstLine_of_notMem
  rw [String.toList_append, List.mem_append, not_or]
  exact ⟨by decide, hmessage⟩

/-! ### The words of the command -/

theorem Command.parse_compose {path : String} (hpath : Argument.isOperand path = true)
    (hname : path.isEmpty = false) :
    Command.parse "compose" [path] = .ok (.compose path, { operands := [path] }) := by
  unfold Command.parse
  simp only [Form.readAll_file hpath hname]
  rfl

/-- Any file whose name could not be an option may be named, after any options. -/
theorem Invocation.parse_compose {config : Option String} {path : String}
    (hpath : Argument.isOperand path = true) (hname : path.isEmpty = false)
    (hconfig : ∀ file ∈ config, Argument.isOperand file = true ∧ file.isEmpty = false)
    (verbosity : Nat) :
    Invocation.parse (optionWords config verbosity ++ ["compose", path])
      = .ok { command := .compose path, config, verbosity } :=
  parse_optionWords rfl hconfig (Command.parse_compose hpath hname) verbosity

/-! ### The outcome -/

/-- The outcome of composing what a file describes. -/
def composed (source : NamedFile) : Outcome :=
  match ConfiguredCall.load source with
  | .ok call => .ofLines [call.script]
  | .error e =>
    { exitCode := 1, stdout := "", report := some (CommandError.request e).report }

theorem Program.run_compose {world : World} {words : List String} {path : String}
    {config : Option String} {verbosity : Nat}
    (h : Invocation.parse words = .ok { command := .compose path, config, verbosity }) :
    Program.run world words = composed (world.named path) := by
  rw [run_of_parse h, Invocation.run, Command.run, composed]
  cases ConfiguredCall.load (world.named path) with
  | ok call => rfl
  | error e => rfl

section Composed

variable {source : NamedFile} {call : ConfiguredCall} {e : RequestError}

theorem composed_of_ok (h : ConfiguredCall.load source = .ok call) :
    composed source = { exitCode := 0, stdout := call.script ++ "\n" } := by
  have hlines : String.join [call.script ++ "\n"] = call.script ++ "\n" := by
    rw [String.join_cons, String.join_nil, String.append_empty]
  rw [composed, h, ← hlines]
  rfl

theorem composed_of_error (h : ConfiguredCall.load source = .error e) :
    composed source
      = { exitCode := 1, stdout := "", report := some (CommandError.request e).report } := by
  rw [composed, h]

theorem exitCode_composed_eq_zero_iff :
    (composed source).exitCode = 0 ↔ ∃ call, ConfiguredCall.load source = .ok call := by
  cases hload : ConfiguredCall.load source with
  | ok call =>
      rw [composed_of_ok hload]
      exact ⟨fun _ => ⟨call, rfl⟩, fun _ => rfl⟩
  | error e =>
      rw [composed_of_error hload]
      exact ⟨fun hcode => absurd hcode Nat.one_ne_zero, fun ⟨_, hok⟩ => nomatch hok⟩

theorem composed_of_exitCode_ne_zero (h : (composed source).exitCode ≠ 0) :
    (composed source).exitCode = 1 ∧ (composed source).stdout = "" := by
  cases hload : ConfiguredCall.load source with
  | ok call => exact absurd (exitCode_composed_eq_zero_iff.mpr ⟨call, hload⟩) h
  | error e =>
      rw [composed_of_error hload]
      exact ⟨rfl, rfl⟩

theorem errorLine_composed (h : ConfiguredCall.load source = .error e) :
    (composed source).errorLine = some (firstLine ("Error: " ++ e.summary)) := by
  rw [composed_of_error h]
  exact congrArg some (CommandError.firstLine_report (.request e))

end Composed

/-- **Composing is isolated and all or nothing.** Two runs on the same file come to the same
outcome, whatever else there is in the two worlds and whichever options are given. The command
succeeds when the file can be read, describes a request, and the request can be built; it then
prints the script of the request. Otherwise it prints nothing, and the first line of its report
names the first of these stages that failed. -/
theorem run_compose_isolated {world world' : World} {words words' : List String} {path : String}
    {config config' : Option String} {verbosity verbosity' : Nat}
    (hparse : Invocation.parse words = .ok { command := .compose path, config, verbosity })
    (hparse' : Invocation.parse words'
      = .ok { command := .compose path, config := config', verbosity := verbosity' })
    (hfile : world'.file path = world.file path) :
    let outcome := Program.run world words
    let file := world.file path
    Program.run world' words' = outcome ∧
    (outcome.exitCode = 0 ↔ ∃ request call, file.Describes request ∧ request.build = .ok call) ∧
    (∀ request call, file.Describes request → request.build = .ok call →
      outcome.stdout = call.script ++ "\n" ∧ outcome.errorLine = none) ∧
    (outcome.exitCode ≠ 0 → outcome.exitCode = 1 ∧ outcome.stdout = "") ∧
    (file.text? = none →
      outcome.errorLine = some (firstLine ("Error: Failed to read request file " ++ path))) ∧
    (∀ text fault, file.text? = some text → readText Request.ofEntries text = .error fault →
      outcome.errorLine = some (firstLine ("Error: Invalid request file " ++ path))) ∧
    ∀ request fault, file.Describes request → request.build = .error fault →
      outcome.errorLine = some ("Error: " ++ fault.message) := by
  intro outcome file
  have houtcome : outcome = composed ⟨path, file⟩ := Program.run_compose hparse
  have houtcome' : Program.run world' words' = composed ⟨path, file⟩ := by
    rw [Program.run_compose hparse', World.named, hfile]
  rw [houtcome, houtcome']
  refine ⟨rfl, ?_, ?_, composed_of_exitCode_ne_zero, ?_, ?_, ?_⟩
  · rw [exitCode_composed_eq_zero_iff]
    simp only [ConfiguredCall.load_eq_ok_iff]
    exact exists_comm
  · intro request call hdescribes hbuild
    rw [composed_of_ok (ConfiguredCall.load_eq_ok_iff.mpr ⟨request, hdescribes, hbuild⟩)]
    exact ⟨rfl, rfl⟩
  · intro htext
    have hload : ConfiguredCall.load ⟨path, file⟩ = .error (.file path .unreadable) :=
      ConfiguredCall.load_eq_error_iff.mpr (Or.inl ⟨htext, rfl⟩)
    rw [errorLine_composed hload, RequestError.error_summary_unreadable]
  · intro text fault htext hread
    have hload : ConfiguredCall.load ⟨path, file⟩ = .error (.file path (.invalid fault)) :=
      ConfiguredCall.load_eq_error_iff.mpr (Or.inr (Or.inl ⟨text, fault, htext, hread, rfl⟩))
    rw [errorLine_composed hload, RequestError.error_summary_invalid]
  · intro request fault hdescribes hbuild
    have hload : ConfiguredCall.load ⟨path, file⟩ = .error (.build fault) :=
      ConfiguredCall.load_eq_error_iff.mpr
        (Or.inr (Or.inr ⟨request, fault, hdescribes, hbuild, rfl⟩))
    have hsummary : (RequestError.build fault).summary = fault.message := rfl
    rw [errorLine_composed hload, hsummary, fault.firstLine_message]

def linkText : String := "callback-url='?q'\ncomponent=\x7bmarkup-id='q',page=true\x7d"

def linkRequest : Request where
  callbackUrl := some "?q"
  component := { element := { markupId := "q", page := true } }

def bareWorld (text : String) : World where
  file path := if path = "link.toml" then .ofText text else .missing

/-- Nothing but the request can be read. -/
def brokenWorld (text : String) : World where
  file path := if path = "link.toml" then .ofText text else .directory
  userSettings := some ⟨"user.toml", .unreadable⟩
  environment := { debugMode := some "perhaps".toUTF8, baseUrl := some ⟨#[0xff]⟩ }

theorem script_of_build_linkRequest {call : ConfiguredCall} (h : linkRequest.build = .ok call) :
    call.script = "var wcall=wicketAjaxGet('?q',function() \x7b \x7d.bind(this),"
      ++ "function() \x7b \x7d.bind(this), function() \x7breturn true;\x7d.bind(this));" := by
  rw [← Except.ok.inj h]
  decide +kernel

theorem run_compose_isolated_link :
    (Program.run (brokenWorld linkText) ["--config", "no.toml", "-v", "-v", "compose", "link.toml"]
        = Program.run (bareWorld linkText) ["compose", "link.toml"] ∧
      (Program.run (bareWorld linkText) ["compose", "link.toml"]).exitCode = 0 ∧
      (Program.run (bareWorld linkText) ["compose", "link.toml"]).stdout
        = "var wcall=wicketAjaxGet('?q',function() \x7b \x7d.bind(this),"
          ++ "function() \x7b \x7d.bind(this), function() \x7breturn true;\x7d.bind(this));"
          ++ "\n") ∧
    (Program.run (bareWorld "") ["compose", "link.toml"]).errorLine
      = some (firstLine ("Error: Invalid request file " ++ "link.toml")) := by
  have hparse : Invocation.parse (optionWords none 0 ++ ["compose", "link.toml"])
      = .ok { command := .compose "link.toml" } :=
    Invocation.parse_compose rfl rfl (by simp) 0
  have hnamed : ∀ file ∈ some "no.toml", Argument.isOperand file = true ∧ file.isEmpty = false := by
    rintro _ ⟨⟩
    exact ⟨rfl, rfl⟩
  have hparse' : Invocation.parse (optionWords (some "no.toml") 2 ++ ["compose", "link.toml"])
      = .ok { command := .compose "link.toml", config := some "no.toml", verbosity := 2 } :=
    Invocation.parse_compose rfl rfl hnamed 2
  have hfile (text : String) : (bareWorld text).file "link.toml" = .ofText text := by
    simp [bareWorld]
  have hagree (text : String) :
      (brokenWorld text).file "link.toml" = (bareWorld text).file "link.toml" := by
    simp [bareWorld, brokenWorld]
  have hdescribes : ((bareWorld linkText).file "link.toml").Describes linkRequest := by
    rw [hfile]
    exact ⟨linkText, text?_ofText linkText, eq_ok_of_toOption (by decide +kernel)⟩
  obtain ⟨call, hbuild⟩ : ∃ call, linkRequest.build = .ok call := ⟨_, rfl⟩
  obtain ⟨hsame, hcode, hprinted, -⟩ := run_compose_isolated hparse hparse' (hagree linkText)
  refine ⟨⟨hsame, hcode.mpr ⟨_, _, hdescribes, hbuild⟩, ?_⟩, ?_⟩
  · rw [← script_of_build_linkRequest hbuild]
    exact (hprinted _ _ hdescribes hbuild).1
  · have hempty : readText Request.ofEntries "" = .error (.data (.missingField "component")) := rfl
    have htext : ((bareWorld "").file "link.toml").text? = some "" := by rw [hfile, text?_ofText]
    obtain ⟨-, -, -, -, -, hinvalid, -⟩ := run_compose_isolated hparse hparse' (hagree "")
    exact hinvalid "" _ htext hempty

end AjaxCallback
