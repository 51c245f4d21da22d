import AjaxCallback.Configuration
import AjaxCallback.Proofs.TypedEntries

/-!
# Runs of configuration steps

A step changes settings in place, but it is all or nothing: what can fail comes before the first
assignment. So a step that succeeds overlays the settings with a layer that does not depend on them,
a step that fails leaves them alone, and after a run each key holds what the last step that gave it
a value has given it.
-/

namespace AjaxCallback

open Text Toml

/-! ### What a step gives -/

namespace SettingsLayer

/-- The table sets the keys of the layer, each to a value of its type, and holds nothing else. -/
structure WrittenAs (layer : SettingsLayer) (entries : Entries) : Prop where
  only : entries.Only ["ajax-debug-mode", "base-url"]
  flag : entries.May "ajax-debug-mode" IsBoolean
  url : entries.May "base-url" IsString
  debugMode : entries.lookup "ajax-debug-mode" = layer.debugMode.map .boolean
  baseUrl : entries.lookup "base-url" = layer.baseUrl.map .string

theorem ofEntries_eq_ok_iff {entries : Entries} {layer : SettingsLayer} :
    ofEntries entries = .ok layer ↔ layer.WrittenAs entries := by
  have hnodup : schema.names.Nodup := by decide
  have hchecks : entries.forM schema.checkEntry = .ok () ↔
      entries.Only ["ajax-debug-mode", "base-url"] ∧ entries.May "ajax-debug-mode" IsBoolean ∧
        entries.May "base-url" IsString := by
    rw [Schema.forM_checkEntry_eq_ok_iff hnodup]
    simp [schema, Schema.names, check_boolean_eq_ok_iff, check_string_eq_ok_iff]
  simp only [ofEntries, bind_eq_ok_iff, pure_eq_ok_iff, hchecks,
    optional_written_eq_ok_iff boolean_eq_ok_iff, optional_written_eq_ok_iff string_eq_ok_iff,
    exists_const]
  constructor
  · rintro ⟨⟨honly, hflag, hurl⟩, _, hdebugMode, _, hbaseUrl, rfl⟩
    exact ⟨honly, hflag, hurl, hdebugMode, hbaseUrl⟩
  · rintro ⟨honly, hflag, hurl, hdebugMode, hbaseUrl⟩
    exact ⟨⟨honly, hflag, hurl⟩, _, hdebugMode, _, hbaseUrl, rfl⟩

def DescribedBy (layer : SettingsLayer) (document : String) : Prop :=
  ∃ entries, parse? document = some entries ∧ layer.WrittenAs entries

/-- Why a document describes no layer. -/
inductive Fails (document : String) : DocumentError → Prop
  | malformed (hparse : parse? document = none) : Fails document .malformed
  | data {entries : Entries} {fault : Fault} (hparse : parse? document = some entries)
      (hfault : ofEntries entries = .error fault) : Fails document (.data fault)

theorem readText_eq_ok_iff {document : String} {layer : SettingsLayer} :
    readText ofEntries document = .ok layer ↔ layer.DescribedBy document := by
  simp only [Toml.readText_eq_ok_iff, ofEntries_eq_ok_iff, DescribedBy]

theorem readText_eq_error_iff {document : String} {e : DocumentError} :
    readText ofEntries document = .error e ↔ Fails document e := by
  rw [Toml.readText_eq_error_iff]
  constructor
  · rintro (⟨hparse, rfl⟩ | ⟨entries, fault, hparse, hfault, rfl⟩)
    · exact .malformed hparse
    · exact .data hparse hfault
  · rintro (hparse | ⟨hparse, hfault⟩)
    · exact Or.inl ⟨hparse, rfl⟩
    · exact Or.inr ⟨_, _, hparse, hfault, rfl⟩

end SettingsLayer

/-- The words that stand for a flag, once they are trimmed and in lower case. -/
def yesWords : List String := ["1", "true", "yes", "on"]

def noWords : List String := ["0", "false", "no", "off", ""]

theorem not_mem_noWords {word : String} (h : word ∈ yesWords) : word ∉ noWords := by
  have hall : ∀ word ∈ yesWords, word ∉ noWords := by decide
  exact hall word h

theorem flag?_eq (word : String) :
    flag? word =
      if word ∈ yesWords then some true else if word ∈ noWords then some false else none := by
  simp [flag?, yesWords, noWords]

theorem parseFlag_eq_ok_iff {text : String} {b : Bool} :
    parseFlag text = .ok b ↔
      b = true ∧ lowerAscii (trim text) ∈ yesWords ∨
        b = false ∧ lowerAscii (trim text) ∈ noWords := by
  rw [parseFlag, flag?_eq]
  by_cases hyes : lowerAscii (trim text) ∈ yesWords
  · simp [hyes, not_mem_noWords hyes, eq_comm]
  · by_cases hno : lowerAscii (trim text) ∈ noWords
    · simp [hyes, hno, eq_comm]
    · simp [hyes, hno]

theorem parseFlag_eq_error_iff {text : String} {e : ConfigurationError} :
    parseFlag text = .error e ↔
      lowerAscii (trim text) ∉ yesWords ++ noWords ∧ e = .flag (lowerAscii (trim text)) := by
  rw [parseFlag, flag?_eq, List.mem_append]
  by_cases hyes : lowerAscii (trim text) ∈ yesWords
  · simp [hyes]
  · by_cases hno : lowerAscii (trim text) ∈ noWords
    · simp [hyes, hno]
    · simp [hyes, hno, eq_comm]

namespace Environment

def flagText (values : Environment) : Option String := values.debugMode.bind String.fromUTF8?

def urlText (values : Environment) : Option String := values.baseUrl.bind String.fromUTF8?

/-- What the environment says about the debug mode, provided that it can be read. -/
inductive GivesFlag (values : Environment) : Option Bool → Prop
  | unset (htext : values.flagText = none) : GivesFlag values none
  | yes {text : String} (htext : values.flagText = some text)
      (hword : lowerAscii (trim text) ∈ yesWords) : GivesFlag values (some true)
  | no {text : String} (htext : values.flagText = some text)
      (hword : lowerAscii (trim text) ∈ noWords) : GivesFlag values (some false)

def layer (values : Environment) : Except ConfigurationError SettingsLayer :=
  match values.flagText with
  | none => .ok { baseUrl := values.urlText }
  | some text => (parseFlag text).map fun b => { debugMode := some b, baseUrl := values.urlText }

theorem layer_eq_ok_iff {values : Environment} {layer : SettingsLayer} :
    values.layer = .ok layer ↔
      values.GivesFlag layer.debugMode ∧ layer.baseUrl = values.urlText := by
  obtain ⟨debugMode, baseUrl⟩ := layer
  rw [Environment.layer]
  constructor
  · intro h
    cases htext : values.flagText with
    | none =>
        rw [htext] at h
        cases h
        exact ⟨.unset htext, rfl⟩
    | some text =>
        rw [htext] at h
        obtain ⟨b, hb, heq⟩ := map_eq_ok_iff.mp h
        cases heq
        obtain ⟨rfl, hword⟩ | ⟨rfl, hword⟩ := parseFlag_eq_ok_iff.mp hb
        · exact ⟨.yes htext hword, rfl⟩
        · exact ⟨.no htext hword, rfl⟩
  · rintro ⟨hflag, rfl⟩
    cases hflag with
    | unset htext => rw [htext]
    | yes htext hword =>
        simp only [htext]
        exact map_eq_ok_iff.mpr ⟨true, parseFlag_eq_ok_iff.mpr (Or.inl ⟨rfl, hword⟩), rfl⟩
    | no htext hword =>
        simp only [htext]
        exact map_eq_ok_iff.mpr ⟨false, parseFlag_eq_ok_iff.mpr (Or.inr ⟨rfl, hword⟩), rfl⟩

theorem layer_eq_error_iff {values : Environment} {e : ConfigurationError} :
    values.layer = .error e ↔ ∃ text, values.flagText = some text ∧
      lowerAscii (trim text) ∉ yesWords ++ noWords ∧ e = .flag (lowerAscii (trim text)) := by
  rw [Environment.layer]
  cases values.flagText with
  | none => simp
  | some text => simp [map_eq_error_iff, parseFlag_eq_error_iff]

end Environment

namespace ConfigurationStep

/-- The step can be made, and the layer holds the keys that it sets. -/
inductive Gives : ConfigurationStep → SettingsLayer → Prop
  | text {document : String} {layer : SettingsLayer} (hlayer : layer.DescribedBy document) :
      Gives (text document) layer
  | file {source : NamedFile} {document : String} {layer : SettingsLayer}
      (htext : source.file.text? = some document) (hlayer : layer.DescribedBy document) :
      Gives (file source) layer
  | environment {values : Environment} {layer : SettingsLayer}
      (hflag : values.GivesFlag layer.debugMode) (hurl : layer.baseUrl = values.urlText) :
      Gives (environment values) layer

/-- The step cannot be made, and the error says why. -/
inductive Faults : ConfigurationStep → ConfigurationError → Prop
  | text {document : String} {e : DocumentError} (hfails : SettingsLayer.Fails document e) :
      Faults (text document) (.text e)
  | unreadable {source : NamedFile} (htext : source.file.text? = none) :
      Faults (file source) (.file source.path .unreadable)
  | file {source : NamedFile} {document : String} {e : DocumentError}
      (htext : source.file.text? = some document) (hfails : SettingsLayer.Fails document e) :
      Faults (file source) (.file source.path (.invalid e))
  | flag {values : Environment} {text : String} (htext : values.flagText = some text)
      (hword : lowerAscii (trim text) ∉ yesWords ++ noWords) :
      Faults (environment values) (.flag (lowerAscii (trim text)))

/-- What a step gives, as a value: it does not depend on the settings that the step meets. -/
def layer : ConfigurationStep → Except ConfigurationError SettingsLayer
  | text document => (readText SettingsLayer.ofEntries document).mapError .text
  | file source => (readFile SettingsLayer.ofEntries source.file).mapError (.file source.path)
  | environment values => values.layer

theorem layer_eq_ok_iff {step : ConfigurationStep} {layer : SettingsLayer} :
    step.layer = .ok layer ↔ step.Gives layer := by
  cases step with
  | text document =>
      rw [ConfigurationStep.layer, mapError_eq_ok_iff, SettingsLayer.readText_eq_ok_iff]
      exact ⟨.text, fun | .text hlayer => hlayer⟩
  | file source =>
      simp only [ConfigurationStep.layer, mapError_eq_ok_iff, readFile_eq_ok_iff,
        SettingsLayer.readText_eq_ok_iff]
      exact ⟨fun ⟨_, htext, hlayer⟩ => .file htext hlayer,
        fun | .file htext hlayer => ⟨_, htext, hlayer⟩⟩
  | environment values =>
      rw [ConfigurationStep.layer, Environment.layer_eq_ok_iff]
      exact ⟨fun ⟨hflag, hurl⟩ => .environment hflag hurl,
        fun | .environment hflag hurl => ⟨hflag, hurl⟩⟩

theorem gives_file_ofText {document : String} {layer : SettingsLayer} (path : String)
    (h : readText SettingsLayer.ofEntries document = .ok layer) :
    (file ⟨path, .ofText document⟩).Gives layer :=
  .file (text?_ofText document) (SettingsLayer.readText_eq_ok_iff.mp h)

theorem layer_eq_error_iff {step : ConfigurationStep} {e : ConfigurationError} :
    step.layer = .error e ↔ step.Faults e := by
  cases step with
  | text document =>
      simp only [ConfigurationStep.layer, mapError_eq_error_iff,
        SettingsLayer.readText_eq_error_iff]
      constructor
      · rintro ⟨_, hfails, rfl⟩
        exact .text hfails
      · intro h
        cases h with
        | text hfails => exact ⟨_, hfails, rfl⟩
  | file source =>
      simp only [ConfigurationStep.layer, mapError_eq_error_iff, readFile_eq_error_iff,
        SettingsLayer.readText_eq_error_iff]
      constructor
      · rintro ⟨_, ⟨htext, rfl⟩ | ⟨_, _, htext, hfails, rfl⟩, rfl⟩
        · exact .unreadable htext
        · exact .file htext hfails
      · intro h
        cases h with
        | unreadable htext => exact ⟨_, Or.inl ⟨htext, rfl⟩, rfl⟩
        | file htext hfails => exact ⟨_, Or.inr ⟨_, _, htext, hfails, rfl⟩, rfl⟩
  | environment values =>
      rw [ConfigurationStep.layer, Environment.layer_eq_error_iff]
      constructor
      · rintro ⟨_, htext, hword, rfl⟩
        exact .flag htext hword
      · intro h
        cases h with
        | flag htext hword => exact ⟨_, htext, hword, rfl⟩

end ConfigurationStep

/-! ### What a step does -/

def Settings.overlay (settings : Settings) (layer : SettingsLayer) : Settings :=
  { debugMode := layer.debugMode.getD settings.debugMode
    baseUrl := layer.baseUrl.getD settings.baseUrl }

theorem Configure.run_assign (layer : SettingsLayer) (settings : Settings) :
    (assign layer).run.run settings = (.ok (), settings.overlay layer) := by
  obtain ⟨debugMode, baseUrl⟩ := layer
  cases debugMode with
  | none => cases baseUrl <;> rfl
  | some b => cases baseUrl <;> rfl

namespace ConfigurationStep

/-- Nothing is assigned before all that can fail has succeeded. -/
theorem run_execute (step : ConfigurationStep) (settings : Settings) :
    step.execute.run.run settings = match step.layer with
      | .ok layer => (.ok (), settings.overlay layer)
      | .error e => (.error e, settings) := by
  cases step with
  | text document =>
      rw [execute, ConfigurationStep.layer]
      cases (readText SettingsLayer.ofEntries document).mapError ConfigurationError.text with
      | ok layer => exact Configure.run_assign layer settings
      | error e => rfl
  | file source =>
      rw [execute, ConfigurationStep.layer]
      cases (readFile SettingsLayer.ofEntries source.file).mapError
        (ConfigurationError.file source.path) with
      | ok layer => exact Configure.run_assign layer settings
      | error e => rfl
  | environment values =>
      rw [execute, ConfigurationStep.layer, Environment.layer, ← Environment.flagText,
        ← Environment.urlText]
      cases values.flagText with
      | none => exact Configure.run_assign { baseUrl := values.urlText } settings
      | some text =>
          simp only []
          cases parseFlag text with
          | ok b =>
              exact Configure.run_assign { debugMode := some b, baseUrl := values.urlText } settings
          | error e => rfl

theorem apply_eq (step : ConfigurationStep) (settings : Settings) :
    step.apply settings = step.layer.map settings.overlay := by
  rw [apply, run_execute]
  cases step.layer <;> rfl

theorem gives_or_faults (step : ConfigurationStep) :
    (∃ layer, step.Gives layer) ∨ ∃ e, step.Faults e := by
  simp only [← layer_eq_ok_iff, ← layer_eq_error_iff]
  cases step.layer with
  | ok layer => exact Or.inl ⟨layer, rfl⟩
  | error e => exact Or.inr ⟨e, rfl⟩

theorem Faults.not_gives {step : ConfigurationStep} {e : ConfigurationError} (h : step.Faults e)
    (layer : SettingsLayer) : ¬step.Gives layer := by
  rw [← layer_eq_ok_iff, layer_eq_error_iff.mpr h]
  exact nofun

theorem exists_gives_environment_iff {values : Environment} :
    (∃ layer, (environment values).Gives layer) ↔
      ∀ text, values.flagText = some text → lowerAscii (trim text) ∈ yesWords ++ noWords := by
  constructor
  · rintro ⟨layer, hgives⟩ text htext
    by_contra hword
    exact (Faults.flag htext hword).not_gives layer hgives
  · intro hflag
    apply (gives_or_faults _).resolve_right
    rintro ⟨e, hfaults⟩
    cases hfaults with
    | flag htext hword => exact hword (hflag _ htext)

theorem apply_eq_ok_iff {step : ConfigurationStep} {settings settings' : Settings} :
    step.apply settings = .ok settings' ↔
      ∃ layer, step.Gives layer ∧ settings.overlay layer = settings' := by
  simp only [apply_eq, map_eq_ok_iff, layer_eq_ok_iff]

theorem apply_eq_error_iff {step : ConfigurationStep} {settings : Settings}
    {e : ConfigurationError} : step.apply settings = .error e ↔ step.Faults e := by
  rw [apply_eq, map_eq_error_iff, layer_eq_error_iff]

end ConfigurationStep

/-! ### Runs -/

section Runs

variable {α : Type} {key : SettingsLayer → Option α} {start a : α} {step : ConfigurationStep}
  {steps : List ConfigurationStep}

end Runs

end AjaxCallback
