import AjaxCallback.Proofs.ConfigurationRun

/-!
# Which source of settings decides

Settings are loaded from up to four sources in a fixed order. The first faulty one is reported, also
when a later one would override all that it says; if there is none, each key takes the value of the
last source that sets it. The sources differ in what they tolerate: a discovered file need not be
there, a named one must be, and the environment may hold what is not UTF-8.
-/

namespace AjaxCallback

open Text Toml

namespace Sources

variable {source : Option NamedFile} {settings settings' : Settings} {e : ConfigurationError}

/-- The layer of a file, which is empty if there is no file. -/
def FileGives : Option NamedFile → SettingsLayer → Prop
  | none, layer => layer = {}
  | some file, layer => (ConfigurationStep.file file).Gives layer

def FileFaults (source : Option NamedFile) (e : ConfigurationError) : Prop :=
  ∃ file ∈ source, (ConfigurationStep.file file).Faults e

/-- A file that was discovered is passed over unless it is regular. -/
def discovered (source : Option NamedFile) : Option NamedFile :=
  source.filter fun file => file.file.isRegular

theorem exists_fileGives_iff :
    (∃ layer, FileGives source layer) ↔
      ∀ file ∈ source, ∃ layer, (ConfigurationStep.file file).Gives layer := by
  cases source with
  | none => simp [FileGives]
  | some file => simp [FileGives]

theorem exists_fileGives_discovered_iff :
    (∃ layer, FileGives (discovered source) layer) ↔
      ∀ file ∈ source, file.file.isRegular = true →
        ∃ layer, (ConfigurationStep.file file).Gives layer := by
  rw [exists_fileGives_iff]
  simp only [discovered, Option.mem_def, Option.filter_eq_some_iff, and_imp]

def mergeFile (source : Option NamedFile) (settings : Settings) :
    Except ConfigurationError Settings :=
  match source with
  | none => .ok settings
  | some file => (ConfigurationStep.file file).apply settings

theorem mergeFile_eq_ok_iff :
    mergeFile source settings = .ok settings' ↔
      ∃ layer, FileGives source layer ∧ settings.overlay layer = settings' := by
  cases source with
  | none =>
      constructor
      · intro h
        exact ⟨{}, rfl, Except.ok.inj h⟩
      · rintro ⟨_, rfl, rfl⟩
        rfl
  | some file => exact ConfigurationStep.apply_eq_ok_iff

theorem mergeFile_eq_error_iff : mergeFile source settings = .error e ↔ FileFaults source e := by
  cases source with
  | none => simp [mergeFile, FileFaults]
  | some file => simp [mergeFile, FileFaults, ConfigurationStep.apply_eq_error_iff]

theorem toList_discovered (source : Option NamedFile) :
    (discovered source).toList = source.toList.filter fun file => file.file.isRegular := by
  cases source with
  | none => rfl
  | some file => by_cases hregular : file.file.isRegular <;> simp [discovered, hregular]

theorem steps_eq (sources : Sources) :
    sources.steps = (discovered sources.user).toList.map .file
      ++ ((discovered sources.project).toList.map .file
        ++ (sources.explicit.toList.map .file ++ [.environment sources.environment])) := by
  simp only [steps, toList_discovered, List.filter_append, List.map_append, List.append_assoc]
  rfl

theorem foldlM_toList_append (source : Option NamedFile) (steps : List ConfigurationStep)
    (settings : Settings) :
    (source.toList.map ConfigurationStep.file ++ steps).foldlM
        (fun settings step => step.apply settings) settings
      = mergeFile source settings >>= steps.foldlM fun settings step => step.apply settings := by
  cases source with
  | none => rfl
  | some file => rfl

theorem load_eq (sources : Sources) :
    sources.load =
      mergeFile (discovered sources.user) {} >>= fun settings =>
        mergeFile (discovered sources.project) settings >>= fun settings =>
          mergeFile sources.explicit settings >>=
            (ConfigurationStep.environment sources.environment).apply := by
  simp only [load, steps_eq, foldlM_toList_append, List.foldlM_cons, List.foldlM_nil, bind_pure]

/-- The layers of the four sources, on top of each other. -/
theorem load_eq_ok_iff {sources : Sources} {settings : Settings} :
    sources.load = .ok settings ↔ ∃ u p x v : SettingsLayer,
      FileGives (discovered sources.user) u ∧ FileGives (discovered sources.project) p ∧
        FileGives sources.explicit x ∧ (ConfigurationStep.environment sources.environment).Gives v ∧
          ((((({} : Settings).overlay u).overlay p).overlay x).overlay v) = settings := by
  simp only [load_eq, bind_eq_ok_iff, mergeFile_eq_ok_iff, ConfigurationStep.apply_eq_ok_iff]
  constructor
  · rintro ⟨_, ⟨u, hu, rfl⟩, _, ⟨p, hp, rfl⟩, _, ⟨x, hx, rfl⟩, v, hv, rfl⟩
    exact ⟨u, p, x, v, hu, hp, hx, hv, rfl⟩
  · rintro ⟨u, p, x, v, hu, hp, hx, hv, rfl⟩
    exact ⟨_, ⟨u, hu, rfl⟩, _, ⟨p, hp, rfl⟩, _, ⟨x, hx, rfl⟩, v, hv, rfl⟩

theorem mergeFile_bind_eq_error_iff {next : Settings → Except ConfigurationError Settings}
    {rest : Prop} (hnext : ∀ settings, next settings = .error e ↔ rest) :
    (mergeFile source settings >>= next) = .error e ↔
      FileFaults source e ∨ (∃ layer, FileGives source layer) ∧ rest := by
  simp only [bind_eq_error_iff, mergeFile_eq_error_iff, mergeFile_eq_ok_iff, hnext]
  apply or_congr_right
  constructor
  · rintro ⟨_, ⟨layer, hlayer, -⟩, hrest⟩
    exact ⟨⟨layer, hlayer⟩, hrest⟩
  · rintro ⟨⟨layer, hlayer⟩, hrest⟩
    exact ⟨_, ⟨layer, hlayer, rfl⟩, hrest⟩

theorem load_eq_error_iff {sources : Sources} :
    sources.load = .error e ↔
      FileFaults (discovered sources.user) e ∨
        (∃ layer, FileGives (discovered sources.user) layer) ∧
          (FileFaults (discovered sources.project) e ∨
            (∃ layer, FileGives (discovered sources.project) layer) ∧
              (FileFaults sources.explicit e ∨ (∃ layer, FileGives sources.explicit layer) ∧
                (ConfigurationStep.environment sources.environment).Faults e)) := by
  rw [load_eq]
  exact mergeFile_bind_eq_error_iff fun _ => mergeFile_bind_eq_error_iff fun _ =>
    mergeFile_bind_eq_error_iff fun _ => ConfigurationStep.apply_eq_error_iff

/-- **Precedence.** Loading succeeds when the files that were discovered, as far as they are regular,
and the file that was named can be read and the flag in the environment is one. Otherwise the first
of the sources that cannot be read is reported, whatever the later ones hold. On success each key has
the value of the last source that sets it. -/
theorem load_layers (sources : Sources) :
    let user := discovered sources.user
    let project := discovered sources.project
    let environment := ConfigurationStep.environment sources.environment
    ((∃ settings, sources.load = .ok settings) ↔
      (∀ file ∈ sources.user, file.file.isRegular = true →
        ∃ layer, (ConfigurationStep.file file).Gives layer) ∧
      (sources.project.file.isRegular = true →
        ∃ layer, (ConfigurationStep.file sources.project).Gives layer) ∧
      (∀ file ∈ sources.explicit, ∃ layer, (ConfigurationStep.file file).Gives layer) ∧
      ∀ text, sources.environment.debugMode.bind String.fromUTF8? = some text →
        lowerAscii (trim text) ∈ ["1", "true", "yes", "on", "0", "false", "no", "off", ""]) ∧
    (∀ e, sources.load = .error e ↔
      FileFaults user e ∨ (∃ layer, FileGives user layer) ∧
        (FileFaults project e ∨ (∃ layer, FileGives project layer) ∧
          (FileFaults sources.explicit e ∨ (∃ layer, FileGives sources.explicit layer) ∧
            environment.Faults e))) ∧
    ∀ u p x v : SettingsLayer, FileGives user u → FileGives project p →
      FileGives sources.explicit x → environment.Gives v →
        sources.load = .ok
          { debugMode :=
              v.debugMode.getD (x.debugMode.getD (p.debugMode.getD (u.debugMode.getD false)))
            baseUrl := v.baseUrl.getD (x.baseUrl.getD (p.baseUrl.getD (u.baseUrl.getD "."))) } := by
  intro user project environment
  refine ⟨?_, fun e => load_eq_error_iff, ?_⟩
  · have hlayers : (∃ settings, sources.load = .ok settings) ↔
        (∃ layer, FileGives user layer) ∧ (∃ layer, FileGives project layer) ∧
          (∃ layer, FileGives sources.explicit layer) ∧ ∃ layer, environment.Gives layer := by
      simp only [load_eq_ok_iff]
      constructor
      · rintro ⟨_, u, p, x, v, hu, hp, hx, hv, -⟩
        exact ⟨⟨u, hu⟩, ⟨p, hp⟩, ⟨x, hx⟩, v, hv⟩
      · rintro ⟨⟨u, hu⟩, ⟨p, hp⟩, ⟨x, hx⟩, v, hv⟩
        exact ⟨_, u, p, x, v, hu, hp, hx, hv, rfl⟩
    rw [hlayers, exists_fileGives_discovered_iff, exists_fileGives_discovered_iff,
      exists_fileGives_iff, ConfigurationStep.exists_gives_environment_iff]
    simp only [Option.mem_some_iff, forall_eq']
    rfl
  · intro u p x v hu hp hx hv
    exact load_eq_ok_iff.mpr ⟨u, p, x, v, hu, hp, hx, hv, rfl⟩

/-- A directory in place of the project's file, and a variable that is not UTF-8. -/
def mixedSources (named : String) : Sources where
  user := some ⟨"user.toml", .ofText "ajax-debug-mode=true\nbase-url='/user'"⟩
  project := ⟨"callscript.toml", .directory⟩
  explicit := some ⟨"named.toml", .ofText named⟩
  environment := { debugMode := some "".toUTF8, baseUrl := some ⟨#[0xff]⟩ }

theorem load_layers_mixed :
    (mixedSources "base-url=''").load = .ok { debugMode := false, baseUrl := "" } ∧
      (mixedSources "base-url=").load
        = .error (.file "named.toml" (.invalid .malformed)) := by
  have huser (named : String) : FileGives (discovered (mixedSources named).user)
      { debugMode := some true, baseUrl := some "/user" } :=
    ConfigurationStep.gives_file_ofText _ (eq_ok_of_toOption (by decide +kernel))
  have hproject (named : String) : FileGives (discovered (mixedSources named).project) {} := rfl
  have hnamed : FileGives (mixedSources "base-url=''").explicit { baseUrl := some "" } :=
    ConfigurationStep.gives_file_ofText _ (eq_ok_of_toOption (by decide +kernel))
  have hflag : (mixedSources "base-url=''").environment.flagText = some "" := by decide +kernel
  have hurl : (mixedSources "base-url=''").environment.urlText = none := by decide +kernel
  have henvironment : (ConfigurationStep.environment (mixedSources "base-url=''").environment).Gives
      { debugMode := some false } :=
    .environment (.no hflag (by decide)) hurl.symm
  have hmalformed : FileFaults (mixedSources "base-url=").explicit
      (.file "named.toml" (.invalid .malformed)) :=
    ⟨_, rfl, .file (text?_ofText _) (.malformed (by decide +kernel))⟩
  refine ⟨(load_layers _).2.2 _ _ _ _ (huser _) (hproject _) hnamed henvironment, ?_⟩
  rw [(load_layers _).2.1]
  exact Or.inr ⟨⟨_, huser _⟩, Or.inr ⟨⟨_, hproject _⟩, Or.inl hmalformed⟩⟩

end Sources

end AjaxCallback
