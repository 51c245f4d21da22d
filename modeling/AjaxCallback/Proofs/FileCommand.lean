import AjaxCallback.CommandLine
import AjaxCallback.Proofs.TypedEntries

/-!
# Commands on a request file

What the commands that take a request file have in common: the words that ask for them, the stages
of loading the request, and the outcome of a run.
-/

namespace AjaxCallback

open Toml

/-! ### Loading -/

/-- The file can be read as text, and the text describes the request. -/
def File.Describes (file : File) (request : Request) : Prop :=
  ∃ text, file.text? = some text ∧ readText Request.ofEntries text = .ok request

theorem ConfiguredCall.load_eq_ok_iff {source : NamedFile} {call : ConfiguredCall} :
    ConfiguredCall.load source = .ok call ↔
      ∃ request, source.file.Describes request ∧ request.build = .ok call := by
  unfold ConfiguredCall.load Request.load
  simp only [bind_eq_ok_iff, mapError_eq_ok_iff, readFile_eq_ok_iff]
  rfl

/-- Reading, decoding and building fail in this order. -/
theorem ConfiguredCall.load_eq_error_iff {source : NamedFile} {e : RequestError} :
    ConfiguredCall.load source = .error e ↔
      source.file.text? = none ∧ e = .file source.path .unreadable ∨
        (∃ text fault, source.file.text? = some text ∧
          readText Request.ofEntries text = .error fault ∧ e = .file source.path (.invalid fault)) ∨
        ∃ request fault, source.file.Describes request ∧ request.build = .error fault ∧
          e = .build fault := by
  unfold ConfiguredCall.load Request.load
  simp only [bind_eq_error_iff, mapError_eq_error_iff, mapError_eq_ok_iff, readFile_eq_ok_iff,
    readFile_eq_error_iff]
  constructor
  · rintro (⟨_, ⟨htext, rfl⟩ | ⟨text, fault, htext, hread, rfl⟩, rfl⟩ |
      ⟨request, hdescribes, fault, hbuild, rfl⟩)
    · exact Or.inl ⟨htext, rfl⟩
    · exact Or.inr (Or.inl ⟨text, fault, htext, hread, rfl⟩)
    · exact Or.inr (Or.inr ⟨request, fault, hdescribes, hbuild, rfl⟩)
  · rintro (⟨htext, rfl⟩ | ⟨text, fault, htext, hread, rfl⟩ |
      ⟨request, fault, hdescribes, hbuild, rfl⟩)
    · exact Or.inl ⟨_, Or.inl ⟨htext, rfl⟩, rfl⟩
    · exact Or.inl ⟨_, Or.inr ⟨text, fault, htext, hread, rfl⟩, rfl⟩
    · exact Or.inr ⟨request, hdescribes, fault, hbuild, rfl⟩

/-! ### The words of a command -/

theorem Argument.nextOption_of_isOperand {word : String} (h : isOperand word = true)
    (valued rest : List String) : nextOption valued (word :: rest) = none := by
  unfold nextOption
  unfold isOperand at h
  split
  case h_1 => rfl
  case h_2 => rfl
  case h_3 head tail _ heq =>
    obtain ⟨rfl, rfl⟩ := List.cons.inj heq
    split
    case h_1 htext => simp [htext] at h
    case h_2 htext => simp [htext] at h
    case h_3 => rfl

theorem Argument.progresses_nextOption (valued : List String) :
    Reader.Progresses (nextOption valued) := by
  intro words argument rest h
  unfold nextOption at h
  split at h
  case h_1 => cases h
  case h_2 => cases h
  case h_3 word tail _ =>
    split at h
    case h_1 text _ =>
      split at h
      case h_1 =>
        obtain ⟨-, rfl⟩ := Prod.mk.inj (Option.some.inj h)
        exact Nat.lt_succ_self _
      case h_2 =>
        split at h
        · split at h
          · obtain ⟨-, rfl⟩ := Prod.mk.inj (Option.some.inj h)
            simp only [List.length_cons]
            omega
          · obtain ⟨-, rfl⟩ := Prod.mk.inj (Option.some.inj h)
            exact Nat.zero_lt_succ _
        · obtain ⟨-, rfl⟩ := Prod.mk.inj (Option.some.inj h)
          exact Nat.lt_succ_self _
    case h_2 =>
      obtain ⟨-, rfl⟩ := Prod.mk.inj (Option.some.inj h)
      exact Nat.lt_succ_self _
    case h_3 => cases h

theorem Argument.next_of_isOperand {word : String} (h : isOperand word = true)
    (valued rest : List String) : next valued (word :: rest) = some (.operands [word], rest) := by
  unfold next
  split
  case h_1 heq => cases heq
  case h_2 heq =>
    obtain ⟨rfl, rfl⟩ := List.cons.inj heq
    exact absurd h (by decide)
  case h_3 heq =>
    obtain ⟨rfl, rfl⟩ := List.cons.inj heq
    rw [nextOption_of_isOperand h]
    rfl

theorem Form.readAll_file {path : String} (hpath : Argument.isOperand path = true)
    (hname : path.isEmpty = false) : Form.file.readAll [path] = .ok { operands := [path] } := by
  have hmany : Reader.many (Argument.next Form.file.valued) [path] = ([.operands [path]], []) := by
    rw [Reader.many, List.length_singleton, Reader.atMost, Argument.next_of_isOperand hpath]
    rfl
  have hadd : Form.file.addOperand {} path = .ok { operands := [path] } := by
    rw [addOperand, hname]
    rfl
  rw [readAll, hmany, List.foldlM_cons, add, List.foldlM_cons, hadd]
  rfl

/-- Options in front of the name of a command: a file with settings and a number of `-v`. -/
def optionWords (config : Option String) (verbosity : Nat) : List String :=
  (config.elim [] fun file => ["--config", file]) ++ List.replicate verbosity "-v"

def optionArguments (config : Option String) (verbosity : Nat) : List Argument :=
  (config.elim [] fun file => [.option "config" file])
    ++ List.replicate verbosity (.shortFlags ['v'])

theorem Argument.many_verbose {name : String} (hname : isOperand name = true)
    (valued words : List String) (n : Nat) :
    Reader.many (nextOption valued) (List.replicate n "-v" ++ name :: words)
      = (List.replicate n (.shortFlags ['v']), name :: words) := by
  induction n with
  | zero => exact Reader.many_of_none (nextOption_of_isOperand hname valued words)
  | succ n ih =>
      have hnext : nextOption valued ("-v" :: (List.replicate n "-v" ++ name :: words))
          = some (.shortFlags ['v'], List.replicate n "-v" ++ name :: words) := rfl
      rw [List.replicate_succ, List.cons_append,
        Reader.many_of_some (progresses_nextOption valued) hnext, ih]
      rfl

theorem Argument.many_optionWords {config : Option String} {name : String}
    (hname : isOperand name = true) (hconfig : ∀ file ∈ config, isOperand file = true)
    (words : List String) (n : Nat) :
    Reader.many (nextOption Form.program.valued) (optionWords config n ++ name :: words)
      = (optionArguments config n, name :: words) := by
  have hverbose := many_verbose hname Form.program.valued words n
  cases config with
  | none => exact hverbose
  | some file =>
      have hnext : nextOption Form.program.valued
            ("--config" :: file :: (List.replicate n "-v" ++ name :: words))
          = some (if isOperand file then .option "config" file else .faulty,
            List.replicate n "-v" ++ name :: words) := rfl
      rw [if_pos (hconfig file rfl)] at hnext
      have hmany := Reader.many_of_some (progresses_nextOption _) hnext
      rw [hverbose] at hmany
      exact hmany

theorem Form.foldlM_verbose (form : Form) (n : Nat) (given : Given) :
    (List.replicate n (Argument.shortFlags ['v'])).foldlM form.add given
      = .ok { given with verbosity := given.verbosity + n } := by
  induction n generalizing given with
  | zero => rfl
  | succ n ih =>
      have hadd : form.add given (.shortFlags ['v'])
          = .ok { given with verbosity := given.verbosity + 1 } := rfl
      rw [List.replicate_succ, List.foldlM_cons, hadd, Nat.add_comm n, ← Nat.add_assoc]
      exact ih _

theorem Form.foldlM_optionArguments {config : Option String}
    (hconfig : ∀ file ∈ config, file.isEmpty = false) (n : Nat) :
    (optionArguments config n).foldlM Form.program.add {} = .ok { config, verbosity := n } := by
  have hverbose (given : Given) (hgiven : given.verbosity = 0) :
      (List.replicate n (Argument.shortFlags ['v'])).foldlM Form.program.add given
        = .ok { given with verbosity := n } := by
    rw [foldlM_verbose, hgiven, Nat.zero_add]
  cases config with
  | none => exact hverbose {} rfl
  | some file =>
      have hadd : Form.program.add {} (.option "config" file) = .ok { config := some file } := by
        rw [add, addOption, hconfig file rfl]
        rfl
      rw [optionArguments, Option.elim_some, List.cons_append, List.foldlM_cons, hadd]
      exact hverbose { config := some file } rfl

/-- Any file whose name could not be an option may be named for the settings. -/
theorem Invocation.parse_optionWords {config : Option String} {name : String} {words : List String}
    {command : Command} {inner : Given} (hname : Argument.isOperand name = true)
    (hconfig : ∀ file ∈ config, Argument.isOperand file = true ∧ file.isEmpty = false)
    (hcommand : Command.parse name words = .ok (command, inner)) (verbosity : Nat) :
    Invocation.parse (optionWords config verbosity ++ name :: words)
      = .ok
        { command
          config := inner.config.or config
          verbosity := if inner.verbosity = 0 then verbosity else inner.verbosity } := by
  have hmany := Argument.many_optionWords hname (fun file hfile => (hconfig file hfile).1) words
    verbosity
  have hadd := Form.foldlM_optionArguments (fun file hfile => (hconfig file hfile).2) verbosity
  rw [parse, hmany]
  simp only [hadd, hcommand]
  rfl

/-! ### Outcomes -/

theorem Program.run_of_parse {world : World} {words : List String} {invocation : Invocation}
    (h : Invocation.parse words = .ok invocation) :
    Program.run world words = invocation.run world := by
  rw [Program.run, h]

end AjaxCallback
