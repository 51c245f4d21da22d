import AjaxCallback.Proofs.ChainWalk
import AjaxCallback.Proofs.RequestScript
import AjaxCallback.Proofs.Results

/-!
# Which requests can be built

A request is refused for two faults: it names no call, or one of its throttles has a blank id. The
first is looked for before the second, and a fault of a decoration counts wherever it stands in the
list. Every other request is built, and the chain of its behavior has one link for each decoration,
in the order of the list.
-/

namespace AjaxCallback

open Text

theorem Throttle.ofId_of_blank {id : String} (h : isBlank id = true) (delay : Delay) :
    Throttle.ofId id delay = .error .blankId :=
  dif_neg (ne_false_of_eq_true h)

theorem Throttle.ofId_of_not_blank {id : String} (h : isBlank id = false) (delay : Delay) :
    Throttle.ofId id delay = .ok ⟨id, delay, h⟩ := dif_pos h

namespace DecorationSpec

/-- The fault of a decoration: it is a throttle with a blank id. -/
def HasBlankId : DecorationSpec → Prop
  | throttle id _ => isBlank id = true
  | cancelEvent | wrap _ => False

instance : DecidablePred HasBlankId
  | throttle id _ => inferInstanceAs (Decidable (isBlank id = true))
  | cancelEvent | wrap _ => inferInstanceAs (Decidable False)

theorem link_eq_error_iff {spec : DecorationSpec} {delegate : Decoration} {e : BuildError} :
    spec.link delegate = .error e ↔ spec.HasBlankId ∧ e = .throttle .blankId := by
  cases spec with
  | cancelEvent | wrap _ =>
      constructor
      · intro h
        cases h
      · rintro ⟨hblank, -⟩
        cases hblank
  | throttle id milliseconds =>
      by_cases hblank : isBlank id = true
      · rw [link, Throttle.ofId_of_blank hblank]
        constructor
        · intro h
          exact ⟨hblank, (Except.error.inj h).symm⟩
        · rintro ⟨-, rfl⟩
          rfl
      · rw [link, Throttle.ofId_of_not_blank (eq_false_of_ne_true hblank)]
        constructor
        · intro h
          cases h
        · rintro ⟨h, -⟩
          exact absurd h hblank

theorem chain_eq_error_iff {specs : List DecorationSpec} {e : BuildError} :
    chain specs = .error e ↔ (∃ spec ∈ specs, spec.HasBlankId) ∧ e = .throttle .blankId := by
  induction specs generalizing e with
  | nil => exact ⟨nofun, nofun⟩
  | cons spec rest ih =>
      have hcons : chain (spec :: rest) = chain rest >>= spec.link := rfl
      rw [hcons, bind_eq_error_iff, ih]
      simp only [link_eq_error_iff, List.exists_mem_cons_iff]
      constructor
      · rintro (⟨hrest, he⟩ | ⟨_, -, hspec, he⟩)
        · exact ⟨Or.inr hrest, he⟩
        · exact ⟨Or.inl hspec, he⟩
      · rintro ⟨hfault, he⟩
        cases hchain : chain rest with
        | ok delegate =>
            have hrest : ¬ ∃ spec ∈ rest, spec.HasBlankId := fun h =>
              nomatch hchain.symm.trans (ih.mpr ⟨h, rfl⟩)
            exact Or.inr ⟨delegate, rfl, hfault.resolve_right hrest, he⟩
        | error e' => exact Or.inl ⟨(ih.mp hchain).1, he⟩

/-- The first link of a chain is the one that a decoration asks for, whatever it delegates to. -/
def Describes (spec : DecorationSpec) (link : Decoration) : Prop :=
  ∃ leaf, spec.Yields leaf ∧ link = leaf.link link.delegate

theorem links_of_chain {specs : List DecorationSpec} {d : Decoration} (h : chain specs = .ok d) :
    List.Forall₂ Describes specs d.links := by
  induction specs generalizing d with
  | nil =>
      obtain rfl : Decoration.absent = d := Except.ok.inj h
      exact .nil
  | cons spec rest ih =>
      obtain ⟨delegate, hrest, hlink⟩ := bind_eq_ok_iff.mp h
      obtain ⟨leaf, hleaf, rfl⟩ := link_eq_ok hlink
      have hlinks : (leaf.link delegate).links = leaf.link delegate :: delegate.links := by
        cases leaf <;> rfl
      have hdelegate : (leaf.link delegate).delegate = delegate := by cases leaf <;> rfl
      rw [hlinks]
      exact .cons ⟨leaf, hleaf, congrArg leaf.link hdelegate.symm⟩ (ih hrest)

theorem eq_absent_iff_of_chain {specs : List DecorationSpec} {d : Decoration}
    (h : chain specs = .ok d) : d = .absent ↔ specs = [] := by
  have hlinks := links_of_chain h
  cases specs with
  | nil => exact ⟨fun _ => rfl, fun _ => (Except.ok.inj h).symm⟩
  | cons spec rest =>
      constructor
      · rintro rfl
        cases hlinks
      · exact nofun

end DecorationSpec

namespace Request

variable {request : Request}

def NamesNoCall (request : Request) : Prop :=
  request.callbackUrl = none ∧ request.partialCall = none

def HasBlankId (request : Request) : Prop := ∃ spec ∈ request.decorations, spec.HasBlankId

theorem build_eq_error_iff {e : BuildError} :
    request.build = .error e ↔ (request.NamesNoCall ∧ e = .missingCall) ∨
      (¬ request.NamesNoCall ∧ request.HasBlankId ∧ e = .throttle .blankId) := by
  have hcall : (request.callbackUrl.isNone && request.partialCall.isNone) = true ↔
      request.NamesNoCall := by
    rw [Bool.and_eq_true, Option.isNone_iff_eq_none, Option.isNone_iff_eq_none]
    exact Iff.rfl
  by_cases h : request.NamesNoCall
  · rw [build, if_pos (hcall.mpr h), Except.error.injEq]
    constructor
    · exact fun he => Or.inl ⟨h, he.symm⟩
    · rintro (⟨-, rfl⟩ | ⟨hnot, -⟩)
      · rfl
      · exact absurd h hnot
  · rw [build, if_neg (mt hcall.mp h), bind_eq_error_iff, DecorationSpec.chain_eq_error_iff]
    constructor
    · rintro (⟨hid, he⟩ | ⟨_, -, hreturn⟩)
      · exact Or.inr ⟨h, hid, he⟩
      · cases hreturn
    · rintro (⟨hnone, -⟩ | ⟨-, hid, he⟩)
      · exact absurd hnone h
      · exact Or.inl ⟨hid, he⟩

theorem exists_build_eq_ok_iff :
    (∃ call, request.build = .ok call) ↔ ¬ request.NamesNoCall ∧ ¬ request.HasBlankId := by
  rw [exists_eq_ok_iff]
  simp only [ne_eq, build_eq_error_iff, not_or]
  constructor
  · intro h
    have hcall : ¬ request.NamesNoCall := fun hnone => (h .missingCall).1 ⟨hnone, rfl⟩
    exact ⟨hcall, fun hid => (h (.throttle .blankId)).2 ⟨hcall, hid, rfl⟩⟩
  · rintro ⟨hcall, hid⟩ e
    exact ⟨fun hfirst => hcall hfirst.1, fun hsecond => hid hsecond.2.1⟩

theorem build_message_eq_iff {text : String} :
    request.build.mapError BuildError.message = .error text ↔
      (request.NamesNoCall ∧ text = BuildError.missingCall.message) ∨
      (¬ request.NamesNoCall ∧ request.HasBlankId ∧
        text = (BuildError.throttle .blankId).message) := by
  rw [mapError_eq_error_iff]
  simp only [build_eq_error_iff]
  constructor
  · rintro ⟨e, ⟨h, rfl⟩ | ⟨hcall, hid, rfl⟩, rfl⟩
    · exact Or.inl ⟨h, rfl⟩
    · exact Or.inr ⟨hcall, hid, rfl⟩
  · rintro (⟨h, rfl⟩ | ⟨hcall, hid, rfl⟩)
    · exact ⟨_, Or.inl ⟨h, rfl⟩, rfl⟩
    · exact ⟨_, Or.inr ⟨hcall, hid, rfl⟩, rfl⟩

/-- **Which requests can be built.** The message names the first fault that is looked for. A request
without a fault is built, and what it says is handed on as it is: its chain has one link for each
decoration, of its kind and with its texts, its id and its delay, and each link delegates to the one
after it. -/
theorem build_accepts (request : Request) :
    (request.build.mapError BuildError.message
        = .error "Either 'callback-url' or 'partial-call' must be given" ↔
      request.NamesNoCall) ∧
    (request.build.mapError BuildError.message
        = .error "Argument 'throttleId' may not be null or empty." ↔
      ¬ request.NamesNoCall ∧ request.HasBlankId) ∧
    ((∃ call, request.build = .ok call) ↔ ¬ request.NamesNoCall ∧ ¬ request.HasBlankId) ∧
    ∀ call, request.build = .ok call →
      let d := call.behavior.decoration
      call = { behavior := request.behavior d, partialCall := request.partialCall } ∧
      List.Forall₂ DecorationSpec.Describes request.decorations d.links ∧
      (∀ i link, d.links[i]? = some link → link.delegate = d.links[i + 1]?.getD .absent) ∧
      (d = .absent ↔ request.decorations = []) := by
  have hne : BuildError.missingCall.message ≠ (BuildError.throttle .blankId).message := by decide
  refine ⟨?_, ?_, exists_build_eq_ok_iff, ?_⟩
  · rw [build_message_eq_iff]
    constructor
    · rintro (⟨h, -⟩ | ⟨-, -, htext⟩)
      · exact h
      · exact absurd htext hne
    · exact fun h => Or.inl ⟨h, rfl⟩
  · rw [build_message_eq_iff]
    constructor
    · rintro (⟨-, htext⟩ | ⟨hcall, hid, -⟩)
      · exact absurd htext.symm hne
      · exact ⟨hcall, hid⟩
    · exact fun ⟨hcall, hid⟩ => Or.inr ⟨hcall, hid, rfl⟩
  · intro call hbuild d
    obtain ⟨chain, hchain, rfl⟩ := build_eq_ok hbuild
    exact ⟨rfl, DecorationSpec.links_of_chain hchain,
      fun i link hlink => Decoration.delegate_of_getElem?_links hlink,
      DecorationSpec.eq_absent_iff_of_chain hchain⟩

/-- The throttle has the longest delay that fits into a word. -/
def searchDecorations : List DecorationSpec :=
  [.wrap { script := ⟨"go(", ")"⟩, references := ["go.js"] },
    .throttle " typing" 18446744073709551615, .cancelEvent]

theorem build_accepts_search :
    let request : Request :=
      { callbackUrl := some "?search"
        component := { element := { markupId := "query" } }
        decorations := searchDecorations }
    let uncalled : Request :=
      { request with callbackUrl := none, decorations := [.throttle "\u2003" 1] }
    ∃ call, request.build = .ok call ∧
      List.Forall₂ DecorationSpec.Describes searchDecorations call.behavior.decoration.links ∧
      call.behavior.decoration ≠ .absent ∧
      uncalled.HasBlankId ∧ uncalled.build.mapError BuildError.message
        = .error "Either 'callback-url' or 'partial-call' must be given" := by
  intro request uncalled
  obtain ⟨-, -, hok, hbuilt⟩ := build_accepts request
  have hcall : ¬ request.NamesNoCall := nofun
  have hid : ¬ ∃ spec ∈ searchDecorations, spec.HasBlankId := by decide
  obtain ⟨call, hcall⟩ := hok.mpr ⟨hcall, hid⟩
  obtain ⟨-, hlinks, -, habsent⟩ := hbuilt call hcall
  refine ⟨call, hcall, hlinks, mt habsent.mp nofun, ?_, ?_⟩
  · exact ⟨_, List.mem_cons_self, by decide⟩
  · exact (build_accepts uncalled).1.mpr ⟨rfl, rfl⟩

end Request

end AjaxCallback
