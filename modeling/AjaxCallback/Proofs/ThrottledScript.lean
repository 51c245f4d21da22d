import AjaxCallback.Proofs.Results
import AjaxCallback.Proofs.Splitting
import AjaxCallback.Throttle

/-!
# What a throttled script tells

A script is refused for one of three faults, and the message names the first of them. A throttled
script determines what it was made of, although nothing in it is escaped: its id ends at the first
quote, its delay is a run of digits, and what follows up to the closing is the script, which may
hold all that stands around it.
-/

namespace AjaxCallback

open Text

variable {script id : String} {delay : Option Delay}

/-! ### Refused scripts -/

namespace ThrottleError

/-- A fault is reported when nothing that is looked for before it is wrong. -/
def Arises (script id : String) (delay : Option Delay) : ThrottleError → Prop
  | blankScript => isBlank script = true
  | blankId => isBlank script = false ∧ isBlank id = true
  | missingDelay => isBlank script = false ∧ isBlank id = false ∧ delay = none

theorem message_injective {e e' : ThrottleError} (h : e.message = e'.message) : e = e' := by
  cases e <;> cases e' <;> first | rfl | exact absurd h (by decide)

theorem arises_or (script id : String) (delay : Option Delay) :
    (∃ e : ThrottleError, e.Arises script id delay) ∨
      isBlank script = false ∧ isBlank id = false ∧ ∃ d, delay = some d := by
  cases hscript : isBlank script with
  | true => exact Or.inl ⟨.blankScript, hscript⟩
  | false =>
      cases hid : isBlank id with
      | true => exact Or.inl ⟨.blankId, hscript, hid⟩
      | false =>
          cases delay with
          | none => exact Or.inl ⟨.missingDelay, hscript, hid, rfl⟩
          | some d => exact Or.inr ⟨rfl, rfl, d, rfl⟩

end ThrottleError

theorem throttleScript_of_arises {e : ThrottleError} (h : e.Arises script id delay) :
    throttleScript script id delay = .error e := by
  unfold throttleScript
  cases e with
  | blankScript => exact if_pos h
  | blankId =>
      obtain ⟨hscript, hid⟩ := h
      rw [if_neg (ne_true_of_eq_false hscript), if_pos hid]
  | missingDelay =>
      obtain ⟨hscript, hid, rfl⟩ := h
      rw [if_neg (ne_true_of_eq_false hscript), if_neg (ne_true_of_eq_false hid)]

theorem throttleScript_eq_error_iff {e : ThrottleError} :
    throttleScript script id delay = .error e ↔ e.Arises script id delay := by
  refine ⟨fun h => ?_, throttleScript_of_arises⟩
  rcases ThrottleError.arises_or script id delay with ⟨e', he'⟩ | ⟨hscript, hid, d, rfl⟩
  · rw [throttleScript_of_arises he'] at h
    exact Except.error.inj h ▸ he'
  · rw [throttleScript_of_not_blank hscript hid] at h
    cases h

theorem throttleScript_eq_ok_iff {throttled : String} :
    throttleScript script id delay = .ok throttled ↔
      isBlank script = false ∧ isBlank id = false ∧
        ∃ d, delay = some d ∧ throttled = throttleOpening id d ++ script ++ throttleClosing := by
  constructor
  · intro h
    rcases ThrottleError.arises_or script id delay with ⟨e, he⟩ | ⟨hscript, hid, d, rfl⟩
    · rw [throttleScript_of_arises he] at h
      cases h
    · rw [throttleScript_of_not_blank hscript hid] at h
      exact ⟨hscript, hid, d, rfl, (Except.ok.inj h).symm⟩
  · rintro ⟨hscript, hid, d, rfl, rfl⟩
    exact throttleScript_of_not_blank hscript hid d

theorem throttleScript_message_eq_iff (e : ThrottleError) :
    (throttleScript script id delay).mapError ThrottleError.message = .error e.message ↔
      e.Arises script id delay := by
  rw [mapError_eq_error_iff, ← throttleScript_eq_error_iff]
  constructor
  · rintro ⟨e', h, hmessage⟩
    rw [ThrottleError.message_injective hmessage]
    exact h
  · exact fun h => ⟨e, h, rfl⟩

/-! ### The delay in words -/

namespace Delay

/-- The whole milliseconds of a delay, computed in words: 64 bits hold the seconds, 32 bits hold the
rest in nanoseconds, and 128 bits the sum. -/
def wordMilliseconds (seconds : UInt64) (nanoseconds : UInt32) : BitVec 128 :=
  seconds.toBitVec.setWidth 128 * 1000#128 + (nanoseconds / 1000000).toBitVec.setWidth 128

/-- No word is too short, so nothing wraps around. -/
theorem toNat_wordMilliseconds (seconds : UInt64) (nanoseconds : UInt32) :
    (wordMilliseconds seconds nanoseconds).toNat
      = (ofSeconds seconds.toNat nanoseconds.toNat).wholeMilliseconds := by
  have hseconds := seconds.toNat_lt
  have hnanoseconds := nanoseconds.toNat_lt
  have hmillion : (1000000 : UInt32).toNat = 1000000 := rfl
  rw [wholeMilliseconds_ofSeconds]
  simp only [wordMilliseconds, BitVec.toNat_add, BitVec.toNat_mul, BitVec.toNat_setWidth,
    BitVec.toNat_ofNat, UInt64.toNat_toBitVec, UInt32.toNat_toBitVec, UInt32.toNat_div, hmillion]
  omega

end Delay

/-! ### Throttled scripts -/

theorem throttled_inj {script' id' : String} {d d' : Delay} (hid : '\'' ∉ id.toList)
    (hid' : '\'' ∉ id'.toList) :
    throttleOpening id d ++ script ++ throttleClosing
        = throttleOpening id' d' ++ script' ++ throttleClosing ↔
      id = id' ∧ d.wholeMilliseconds = d'.wholeMilliseconds ∧ script = script' := by
  have hopening (id : String) (d : Delay) : throttleOpening id d
      = "wicketThrottler.throttle( '" ++ id ++ "', " ++ toString d.wholeMilliseconds
        ++ ", function() \x7b " := rfl
  simp only [hopening]
  constructor
  · intro h
    simp only [String.append_assoc, String.append_right_inj] at h
    -- The id ends at the first quote, and the delay at the first character that is no digit.
    have hquote : "', ".toList = ['\'', ',', ' '] := by decide
    obtain ⟨rfl, hrest⟩ := append_delimiter_inj (· ≠ '\'') (List.forall_mem_ne'.mpr hid)
      (List.forall_mem_ne'.mpr hid') hquote (not_not_intro rfl) h
    obtain ⟨hdigits, hscript⟩ := append_delimiter_inj (Char.isDigit · = true)
      (fun _ => isDigit_of_mem_toString) (fun _ => isDigit_of_mem_toString) rfl (by decide) hrest
    exact ⟨rfl, eq_of_toString_eq hdigits, (String.append_left_inj _).mp hscript⟩
  · rintro ⟨rfl, hdelay, rfl⟩
    rw [hdelay]

/-- **Throttling is exact and unambiguous.** The message of a refusal names the first fault.
Otherwise the script and the id stand in the throttled script as they are, with the delay in whole
milliseconds, which words of 128 bits compute without wrapping around. As long as ids hold no quote,
two throttled scripts are equal only if they were made of the same id, whole milliseconds and
script. -/
theorem throttleScript_exact (script id : String) (delay : Option Delay) :
    let outcome := throttleScript script id delay
    (outcome.mapError ThrottleError.message
        = .error "Argument 'script' may not be null or empty." ↔ isBlank script = true) ∧
    (outcome.mapError ThrottleError.message
        = .error "Argument 'throttleId' may not be null or empty." ↔
      isBlank script = false ∧ isBlank id = true) ∧
    (outcome.mapError ThrottleError.message
        = .error "Argument 'throttleDelay' may not be null." ↔
      isBlank script = false ∧ isBlank id = false ∧ delay = none) ∧
    ((∃ throttled, outcome = .ok throttled) ↔
      isBlank script = false ∧ isBlank id = false ∧ delay ≠ none) ∧
    (∀ seconds nanoseconds throttled, delay = some (.ofSeconds seconds nanoseconds) →
      outcome = .ok throttled →
      throttled = "wicketThrottler.throttle( '" ++ id ++ "', "
        ++ toString ((seconds * 1000000000 + nanoseconds) / 1000000)
        ++ ", function() \x7b " ++ script ++ "\x7d.bind(this));") ∧
    (∀ (seconds : UInt64) (nanoseconds : UInt32),
      (Delay.wordMilliseconds seconds nanoseconds).toNat
        = (seconds.toNat * 1000000000 + nanoseconds.toNat) / 1000000) ∧
    ∀ (script' id' : String) (delay' : Option Delay) (throttled throttled' : String),
      '\'' ∉ id.toList → '\'' ∉ id'.toList →
      outcome = .ok throttled → throttleScript script' id' delay' = .ok throttled' →
      (throttled = throttled' ↔
        id = id' ∧ delay.map Delay.wholeMilliseconds = delay'.map Delay.wholeMilliseconds ∧
          script = script') := by
  refine ⟨throttleScript_message_eq_iff .blankScript, throttleScript_message_eq_iff .blankId,
    throttleScript_message_eq_iff .missingDelay, ?_, ?_, Delay.toNat_wordMilliseconds, ?_⟩
  · simp only [throttleScript_eq_ok_iff, Option.ne_none_iff_exists']
    constructor
    · rintro ⟨_, hscript, hid, d, hdelay, -⟩
      exact ⟨hscript, hid, d, hdelay⟩
    · rintro ⟨hscript, hid, d, hdelay⟩
      exact ⟨_, hscript, hid, d, hdelay, rfl⟩
  · rintro seconds nanoseconds throttled rfl hok
    obtain ⟨-, -, _, ⟨⟩, rfl⟩ := throttleScript_eq_ok_iff.mp hok
    rfl
  · intro script' id' delay' throttled throttled' hid hid' hok hok'
    obtain ⟨-, -, d, rfl, rfl⟩ := throttleScript_eq_ok_iff.mp hok
    obtain ⟨-, -, d', rfl, rfl⟩ := throttleScript_eq_ok_iff.mp hok'
    rw [throttled_inj hid hid', Option.map_some, Option.map_some, Option.some.injEq]

/-- The longest delay has more whole milliseconds than 64 bits can hold, and the script quotes the
opening of another throttle. -/
theorem throttleScript_exact_longest :
    let longest : Delay := .ofSeconds 18446744073709551615 999999999
    let rounded : Delay := .ofSeconds 18446744073709551615 999000000
    let script := "a(' k', 5, function() \x7b ');"
    '\'' ∉ " k".toList ∧ '\'' ∉ "k".toList ∧
    (∃ throttled, throttleScript script " k" (some longest) = .ok throttled ∧
      throttleScript script " k" (some rounded) = .ok throttled ∧
      throttleScript script "k" (some longest) ≠ .ok throttled ∧
      throttled = "wicketThrottler.throttle( ' k', 18446744073709551615999, function() \x7b "
        ++ script ++ "\x7d.bind(this));") ∧
    (throttleScript "\u2003" "" none).mapError ThrottleError.message
      = .error "Argument 'script' may not be null or empty." := by
  intro longest rounded script
  have hspaced : '\'' ∉ " k".toList := by decide
  have hplain : '\'' ∉ "k".toList := by decide
  obtain ⟨-, -, -, haccepted, htext, -, hequal⟩ := throttleScript_exact script " k" (some longest)
  obtain ⟨throttled, hok⟩ := haccepted.mpr ⟨by decide, by decide, nofun⟩
  refine ⟨hspaced, hplain, ⟨throttled, hok, ?_, ?_, ?_⟩, ?_⟩
  · have hrounded : throttleScript script " k" (some rounded)
        = .ok (throttleOpening " k" rounded ++ script ++ throttleClosing) :=
      throttleScript_of_not_blank (by decide) (by decide) rounded
    rw [hrounded, (hequal script " k" _ _ _ hspaced hspaced hok hrounded).mpr
      ⟨rfl, by decide, rfl⟩]
  · intro hok'
    obtain ⟨hid, -, -⟩ := (hequal script "k" _ _ _ hspaced hplain hok hok').mp rfl
    exact absurd hid (by decide)
  · have hdigits : toString ((18446744073709551615 * 1000000000 + 999999999) / 1000000)
        = "18446744073709551615999" := by decide +kernel
    rw [htext 18446744073709551615 999999999 throttled rfl hok, hdigits]
    rfl
  · exact (throttleScript_exact "\u2003" "" none).1.mpr (by decide)

end AjaxCallback
